import CodeBehind.Config.File
import CodeBehind.Proofs.FileSystem.InPlace
import CodeBehind.Proofs.Json.RoundTrip
import CodeBehind.Proofs.Text.Tidy
import CodeBehind.Proofs.Text.Utf8

/-!
# Saved configurations

A configuration that has been saved as JSON is loaded as it was.

The way from the settings to the file and back has four parts, and each undoes one on the way out. The settings are a
value of two mappings with different keys, which the reader of JSON gives back. The text of the value has no carriage
returns, so the line ends that are unified on the way in are all its own. A text is read back from its bytes. And the
path leads to the file that was put where it leads.

What is left is the way from the value to the settings. Nothing is missing from the value, so no default is used, and
the sections are not empty, so none of them is passed over. A missing version is null in the file and null is read as no
version, while every text is read as itself, be it empty or a text that says none.

## Main results

* `load_of_save`: Saving and loading.

## Theorems

* `isPlain_toValue`: The settings are a value that JSON keeps.
* `announce_toValue`: The settings that the value of a configuration gives.
* `files_of_save`: What saving does to the tree.
* `readContents_of_content`: What a saved file holds.
-/

namespace CodeBehind

namespace Config

/-! ## Settings and values -/

theorem isPlain_entries (pairs : List (String × Value)) (names : List String) (hnames : pairs.map Prod.fst = names)
    (hdistinct : names.Nodup) (h : ∀ pair ∈ pairs, Json.IsPlain pair.2) : Json.IsPlain (entries pairs) :=
  .mapping pairs (hnames ▸ hdistinct) h

/-- The settings are a value that JSON keeps. -/
theorem isPlain_toValue (config : Config) : Json.IsPlain config.toValue := by
  have hversion : Json.IsPlain ((config.generator.version.map Value.text).getD .null) := by
    cases config.generator.version with
    | none => exact .null
    | some version => exact .text version
  refine isPlain_entries _ ["generator", "logging"] rfl (by decide) ?_
  simp only [List.mem_cons, List.not_mem_nil, or_false, forall_eq_or_imp, forall_eq]
  constructor
  · refine isPlain_entries _ ["tool_name", "version", "document_extension"] rfl (by decide) ?_
    simp only [List.mem_cons, List.not_mem_nil, or_false, forall_eq_or_imp, forall_eq]
    exact ⟨.text _, hversion, .text _⟩
  · refine isPlain_entries _ ["level", "enable_file_logging", "log_file"] rfl (by decide) ?_
    simp only [List.mem_cons, List.not_mem_nil, or_false, forall_eq_or_imp, forall_eq]
    exact ⟨.text _, .truth _, .text _⟩

/-- The value of a configuration gives its settings. Both sections are there and every key is in them, so no default is
    used. -/
theorem announce_toValue (config : Config) :
    (announce View.ofValue config.file config.toValue).2 =
      .ok { file := config.file, generator := config.generator, logging := config.logging } := by
  -- Only the version has two forms in the file.
  rcases config with ⟨file, ⟨toolName, version, documentExtension⟩, logging, stamp⟩
  cases version <;> rfl

/-! ## Files -/

/-- Saving puts the text of the configuration where its file is. -/
theorem files_of_save (files saved : FileSystem) (config : Config) (record : Log.Record)
    (h : save files config = .ok (saved, record)) :
    ∃ place mode, files.WritesTo config.file place mode ∧
      saved = files.set place (.file config.content.toUTF8 mode) ∧
      record = Log.record moduleLogger .info ("Configuration saved to " ++ config.file) := by
  rw [save] at h
  split at h
  · next place opened hopen =>
      rcases FileSystem.fill_openFile files opened config.file place config.content.toUTF8 hopen with
        ⟨mode, hwrites, hfill⟩
      rw [Except.ok.injEq, Prod.mk.injEq, hfill] at h
      exact ⟨place, mode, hwrites, h.1.symm, h.2.symm⟩
  · split at h
    · simp only [reduceCtorEq] at h
    · simp only [reduceCtorEq] at h

/-- A file with the text of a configuration holds its settings, if it is not one of YAML. -/
theorem readContents_of_content (files : FileSystem) (config : Config) (hformat : isYaml config.file = false)
    (hread : files.read config.file = .ok config.content.toUTF8) :
    readContents files config.file = .ok (.json config.toValue) := by
  have hplain := isPlain_toValue config
  have hcontent : config.content = Json.write config.toValue := by
    rw [content, hformat, if_neg Bool.false_ne_true]
  rw [readContents, hread]
  simp only [Text.decode_toUTF8]
  rw [hcontent, Text.unifyLineEndings_of_notMem _ (Json.return_notMem_write _ hplain), parse, hformat,
    if_neg Bool.false_ne_true, Json.read_write _ hplain]

/-- Once a configuration has been saved to a file that is not one of YAML, loading the file under any spelling of its
    path gives the sections of the configuration, and saving what was loaded leaves the very same tree, with the same
    bytes in the file. -/
theorem load_of_save (files saved : FileSystem) (config : Config) (path : String) (record : Log.Record)
    (hpath : path ≠ "") (hfile : Path.tidy path = config.file) (hformat : isYaml config.file = false)
    (hsave : save files config = .ok (saved, record)) :
    ∃ loaded, (load saved (some path)).2 = .ok loaded ∧ loaded.file = config.file ∧
      loaded.generator = config.generator ∧ loaded.logging = config.logging ∧
      saved.read config.file = .ok config.content.toUTF8 ∧ save saved loaded = .ok (saved, record) := by
  rcases files_of_save files saved config record hsave with ⟨place, mode, hwrites, hset, hrecord⟩
  rcases FileSystem.stat_of_writesTo files config.file place config.content.toUTF8 mode hwrites with ⟨hplace, hstat⟩
  rw [← hset] at hstat
  have hread : saved.read config.file = .ok config.content.toUTF8 := by
    rw [FileSystem.read, hstat]
  have hfind : saved.find? config.file = .ok (some (.file config.content.toUTF8 mode)) := by
    rw [FileSystem.find?, hstat]
  -- The path is looked at, read and opened in the tree that saving has left.
  refine ⟨{ file := config.file, generator := config.generator, logging := config.logging }, ?_, rfl, rfl, rfl,
    hread, ?_⟩
  · rw [load, chooseFile, if_neg hpath, hfile]
    simp only [hfind, readContents_of_content saved config hformat hread]
    exact announce_toValue config
  · -- The file is there by now, and it is filled with what it holds.
    have hopen := FileSystem.openFile_of_stat saved config.file place config.content.toUTF8 mode hstat
    have hfill := FileSystem.fill_again files place config.content.toUTF8 mode hplace
    rw [← hset] at hfill
    rw [save, hopen, hrecord]
    exact congrArg (fun tree => Except.ok (tree, _)) hfill

/-- A tree with a configuration file that only its owner may read. -/
def settingsTree : FileSystem where
  entries := [(["home"], .directory), (["home", "settings"], .directory),
    (["home", "settings", "app.json"], .file "\x7b\x7d".toUTF8 0o600)]
  workdir := ["home"]
  umask := 0o022

/-- Settings with a null byte, a quote, a backslash, line ends, a character of two code units, and a version that says
    none. -/
def oddSettings : Config where
  file := "settings/app.json"
  generator := { toolName := "\x00\"\\\r\n\x7f\u2028😀", version := some "None", documentExtension := "" }
  logging := { level := "null", fileLogging := true, logFile := "\\u0041" }

theorem load_of_save_odd :
    Path.tidy "./settings//app.json" = oddSettings.file ∧ isYaml oddSettings.file = false ∧
      ∃ saved record loaded, save settingsTree oddSettings = .ok (saved, record) ∧
        (load saved (some "./settings//app.json")).2 = .ok loaded ∧ loaded.generator = oddSettings.generator ∧
        loaded.generator.version = some "None" ∧ loaded.logging = oddSettings.logging ∧
        save saved loaded = .ok (saved, record) := by
  have hfile : Path.tidy "./settings//app.json" = oddSettings.file := by decide
  have hformat : isYaml oddSettings.file = false := by decide
  have hok : (save settingsTree oddSettings).isOk = true := by decide
  cases hsave : save settingsTree oddSettings with
  | error failure =>
      rw [hsave] at hok
      exact Bool.noConfusion hok
  | ok result =>
      rcases load_of_save settingsTree result.1 oddSettings "./settings//app.json" result.2 (by decide) hfile hformat
        hsave with ⟨loaded, hload, _, hgenerator, hlogging, _, hagain⟩
      refine ⟨hfile, hformat, result.1, result.2, loaded, rfl, hload, hgenerator, ?_, hlogging, hagain⟩
      rw [hgenerator]
      rfl

end Config

end CodeBehind
