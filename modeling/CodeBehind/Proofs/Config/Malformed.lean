import CodeBehind.Proofs.CommandLine.Course
import CodeBehind.Proofs.Config.Sections

/-!
# Malformed configurations

Which JSON files are refused as configurations, and what is left of the shared configuration then.

A file is malformed if its bytes are no text, the text is no document of JSON, the root is neither null nor a mapping,
or a section that is there is neither null nor a mapping (`IsMalformed`). Every malformed file is refused with a problem
that names it, but for one kind. A section is passed over if it does not count as true, so that null and a missing
section are alike; and so is `false`, zero, an empty text or an empty list. A file with nothing worse than that slips
through (`SlipsThrough`), and its settings are the defaults of the section. There is no other way for a file that is
there to fail, and every other file is loaded.

Whoever asks for the shared configuration, or runs a command, shares a configuration only once it has been loaded. So if
loading fails, for whatever reason, the shared configuration is the one that it was.

## Main definitions

* `IsMalformed`: What a configuration file must not hold.
* `SlipsThrough`: A malformed file that is loaded all the same.
* `IsRefused`: What is refused, in terms of what the reader looks at.

## Main results

* `load_refuses`: Files are refused if they are malformed and do not slip through, and loaded otherwise; a failure
  leaves the shared configuration alone.

## Theorems

* `load_of_isRefused`, `load_of_not_isRefused`: What is refused, and what is loaded.
* `isRefused_iff`: What is refused is malformed and does not slip through.
-/

namespace CodeBehind

namespace Config

/-! ## Malformed files -/

/-- A configuration file is malformed: its bytes are no text, the text is no document whose whole numbers keep a limit
    on their digits, if there is one, the root is neither null nor a mapping, or a section is there and neither null nor
    a mapping. -/
inductive IsMalformed (limit : Option Nat) (content : ByteArray) : Prop
  | bytes (fault : Text.Utf8Fault) (h : Text.decode content = .error fault)
  | text (text : String) (h : Text.decode content = .ok text)
      (hnone : ∀ v, ¬Json.IsDocument limit (Text.unifyLineEndings text.toList) v)
  | root (v : Value) (h : Holds limit content v) (hother : IsOther v)
  | group (entries : List (Value × Value)) (name : String) (v : Value) (h : Holds limit content (.mapping entries))
      (hname : name ∈ sectionNames) (hv : Value.lookup entries name = some v) (hother : IsOther v)

/-- A file is malformed in a section, and in every section that is neither null nor a mapping there is something that
    does not count as true. -/
def SlipsThrough (limit : Option Nat) (content : ByteArray) : Prop :=
  ∃ entries, Holds limit content (.mapping entries) ∧
    (∃ name ∈ sectionNames, ∃ v, Value.lookup entries name = some v ∧ IsOther v) ∧
    ∀ name ∈ sectionNames, ¬Refuses entries name

/-- A file is refused: it holds no value, or one that is neither null nor a mapping, or one with a section that is
    refused. -/
inductive IsRefused (limit : Option Nat) (content : ByteArray) : Prop
  | unread (hnone : ∀ v, ¬Holds limit content v)
  | root (v : Value) (h : Holds limit content v) (hother : IsOther v)
  | group (entries : List (Value × Value)) (name : String) (h : Holds limit content (.mapping entries))
      (hname : name ∈ sectionNames) (hrefuses : Refuses entries name)

/-- A file that holds no value has bytes that are no text, or a text that is no document. -/
theorem isMalformed_of_not_holds (limit : Option Nat) (content : ByteArray) (hnone : ∀ v, ¬Holds limit content v) :
    IsMalformed limit content := by
  cases hdecode : Text.decode content with
  | error fault => exact .bytes fault hdecode
  | ok text => exact .text text hdecode fun v hdocument => hnone v ⟨text, hdecode, hdocument⟩

/-- What is refused is malformed and does not slip through. -/
theorem isRefused_iff (content : ByteArray) :
    IsRefused Json.readerLimit content ↔
      IsMalformed Json.readerLimit content ∧ ¬SlipsThrough Json.readerLimit content := by
  constructor
  · intro h
    cases h with
    | unread hnone =>
        refine ⟨isMalformed_of_not_holds _ content hnone, ?_⟩
        rintro ⟨entries, hholds, _⟩
        exact hnone _ hholds
    | root v h hother =>
        refine ⟨.root v h hother, ?_⟩
        rintro ⟨entries, hholds, _⟩
        rw [holds_unique content v _ h hholds] at hother
        exact hother
    | group entries name h hname hrefuses =>
        rcases hrefuses with ⟨v, hv, hother, htrue⟩
        refine ⟨.group entries name v h hname hv hother, ?_⟩
        rintro ⟨entries', hholds, _, hnone⟩
        have hentries := Value.mapping.inj (holds_unique content _ _ h hholds)
        exact hnone name hname (hentries ▸ ⟨v, hv, hother, htrue⟩)
  · rintro ⟨h, hslips⟩
    cases h with
    | bytes fault hdecode =>
        refine .unread ?_
        rintro v ⟨text, hdecode', _⟩
        rw [hdecode] at hdecode'
        cases hdecode'
    | text text hdecode hnone =>
        refine .unread ?_
        rintro v ⟨text', hdecode', hdocument⟩
        rw [hdecode, Except.ok.injEq] at hdecode'
        exact hnone v (hdecode' ▸ hdocument)
    | root v h hother => exact .root v h hother
    | group entries name v h hname hv hother =>
        -- One section is malformed, so some section must be refused if the file does not slip through.
        by_contra hrefused
        exact hslips ⟨entries, h, ⟨name, hname, v, hv, hother⟩, fun other hmem hrefuses =>
          hrefused (.group entries other h hmem hrefuses)⟩

/-! ## Loading -/

/-- A root that is neither null nor a mapping is a problem that names the file. -/
theorem announce_of_isOther (file : String) (v : Value) (h : IsOther v) :
    announce View.ofValue file v =
      ([], .error (.problem (.configuration "Configuration root must be a mapping" file))) := by
  have hnull : View.ofValue.isNull v = false := by
    cases v with
    | null => exact h.elim
    | _ => rfl
  have hroot : rootEntries View.ofValue file v =
      .error (.configuration "Configuration root must be a mapping" file) := by
    rw [rootEntries, hnull, if_neg Bool.false_ne_true]
    simp only [entries?_of_isOther v h]
  rw [announce, hroot]

section

variable (files : FileSystem) (path : Option String) (file : String) (content : ByteArray)
  (hfile : IsFile files path file content)
include hfile

/-- What is refused is a problem that names the file. -/
theorem load_of_isRefused (h : IsRefused Json.readerLimit content) :
    ∃ message, (load files path).2 = .error (.problem (.configuration message file)) := by
  cases h with
  | unread hnone =>
      rcases load_of_not_holds files path file content hfile hnone with ⟨message, hload⟩
      exact ⟨message, by rw [hload]⟩
  | root v h hother =>
      rw [load_of_holds files path file content hfile v h, announce_of_isOther file v hother]
      exact ⟨_, rfl⟩
  | group entries name h hname hrefuses =>
      rw [load_of_holds files path file content hfile _ h]
      exact ofEntries_refused file entries name hname hrefuses

/-- Everything else is loaded. -/
theorem load_of_not_isRefused (h : ¬IsRefused Json.readerLimit content) :
    ∃ config, (load files path).2 = .ok config := by
  have hholds : ∃ v, Holds Json.readerLimit content v := by
    by_contra hnone
    exact h (.unread fun v hv => hnone ⟨v, hv⟩)
  rcases hholds with ⟨v, hv⟩
  have hentries : ∃ entries, rootEntries View.ofValue file v = .ok entries ∧
      ∀ name ∈ sectionNames, ¬Refuses entries name := by
    cases v with
    | null =>
        refine ⟨[], rfl, ?_⟩
        rintro name _ ⟨_, hlookup, _⟩
        cases hlookup
    | mapping entries => exact ⟨entries, rfl, fun name hname hrefuses => h (.group entries name hv hname hrefuses)⟩
    | _ => exact absurd (.root _ hv trivial) h
  rcases hentries with ⟨entries, hroot, hnone⟩
  rw [load_of_holds files path file content hfile v hv, announce, hroot]
  exact ⟨_, ofEntries_ofValue file entries hnone⟩

end

/-! ## Malformed files and the shared configuration -/

open CodeBehind.Action CodeBehind.CommandLine

/-- A file that is there and is not one of YAML is refused with a problem that names it exactly if it is malformed and
    does not slip through, and it is loaded in every other case. Where reading the configuration fails, for the shared
    configuration or for a command, the shared configuration stays what it was. -/
theorem load_refuses (files : FileSystem) (path : Option String) (file : String) (content : ByteArray)
    (h : IsFile files path file content) :
    ((∃ message, (load files path).2 = .error (.problem (.configuration message file))) ↔
        IsMalformed Json.readerLimit content ∧ ¬SlipsThrough Json.readerLimit content) ∧
      (¬(IsMalformed Json.readerLimit content ∧ ¬SlipsThrough Json.readerLimit content) →
        ∃ config, (load files path).2 = .ok config) ∧
      (∀ (session after : Session) (failure : Failure),
        outcome sharedConfig session = (.error failure, after) → after.shared = session.shared) ∧
      ∀ (words : List String) (arguments : Arguments) (session after : Session) (failure : Failure),
        CommandLine.parse words = .ok arguments → outcome (chooseConfig arguments) session = (.error failure, after) →
          (outcome (command words) session).2.shared = session.shared := by
  rw [← isRefused_iff]
  refine ⟨⟨?_, load_of_isRefused files path file content h⟩, load_of_not_isRefused files path file content h,
    shared_of_sharedConfig,
    fun words arguments session after failure => shared_of_unread words arguments session after failure⟩
  rintro ⟨message, hload⟩
  by_contra hrefused
  rcases load_of_not_isRefused files path file content h hrefused with ⟨config, hload'⟩
  rw [hload] at hload'
  cases hload'

/-- A configuration file whose root is a list. -/
def listText : String := "[]"

/-- A configuration file whose first section is an empty text. -/
def emptySectionText : String := "\x7b\n  \"generator\": \"\"\n\x7d"

/-- A tree with both files. -/
def malformedFiles : FileSystem where
  entries := [(["home"], .directory), (["home", "list.json"], .file listText.toUTF8 0o644),
    (["home", "rosalina.json"], .file emptySectionText.toUTF8 0o644)]
  workdir := ["home"]
  umask := 0o022

theorem load_refuses_list :
    IsFile malformedFiles (some "list.json") "list.json" listText.toUTF8 ∧
      IsMalformed Json.readerLimit listText.toUTF8 ∧ ¬SlipsThrough Json.readerLimit listText.toUTF8 ∧
      ∃ message,
        (load malformedFiles (some "list.json")).2 = .error (.problem (.configuration message "list.json")) := by
  have hfile : IsFile malformedFiles (some "list.json") "list.json" listText.toUTF8 :=
    ⟨rfl, rfl, rfl⟩
  have htext : Json.write (.list []) = listText := rfl
  have hholds := holds_write (.list []) (.list [] (List.forall_mem_nil _))
  rw [htext] at hholds
  have hrefused := (isRefused_iff _).mp (.root _ hholds trivial)
  exact ⟨hfile, hrefused.1, hrefused.2,
    (load_refuses malformedFiles (some "list.json") "list.json" _ hfile).1.mpr hrefused⟩

/-- The file with an empty text for a section is malformed, and it is loaded. -/
theorem load_emptySection :
    IsFile malformedFiles (some "rosalina.json") "rosalina.json" emptySectionText.toUTF8 ∧
      IsMalformed Json.readerLimit emptySectionText.toUTF8 ∧
      (load malformedFiles (some "rosalina.json")).2 = .ok { file := "rosalina.json" } := by
  have hfile : IsFile malformedFiles (some "rosalina.json") "rosalina.json" emptySectionText.toUTF8 :=
    ⟨rfl, rfl, rfl⟩
  have htext : Json.write (.mapping (Json.textPairs [("generator", .text "")])) = emptySectionText := rfl
  have hplain : Json.IsPlain (.mapping (Json.textPairs [("generator", .text "")])) :=
    .mapping _ (by decide) (List.forall_mem_singleton.mpr (.text ""))
  have hholds := holds_write _ hplain
  rw [htext] at hholds
  have hmalformed : IsMalformed Json.readerLimit emptySectionText.toUTF8 :=
    .group _ "generator" (.text "") hholds (by decide) rfl trivial
  refine ⟨hfile, hmalformed, ?_⟩
  rw [load_of_holds malformedFiles (some "rosalina.json") "rosalina.json" _ hfile _ hholds]
  rfl

end Config

end CodeBehind
