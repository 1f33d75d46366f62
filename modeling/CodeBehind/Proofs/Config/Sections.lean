import CodeBehind.Config.File
import CodeBehind.Proofs.Json.Reading
import CodeBehind.Proofs.Text.Tidy
import CodeBehind.Proofs.Text.Utf8

/-!
# Sections of a JSON file

What a configuration file that is not one of YAML holds, and what its sections give.

Between the file and the settings there are two decisions. The bytes of the file must be a text that is a document of
JSON (`Holds`), whose value is null or a mapping. And each of the two sections is refused if it is there, counts as true
and is no mapping (`Refuses`); in every other case it has entries, be it none (`sectionOf`).

From then on nothing can go wrong. Every value that JSON has can be shown, so each field is a plain function of what the
section has under its key, and the sections of a configuration are made of the fields.

## Main definitions

* `IsFile`: The file that a path asks for is not one of YAML and has these bytes.
* `Holds`: Some bytes are a document that denotes a value.
* `IsOther`, `Refuses`: A section that cannot be read.
* `sectionOf`, `generatorOf`, `loggingOf`: What the value of a section gives.

## Main results

* `holds_write`: What plain values are written as holds them.
* `load_of_holds`, `load_of_not_holds`: What loading a file comes down to.
* `ofEntries_ofValue`: The configuration that the entries of a root give if no section is refused.
* `ofEntries_refused`: A refused section is a problem that names the file.
-/

namespace CodeBehind

namespace Config

/-! ## Files -/

/-- A path asks for a file that is there, is not one of YAML and has these bytes. -/
structure IsFile (files : FileSystem) (path : Option String) (file : String) (content : ByteArray) : Prop where
  chosen : chooseFile files path = .ok file
  format : isYaml file = false
  bytes : files.read file = .ok content

/-- Some bytes are a document that denotes a value, where whole numbers keep a limit on their digits, if there is one.
    Line ends are unified before the document is read. -/
def Holds (limit : Option Nat) (content : ByteArray) (v : Value) : Prop :=
  ∃ text, Text.decode content = .ok text ∧ Json.IsDocument limit (Text.unifyLineEndings text.toList) v

theorem holds_unique (content : ByteArray) (v v' : Value) (h : Holds Json.readerLimit content v)
    (h' : Holds Json.readerLimit content v') : v = v' := by
  rcases h with ⟨text, hdecode, hv⟩
  rcases h' with ⟨text', hdecode', hv'⟩
  rw [hdecode, Except.ok.injEq] at hdecode'
  rw [← hdecode'] at hv'
  exact Json.isDocument_unique _ v v' hv hv'

theorem holds_none (limit : Option Nat) (content : ByteArray) (v : Value) (h : Holds limit content v) :
    Holds none content v := by
  rcases h with ⟨text, hdecode, hdocument⟩
  exact ⟨text, hdecode, Json.isDocument_none limit _ v hdocument⟩

/-- A document beyond the limit of the reader holds no value for it. -/
theorem not_holds_of_excess (content : ByteArray) (v : Value) (h : Holds none content v)
    (hexcess : ¬Holds Json.readerLimit content v) (v' : Value) : ¬Holds Json.readerLimit content v' := by
  rcases h with ⟨text, hdecode, hdocument⟩
  rintro ⟨text', hdecode', hdocument'⟩
  rw [hdecode, Except.ok.injEq] at hdecode'
  rw [← hdecode'] at hdocument'
  exact Json.not_isDocument_of_excess _ v hdocument (fun hkept => hexcess ⟨text, hdecode, hkept⟩) v' hdocument'

/-- A plain value is held by the text that it is written as. -/
theorem holds_write (v : Value) (h : Json.IsPlain v) : Holds Json.readerLimit (Json.write v).toUTF8 v := by
  refine ⟨Json.write v, Text.decode_toUTF8 _, ?_⟩
  rw [Text.unifyLineEndings_of_notMem _ (Json.return_notMem_write v h)]
  exact (Json.read_eq_ok_iff _ v).mp (Json.read_write v h)

/-- A file that can be read is there. -/
theorem find?_of_read (files : FileSystem) (file : String) (content : ByteArray) (h : files.read file = .ok content) :
    ∃ entry, files.find? file = .ok (some entry) := by
  rw [FileSystem.read] at h
  rw [FileSystem.find?]
  split at h
  · next hstat => exact ⟨_, by rw [hstat]⟩
  · cases h
  · cases h

section

variable (files : FileSystem) (path : Option String) (file : String) (content : ByteArray)
  (h : IsFile files path file content)
include h

/-- A file that holds a value gives the configuration of the value. -/
theorem load_of_holds (v : Value) (hv : Holds Json.readerLimit content v) :
    load files path = announce View.ofValue file v := by
  rcases hv with ⟨text, hdecode, hdocument⟩
  rcases find?_of_read files file content h.bytes with ⟨entry, hfind⟩
  -- The bytes are a text, and the text without its carriage returns is a document.
  have hcontents : readContents files file = .ok (.json v) := by
    rw [readContents, h.bytes]
    simp only [hdecode]
    rw [parse, h.format, if_neg Bool.false_ne_true, (Json.read_eq_ok_iff _ v).mpr hdocument]
  rw [load, h.chosen]
  simp only [hfind, hcontents]

/-- A file that holds no value is a problem that names it. -/
theorem load_of_not_holds (hnone : ∀ v, ¬Holds Json.readerLimit content v) :
    ∃ message, load files path = ([], .error (.problem (.configuration message file))) := by
  rcases find?_of_read files file content h.bytes with ⟨entry, hfind⟩
  -- Either the bytes are no text, or the text is no document.
  have hcontents : ∃ reason, readContents files file = .error (unreadable file reason) := by
    rw [readContents, h.bytes]
    simp only
    cases hdecode : Text.decode content with
    | error fault => exact ⟨_, rfl⟩
    | ok text =>
        simp only
        rw [parse, h.format, if_neg Bool.false_ne_true]
        cases hread : Json.read (Text.unifyLineEndings text.toList) with
        | error fault => exact ⟨_, rfl⟩
        | ok v => exact absurd ⟨text, hdecode, (Json.read_eq_ok_iff _ v).mp hread⟩ (hnone v)
  rcases hcontents with ⟨reason, hcontents⟩
  refine ⟨"Failed to load configuration: " ++ reason, ?_⟩
  rw [load, h.chosen]
  simp only [hfind, hcontents]
  rfl

end

/-! ## Fields -/

section

variable (entries : List (Value × Value)) (key default : String)

theorem textField_ofValue :
    textField View.ofValue entries key default = .ok (((Value.lookup entries key).map Value.display).getD default) := by
  rw [textField]
  cases Value.lookup entries key <;> rfl

/-- The version that a value stands for: none for null. -/
def versionOf : Value → Option String
  | .null => none
  | v => some v.display

theorem optionalField_ofValue :
    optionalField View.ofValue entries key = .ok ((Value.lookup entries key).bind versionOf) := by
  rw [optionalField]
  cases Value.lookup entries key with
  | none => rfl
  | some v => cases v <;> rfl

theorem truthField_ofValue (default : Bool) :
    truthField View.ofValue entries key default = ((Value.lookup entries key).map Value.isTrue).getD default := by
  rw [truthField]
  cases Value.lookup entries key <;> rfl

end

/-- The settings of the generator that a section with these entries gives. -/
def generatorOf (entries : List (Value × Value)) : GeneratorSection where
  toolName := ((Value.lookup entries "tool_name").map Value.display).getD Banner.defaultToolName
  version := (Value.lookup entries "version").bind versionOf
  documentExtension := ((Value.lookup entries "document_extension").map Value.display).getD Document.extension

/-- The settings of the log that a section with these entries gives. -/
def loggingOf (entries : List (Value × Value)) : LoggingSection where
  level := ((Value.lookup entries "level").map Value.display).getD "INFO"
  fileLogging := ((Value.lookup entries "enable_file_logging").map Value.isTrue).getD false
  logFile := ((Value.lookup entries "log_file").map Value.display).getD "rosalina.log"

theorem generatorSection_ofValue (entries : List (Value × Value)) :
    generatorSection View.ofValue entries = .ok (generatorOf entries) := by
  rw [generatorSection, textField_ofValue, optionalField_ofValue, textField_ofValue]
  rfl

theorem loggingSection_ofValue (entries : List (Value × Value)) :
    loggingSection View.ofValue entries = .ok (loggingOf entries) := by
  rw [loggingSection, textField_ofValue, truthField_ofValue, textField_ofValue]
  rfl

/-! ## Sections -/

/-- The sections of a configuration. -/
def sectionNames : List String := ["generator", "logging"]

/-- A value that is neither null nor a mapping. -/
def IsOther : Value → Prop
  | .null => False
  | .mapping _ => False
  | _ => True

/-- A root has a section that cannot be read: it is neither null nor a mapping, and counts as true. -/
def Refuses (root : List (Value × Value)) (name : String) : Prop :=
  ∃ v, Value.lookup root name = some v ∧ IsOther v ∧ v.isTrue = true

/-- The entries of a section, which has none if it is missing or no mapping. -/
def sectionOf : Option Value → List (Value × Value)
  | some (.mapping entries) => entries
  | _ => []

/-- What is no mapping has no entries. -/
theorem entries?_of_isOther (v : Value) (h : IsOther v) : View.ofValue.entries? v = none := by
  cases v with
  | null => exact h.elim
  | mapping entries => exact h.elim
  | _ => rfl

theorem sectionEntries_of_refuses (file : String) (root : List (Value × Value)) (name : String)
    (h : Refuses root name) :
    sectionEntries View.ofValue file root name =
      .error (.configuration ("Configuration section '" ++ name ++ "' must be a mapping") file) := by
  rcases h with ⟨v, hv, hother, htrue⟩
  have hfilter : (some v).filter View.ofValue.isTrue = some v := if_pos htrue
  rw [sectionEntries, hv, hfilter]
  simp only [entries?_of_isOther v hother]

/-- A section that is not refused has entries. What does not count as true has none, and neither has what is not
    there. -/
theorem sectionEntries_of_not_refuses (file : String) (root : List (Value × Value)) (name : String)
    (h : ¬Refuses root name) :
    sectionEntries View.ofValue file root name = .ok (sectionOf (Value.lookup root name)) := by
  rw [sectionEntries]
  cases hv : Value.lookup root name with
  | none => rfl
  | some v =>
      -- What counts as false is taken for missing, and a mapping counts as false only if it is empty.
      by_cases htrue : v.isTrue = true
      · have hfilter : (some v).filter View.ofValue.isTrue = some v := if_pos htrue
        rw [hfilter]
        cases v with
        | null => exact absurd htrue Bool.false_ne_true
        | mapping entries => rfl
        | _ => exact absurd ⟨_, hv, trivial, htrue⟩ h
      · have hfilter : (some v).filter View.ofValue.isTrue = none := if_neg htrue
        rw [hfilter]
        cases v with
        | mapping entries =>
            cases entries with
            | nil => rfl
            | cons _ _ => exact absurd rfl htrue
        | _ => rfl

/-- If no section is refused, the entries of a root give a configuration. -/
theorem ofEntries_ofValue (file : String) (root : List (Value × Value))
    (h : ∀ name ∈ sectionNames, ¬Refuses root name) :
    ofEntries View.ofValue file root = .ok {
      file
      generator := generatorOf (sectionOf (Value.lookup root "generator"))
      logging := loggingOf (sectionOf (Value.lookup root "logging"))
      halved := halvedKeys View.ofValue (sectionOf (Value.lookup root "generator")) generatorTexts ++
        halvedKeys View.ofValue (sectionOf (Value.lookup root "logging")) loggingTexts } := by
  rw [ofEntries, sectionEntries_of_not_refuses file root "generator" (h _ (by decide)),
    sectionEntries_of_not_refuses file root "logging" (h _ (by decide))]
  simp only [Except.mapError, bind, Except.bind, generatorSection_ofValue, loggingSection_ofValue]
  rfl

/-- A refused section is a problem that names the file, be it the first or the second. -/
theorem ofEntries_refused (file : String) (root : List (Value × Value)) (name : String) (hname : name ∈ sectionNames)
    (h : Refuses root name) :
    ∃ message, ofEntries View.ofValue file root = .error (.problem (.configuration message file)) := by
  -- The section of the generator is read first, and with all its fields, before that of the log.
  by_cases hfirst : Refuses root "generator"
  · rw [ofEntries, sectionEntries_of_refuses file root "generator" hfirst]
    exact ⟨_, rfl⟩
  · have hsecond : name = "logging" := by
      simp only [sectionNames, List.mem_cons, List.not_mem_nil, or_false] at hname
      exact hname.resolve_left fun heq => hfirst (heq ▸ h)
    rw [ofEntries, sectionEntries_of_not_refuses file root "generator" hfirst,
      sectionEntries_of_refuses file root "logging" (hsecond ▸ h)]
    simp only [Except.mapError, bind, Except.bind, generatorSection_ofValue]
    exact ⟨_, rfl⟩

end Config

end CodeBehind
