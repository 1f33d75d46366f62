import CodeBehind.Proofs.Config.Sections
import CodeBehind.Proofs.Json.Members
import Mathlib.Logic.Relation

/-!
# Fields of a configuration

Every field of a configuration comes from its own key in its own section of the file, and from nothing else.

A configuration has six settings. Each belongs to a section and has a key, and what the file has there is all that
decides about it (`held`): the last section with the name, if it is a mapping, and in it the last member with the key.
What is found is taken as a text, as true or false, or for the version as a text or none; where nothing is found the
default stays. This is one function for all six, so that no setting depends on the key of another is read off it.

A change of the file is a change of the members of its root or of those of a section (`FileEdit`). It may touch
everything but the last member for each of the names that matter, so none of the six is lost, added or replaced. The
white space of the file does not occur, because two files with the same members may be written in any way.

One thing can stand in the way, and it need not belong to a setting. The reader refuses whole numbers with too many
digits wherever they are, so a file is loaded exactly if its whole numbers keep the limit of the reader.

## Main definitions

* `Setting`: The six settings, with their sections and keys, and how they are taken from a value.
* `HasSections`: Each section is missing, null or a mapping.
* `held`: What an object has for a setting.
* `FileEdit`, `Edited`: Changes of a file that keep what belongs to the settings.

## Main results

* `load_fieldwise`: Loading succeeds within the limit of the reader, and every field depends on its own key alone.

## Theorems

* `get_ofValue`: A setting of the configuration that two sections give.
* `load_of_entries`, `load_of_hasSections`: What is loaded from entries, and from the members of an object.
* `sections_eq_of_get`: Configurations with the same settings have the same sections.
* `lastOf_fileEdit`: What one change does to a section.
* `kept_of_edited`: What changes of a file keep.
* `holds_digitsText`, `read_digitsText`: A number without a limit on its digits, and what the reader makes of it.
-/

namespace CodeBehind

namespace Config

/-! ## Settings -/

/-- The settings that a configuration file can hold. -/
inductive Setting where
  | toolName
  | version
  | documentExtension
  | level
  | fileLogging
  | logFile
  deriving DecidableEq, Repr

namespace Setting

/-- All settings. -/
def all : List Setting := [toolName, version, documentExtension, level, fileLogging, logFile]

/-- The settings that are texts. -/
def texts : List Setting := [toolName, version, documentExtension, level, logFile]

/-- The section that a setting belongs to. -/
def group : Setting → String
  | toolName | version | documentExtension => "generator"
  | level | fileLogging | logFile => "logging"

/-- The key of a setting in its section. -/
def key : Setting → String
  | toolName => "tool_name"
  | version => "version"
  | documentExtension => "document_extension"
  | level => "level"
  | fileLogging => "enable_file_logging"
  | logFile => "log_file"

/-- The value that a setting has in a configuration. -/
def get (config : Config) : Setting → Value
  | toolName => .text config.generator.toolName
  | version => (config.generator.version.map Value.text).getD .null
  | documentExtension => .text config.generator.documentExtension
  | level => .text config.logging.level
  | fileLogging => .truth config.logging.fileLogging
  | logFile => .text config.logging.logFile

/-- The value that a setting takes from what stands under its key. -/
def take : Setting → Value → Value
  | version, .null => .null
  | fileLogging, v => .truth v.isTrue
  | _, v => .text v.display

theorem mem_all (setting : Setting) : setting ∈ all := by
  cases setting <;> decide

theorem group_mem_sectionNames (setting : Setting) : setting.group ∈ sectionNames := by
  cases setting <;> decide

end Setting

/-- A setting of the configuration that two sections give: what its own section has under its key, or the default. -/
theorem get_ofValue (file : String) (section? : String → Option Value) (halved : List String) (setting : Setting) :
    setting.get {
        file
        generator := generatorOf (sectionOf (section? "generator"))
        logging := loggingOf (sectionOf (section? "logging"))
        halved } =
      ((Value.lookup (sectionOf (section? setting.group)) setting.key).map setting.take).getD
        (setting.get { file }) := by
  cases setting with
  | version =>
      simp only [Setting.get, generatorOf, Setting.group, Setting.key]
      cases Value.lookup (sectionOf (section? "generator")) "version" with
      | none => rfl
      | some v => cases v <;> rfl
  | _ =>
      -- A text or a truth value is taken before or after the default is put in, which is the same.
      simp only [Setting.get, generatorOf, loggingOf, Setting.group, Setting.key]
      generalize Value.lookup _ _ = found
      cases found <;> rfl

/-- The keys of the settings whose texts have halves in them, if this is found for each setting. -/
def halvedAmong (found : Setting → Option Value) : List String :=
  (Setting.texts.filter fun setting => (found setting).any View.ofValue.isHalved).map Setting.key

/-- The keys that the configuration remembers are those of two sections. -/
theorem halvedKeys_append (section? : String → Option Value) :
    halvedKeys View.ofValue (sectionOf (section? "generator")) generatorTexts ++
        halvedKeys View.ofValue (sectionOf (section? "logging")) loggingTexts =
      halvedAmong fun setting => Value.lookup (sectionOf (section? setting.group)) setting.key := by
  have hgenerator : generatorTexts = [Setting.toolName, .version, .documentExtension].map Setting.key := rfl
  have hlogging : loggingTexts = [Setting.level, .logFile].map Setting.key := rfl
  have htexts : Setting.texts = [.toolName, .version, .documentExtension] ++ [.level, .logFile] := rfl
  rw [halvedKeys, halvedKeys, hgenerator, hlogging, List.filter_map, List.filter_map, ← List.map_append, halvedAmong,
    htexts, List.filter_append]
  rfl

/-- Null is no version, and every version is a text. -/
theorem version_injective (version version' : Option String)
    (h : (version.map Value.text).getD .null = (version'.map Value.text).getD .null) : version = version' := by
  cases version with
  | none =>
      cases version' with
      | none => rfl
      | some _ => cases h
  | some s =>
      cases version' with
      | none => cases h
      | some s' => exact congrArg some (Value.text.inj h)

/-- Configurations with the same settings have the same sections. -/
theorem sections_eq_of_get (config config' : Config)
    (h : ∀ setting : Setting, setting.get config' = setting.get config) :
    config'.generator = config.generator ∧ config'.logging = config.logging := by
  rcases config with ⟨file, ⟨toolName, version, documentExtension⟩, ⟨level, fileLogging, logFile⟩, halved, stamp⟩
  rcases config' with
    ⟨file', ⟨toolName', version', documentExtension'⟩, ⟨level', fileLogging', logFile'⟩, halved', stamp'⟩
  have htoolName : toolName' = toolName := Value.text.inj (h .toolName)
  have hversion : version' = version := version_injective _ _ (h .version)
  have hextension : documentExtension' = documentExtension := Value.text.inj (h .documentExtension)
  have hlevel : level' = level := Value.text.inj (h .level)
  have hfileLogging : fileLogging' = fileLogging := Value.truth.inj (h .fileLogging)
  have hlogFile : logFile' = logFile := Value.text.inj (h .logFile)
  rw [htoolName, hversion, hextension, hlevel, hfileLogging, hlogFile]
  exact ⟨rfl, rfl⟩

/-! ## Objects -/

/-- What the entries of a root have for a setting: what stands under its key in its section. -/
def found (entries : List (Value × Value)) (setting : Setting) : Option Value :=
  Value.lookup (sectionOf (Value.lookup entries setting.group)) setting.key

/-- A file with a root that has entries and no section that is refused gives a configuration, whose settings are what
    the entries have for them or the defaults. It remembers in which of them halves are replaced. -/
theorem load_of_entries (files : FileSystem) (path : Option String) (file : String) (content : ByteArray) (v : Value)
    (entries : List (Value × Value)) (hfile : IsFile files path file content)
    (hholds : Holds Json.readerLimit content v)
    (hroot : rootEntries View.ofValue file v = .ok entries) (h : ∀ name ∈ sectionNames, ¬Refuses entries name) :
    ∃ config, (load files path).2 = .ok config ∧
      (∀ setting : Setting,
        setting.get config = ((found entries setting).map setting.take).getD (setting.get { file })) ∧
      config.halved = halvedAmong (found entries) := by
  refine ⟨_, ?_, get_ofValue file (Value.lookup entries) _, halvedKeys_append (Value.lookup entries)⟩
  rw [load_of_holds files path file content hfile v hholds, announce, hroot]
  exact ofEntries_ofValue file entries h

/-- Each section of an object is missing, null or a mapping. -/
def HasSections (members : List (Value × Value)) : Prop :=
  ∀ name ∈ sectionNames, ∀ v, Json.lastOf members name = some v → ¬IsOther v

/-- What an object has for a setting: what stands under its key in its section. -/
def held (members : List (Value × Value)) (setting : Setting) : Option Value :=
  Value.lookup (sectionOf (Json.lastOf members setting.group)) setting.key

/-- A file with an object that has its sections gives a configuration, whose settings are what the object has for them
    or the defaults. -/
theorem load_of_hasSections (files : FileSystem) (path : Option String) (file : String) (content : ByteArray)
    (members : List (Value × Value)) (hfile : IsFile files path file content)
    (hholds : Holds Json.readerLimit content (.mapping (Json.gather members))) (h : HasSections members) :
    ∃ config, (load files path).2 = .ok config ∧
      (∀ setting : Setting,
        setting.get config = ((held members setting).map setting.take).getD (setting.get { file })) ∧
      config.halved = halvedAmong (held members) := by
  have hsections : ∀ name ∈ sectionNames, ¬Refuses (Json.gather members) name := by
    rintro name hname ⟨v, hv, hother, _⟩
    rw [Json.lookup_gather] at hv
    exact h name hname v hv hother
  rcases load_of_entries files path file content _ _ hfile hholds rfl hsections with ⟨config, hload, hget, hhalved⟩
  have hheld : found (Json.gather members) = held members := by
    funext setting
    rw [found, Json.lookup_gather, held]
  rw [hheld] at hget hhalved
  exact ⟨config, hload, hget, hhalved⟩

/-! ## Changes -/

/-- The keys of the settings of a section. -/
def keysOf (name : String) : List String :=
  (Setting.all.filter fun setting => setting.group = name).map Setting.key

/-- One change of a file: of the members of its root, or of those of an object in it. -/
inductive FileEdit : List (Value × Value) → List (Value × Value) → Prop
  | root (members members' : List (Value × Value)) (h : Json.Edit sectionNames members members') :
      FileEdit members members'
  | inside (before after : List (Value × Value)) (name : String) (members members' : List (Value × Value))
      (h : Json.Edit (keysOf name) members members') :
      FileEdit (before ++ (.text name, .mapping (Json.gather members)) :: after)
        (before ++ (.text name, .mapping (Json.gather members')) :: after)

/-- Changes of a file, in either direction and as many as one likes. -/
def Edited : List (Value × Value) → List (Value × Value) → Prop :=
  Relation.EqvGen FileEdit

theorem key_mem_keysOf (setting : Setting) : setting.key ∈ keysOf setting.group :=
  List.mem_map_of_mem (List.mem_filter.mpr ⟨setting.mem_all, decide_eq_true rfl⟩)

/-- A change leaves a section as it is, or it is a change of the members of the section. -/
theorem lastOf_fileEdit (members members' : List (Value × Value)) (h : FileEdit members members') (name : String)
    (hname : name ∈ sectionNames) :
    Json.lastOf members name = Json.lastOf members' name ∨
      ∃ inner inner', Json.lastOf members name = some (.mapping (Json.gather inner)) ∧
        Json.lastOf members' name = some (.mapping (Json.gather inner')) ∧ Json.Edit (keysOf name) inner inner' := by
  cases h with
  | root _ _ h => exact .inl (Json.lastOf_edit sectionNames members members' h name hname)
  | inside before after other inner inner' h =>
      rw [Json.lastOf_append, Json.lastOf_append, Json.lastOf_cons, Json.lastOf_cons]
      cases Json.lastOf after name with
      | some v => exact .inl rfl
      | none =>
          by_cases hother : (Value.text other).sameKey (.text name) = true
          · have hname : other = name := Value.text.inj ((Value.sameKey_text _ name).mp hother)
            rw [if_pos hother, if_pos hother]
            exact .inr ⟨inner, inner', rfl, rfl, hname ▸ h⟩
          · rw [if_neg hother, if_neg hother]
            exact .inl rfl

/-- A change keeps the sections and what the object has for a setting. -/
theorem kept_of_fileEdit (members members' : List (Value × Value)) (h : FileEdit members members') :
    (HasSections members ↔ HasSections members') ∧ ∀ setting, held members setting = held members' setting := by
  constructor
  · refine forall_congr' fun name => forall_congr' fun hname => ?_
    rcases lastOf_fileEdit members members' h name hname with heq | ⟨inner, inner', hinner, hinner', _⟩
    · rw [heq]
    · have hmapping (entries : List (Value × Value)) : ∀ v, some (Value.mapping entries) = some v → ¬IsOther v := by
        intro v hv
        rw [← Option.some.inj hv]
        exact id
      rw [hinner, hinner']
      exact iff_of_true (hmapping _) (hmapping _)
  · intro setting
    rw [held, held]
    rcases lastOf_fileEdit members members' h setting.group setting.group_mem_sectionNames with heq |
      ⟨inner, inner', hinner, hinner', hedit⟩
    · rw [heq]
    · rw [hinner, hinner', sectionOf, sectionOf, Json.lookup_gather, Json.lookup_gather]
      exact Json.lastOf_edit _ inner inner' hedit setting.key (key_mem_keysOf setting)

/-- What one change keeps is kept by any number of them. -/
theorem kept_of_edited (members members' : List (Value × Value)) (h : Edited members members') :
    (HasSections members ↔ HasSections members') ∧ ∀ setting, held members setting = held members' setting := by
  induction h with
  | rel members members' h => exact kept_of_fileEdit members members' h
  | refl members => exact ⟨Iff.rfl, fun _ => rfl⟩
  | symm _ _ _ ih => exact ⟨ih.1.symm, fun setting => (ih.2 setting).symm⟩
  | trans _ _ _ _ _ ih ih' => exact ⟨ih.1.trans ih'.1, fun setting => (ih.2 setting).trans (ih'.2 setting)⟩

/-! ## Loading -/

/-- Take a JSON file whose root is an object, with sections that are missing, null or objects. It is loaded if its whole
    numbers keep the limit of the reader on their digits, and refused with a problem that names it if they do not. Each
    setting is what the object has for it, and the default if it has nothing. So another such file that keeps the limit,
    wherever it lies, gives the same value for every setting for which it has the same, and the same sections if it has
    the same for all six. Such a file comes about by swapping members, by members with unknown names and by members that
    are repeated later, at the root and in the sections, and by any change of the white space. A text with halves is
    shown without them, and the configuration remembers for which settings that is so. -/
theorem load_fieldwise (files files' : FileSystem) (path path' : Option String) (file file' : String)
    (content content' : ByteArray) (members members' : List (Value × Value))
    (hfile : IsFile files path file content) (hfile' : IsFile files' path' file' content')
    (hholds : Holds none content (.mapping (Json.gather members))) (h : HasSections members) :
    (¬Holds Json.readerLimit content (.mapping (Json.gather members)) →
        ∃ message, (load files path).2 = .error (.problem (.configuration message file))) ∧
      (Holds Json.readerLimit content (.mapping (Json.gather members)) →
        ∃ config, (load files path).2 = .ok config ∧
          (∀ setting : Setting,
            setting.get config = ((held members setting).map setting.take).getD (setting.get { file })) ∧
          config.halved = halvedAmong (held members) ∧
          (Holds Json.readerLimit content' (.mapping (Json.gather members')) →
            (HasSections members' → ∃ config', (load files' path').2 = .ok config' ∧
              (∀ setting : Setting, held members' setting = held members setting →
                setting.get config' = setting.get config) ∧
              ((∀ setting : Setting, held members' setting = held members setting) →
                config'.generator = config.generator ∧ config'.logging = config.logging ∧
                  config'.halved = config.halved)) ∧
            (Edited members members' → ∃ config', (load files' path').2 = .ok config' ∧
              config'.generator = config.generator ∧ config'.logging = config.logging ∧
              config'.halved = config.halved))) := by
  refine ⟨fun hexcess => ?_, fun hkept => ?_⟩
  · rcases load_of_not_holds files path file content hfile (not_holds_of_excess content _ hholds hexcess) with
      ⟨message, hload⟩
    exact ⟨message, by rw [hload]⟩
  rcases load_of_hasSections files path file content members hfile hkept h with ⟨config, hload, hget, hhalved⟩
  refine ⟨config, hload, hget, hhalved, fun hholds' => ?_⟩
  have hsame : HasSections members' → ∃ config', (load files' path').2 = .ok config' ∧
      (∀ setting : Setting, held members' setting = held members setting →
        setting.get config' = setting.get config) ∧
      ((∀ setting : Setting, held members' setting = held members setting) →
        config'.generator = config.generator ∧ config'.logging = config.logging ∧
          config'.halved = config.halved) := by
    intro h'
    rcases load_of_hasSections files' path' file' content' members' hfile' hholds' h' with
      ⟨config', hload', hget', hhalved'⟩
    have hfields : ∀ setting : Setting, held members' setting = held members setting →
        setting.get config' = setting.get config := by
      intro setting hheld
      -- The default is the same for every file.
      have hdefault : setting.get { file := file' } = setting.get { file } := by cases setting <;> rfl
      rw [hget', hget, hheld, hdefault]
    refine ⟨config', hload', hfields, fun hheld => ?_⟩
    rcases sections_eq_of_get config config' fun setting => hfields setting (hheld setting) with
      ⟨hgenerator, hlogging⟩
    exact ⟨hgenerator, hlogging, by rw [hhalved', hhalved, funext hheld]⟩
  refine ⟨hsame, fun hedited => ?_⟩
  rcases kept_of_edited members members' hedited with ⟨hkept, hheld⟩
  rcases hsame (hkept.mp h) with ⟨config', hload', _, hsections⟩
  exact ⟨config', hload', hsections fun setting => (hheld setting).symm⟩

/-- The members of a configuration file with one setting. -/
def shortMembers : List (Value × Value) :=
  [(.text "generator", .mapping (Json.gather [(.text "tool_name", .text "A")]))]

/-- The same with an unknown section in front and an unknown key in the section. -/
def longMembers : List (Value × Value) :=
  [(.text "x", .list []),
    (.text "generator", .mapping (Json.gather [(.text "tool_name", .text "A"), (.text "y", .null)]))]

/-- A tree with both files. -/
def settingsFiles : FileSystem where
  entries := [(["home"], .directory),
    (["home", "short.json"], .file (Json.write (.mapping (Json.gather shortMembers))).toUTF8 0o644),
    (["home", "long.json"], .file (Json.write (.mapping (Json.gather longMembers))).toUTF8 0o644)]
  workdir := ["home"]
  umask := 0o022

theorem holds_shortMembers :
    Holds Json.readerLimit (Json.write (.mapping (Json.gather shortMembers))).toUTF8
      (.mapping (Json.gather shortMembers)) := by
  refine holds_write _ (.mapping [("generator", _)] (by decide) (List.forall_mem_singleton.mpr ?_))
  exact .mapping [("tool_name", .text "A")] (by decide) (List.forall_mem_singleton.mpr (.text "A"))

theorem holds_longMembers :
    Holds Json.readerLimit (Json.write (.mapping (Json.gather longMembers))).toUTF8
      (.mapping (Json.gather longMembers)) := by
  have hfirst : Json.IsPlain (.list []) := .list [] (List.forall_mem_nil _)
  refine holds_write _
    (.mapping [("x", _), ("generator", _)] (by decide) (List.forall_mem_cons.mpr ⟨hfirst, ?_⟩))
  refine List.forall_mem_singleton.mpr (.mapping [("tool_name", .text "A"), ("y", .null)] (by decide) ?_)
  exact List.forall_mem_cons.mpr ⟨.text "A", List.forall_mem_singleton.mpr .null⟩

theorem load_fieldwise_long :
    HasSections shortMembers ∧ Edited shortMembers longMembers ∧
      ∃ config config', (load settingsFiles (some "short.json")).2 = .ok config ∧
        (load settingsFiles (some "./long.json")).2 = .ok config' ∧ config.generator.toolName = "A" ∧
        config.logging.level = "INFO" ∧ config'.generator = config.generator ∧ config'.logging = config.logging := by
  have hshort : IsFile settingsFiles (some "short.json") "short.json" _ :=
    ⟨rfl, rfl, rfl⟩
  have hlong : IsFile settingsFiles (some "./long.json") "long.json" _ :=
    ⟨rfl, rfl, rfl⟩
  have hsections : HasSections shortMembers := by
    intro name hname v hv
    simp only [sectionNames, List.mem_cons, List.not_mem_nil, or_false] at hname
    rcases hname with rfl | rfl
    · rw [← Option.some.inj hv]
      exact id
    · cases hv
  have hsection : FileEdit shortMembers ((.text "x", .list []) :: shortMembers) :=
    .root _ _ (.unknown [] shortMembers (.text "x") _ (by simp [sectionNames]))
  have hunknown : ∀ name ∈ keysOf "generator", Value.text "y" ≠ .text name := by
    intro name hname heq
    have hy : "y" ∈ keysOf "generator" := Value.text.inj heq ▸ hname
    revert hy
    decide
  have hkey : FileEdit ((.text "x", .list []) :: shortMembers) longMembers :=
    .inside [(.text "x", .list [])] [] "generator" _ _
      (.unknown [(.text "tool_name", .text "A")] [] (.text "y") _ hunknown)
  have hedited : Edited shortMembers longMembers := .trans _ _ _ (.rel _ _ hsection) (.rel _ _ hkey)
  rcases load_fieldwise settingsFiles settingsFiles (some "short.json") (some "./long.json") "short.json" "long.json"
    _ _ shortMembers longMembers hshort hlong (holds_none _ _ _ holds_shortMembers) hsections with ⟨_, hkept⟩
  rcases hkept holds_shortMembers with ⟨config, hload, hget, _, hother⟩
  rcases (hother holds_longMembers).2 hedited with ⟨config', hload', hgenerator, hlogging, _⟩
  refine ⟨hsections, hedited, config, config', hload, hload', ?_, ?_, hgenerator, hlogging⟩
  · exact Value.text.inj (hget .toolName)
  · exact Value.text.inj (hget .level)

/-- The text of an object with a whole number under a name that nothing asks for. -/
def digitsText (ds : List Char) : List Char :=
  '\x7b' :: '"' :: 'x' :: '"' :: ':' :: ' ' :: (ds ++ ['\x7d'])

/-- The members of the object. -/
def digitsMembers (ds : List Char) : List (Value × Value) :=
  [(.text "x", .integer (Json.decimalNumber ds))]

theorem spells_x : Json.Spells ['x'] (Point.ofString "x") :=
  .plain 'x' [] [] (by decide) (by decide) (by decide) .nil

section

variable (ds : List Char) (h : Json.IsWhole ds)
include h

/-- The text has no carriage returns, so it is what is read. -/
theorem unifyLineEndings_digitsText :
    Text.unifyLineEndings (String.ofList (digitsText ds)).toList = digitsText ds := by
  have hdigits : '\r' ∉ ds := by
    intro hmem
    rcases h with rfl | ⟨⟨_, hdigits⟩, _⟩
    · revert hmem
      decide
    · exact absurd (hdigits _ hmem) (by decide)
  rw [String.toList_ofList]
  exact Text.unifyLineEndings_of_notMem _ (by simp [digitsText, hdigits])

theorem holds_digitsText :
    Holds none (String.ofList (digitsText ds)).toUTF8 (.mapping (Json.gather (digitsMembers ds))) := by
  have hspace : Json.AllSpace [' '] := List.forall_mem_singleton.mpr rfl
  have hempty : Json.AllSpace [] := List.forall_mem_nil _
  have hnumber : Json.Written none ds (.value (.integer (Json.decimalNumber ds))) :=
    .number ds _ (.whole false ds h nofun)
  have hmember := Json.Written.lastMember [] ['x'] (Point.ofString "x") [] [' '] ds [] _ hempty spells_x hempty hspace
    hnumber hempty
  rw [Json.ofPoints_ofString, List.append_nil] at hmember
  refine ⟨_, Text.decode_toUTF8 _, ?_⟩
  rw [unifyLineEndings_digitsText ds h]
  exact ⟨[], _, [], hempty, .mapping _ _ hmember, hempty, (List.append_nil _).symm⟩

/-- The number is read if it does not have too many digits. -/
theorem read_digitsText :
    Json.read (digitsText ds) = Json.unlessLong (Json.excess ds) (.mapping (Json.gather (digitsMembers ds))) := by
  have hspace : Json.AllSpace [' '] := List.forall_mem_singleton.mpr rfl
  have hempty : Json.AllSpace [] := List.forall_mem_nil _
  rcases Json.exists_cons_of_isWhole ds h with ⟨d, more, hds, hd⟩
  have hnumber : Json.IsRead (Json.excess ds) ds (.value (.integer (Json.decimalNumber ds))) :=
    Json.isRead_of_number _ ds _ ⟨false, d, more, hds, hd⟩ fun rest hrest => Json.number_whole false ds rest h hrest
  have hmember := Json.isRead_lastMember _ [] ['x'] (Point.ofString "x") [] [' '] ds [] _ hempty spells_x hempty hspace
    hnumber hempty
  rw [Json.ofPoints_ofString, List.append_nil] at hmember
  have hread := Json.read_of_isRead _ [] _ [] _ hempty (Json.isRead_mapping _ _ _ hmember) hempty
  rw [List.append_nil] at hread
  exact hread

end

/-- Digits of which there is one too many for the reader. -/
def longDigits : List Char :=
  List.replicate (Decimal.digitLimit + 1) '1'

/-- A tree with a file that has such a number. -/
def digitsFiles : FileSystem where
  entries := [(["home"], .directory),
    (["home", "rosalina.json"], .file (String.ofList (digitsText longDigits)).toUTF8 0o644)]
  workdir := ["home"]
  umask := 0o022

theorem isWhole_longDigits : Json.IsWhole longDigits := by
  refine .inr ⟨⟨by rw [longDigits]; exact List.replicate_succ_ne_nil, fun c hc => ?_⟩, ?_⟩
  · rw [List.eq_of_mem_replicate hc]
    rfl
  · rw [longDigits, List.replicate_succ, List.head?_cons]
    decide

/-- An object is refused for a number under a name that nothing asks for. -/
theorem load_longDigits :
    IsFile digitsFiles (some "rosalina.json") "rosalina.json" (String.ofList (digitsText longDigits)).toUTF8 ∧
      Holds none (String.ofList (digitsText longDigits)).toUTF8 (.mapping (Json.gather (digitsMembers longDigits))) ∧
      HasSections (digitsMembers longDigits) ∧ ∃ message,
        (load digitsFiles (some "rosalina.json")).2 = .error (.problem (.configuration message "rosalina.json")) := by
  have hfile : IsFile digitsFiles (some "rosalina.json") "rosalina.json" _ :=
    ⟨rfl, rfl, rfl⟩
  have hsections : HasSections (digitsMembers longDigits) := by
    intro name hname v hv
    simp only [sectionNames, List.mem_cons, List.not_mem_nil, or_false] at hname
    rcases hname with rfl | rfl <;> cases hv
  have hexcess : Json.excess longDigits = some longDigits.length :=
    if_pos (by rw [longDigits, List.length_replicate]; exact Nat.lt_succ_self _)
  have hnone : ∀ v, ¬Holds Json.readerLimit (String.ofList (digitsText longDigits)).toUTF8 v := by
    rintro v ⟨text, hdecode, hdocument⟩
    obtain rfl := Except.ok.inj ((Text.decode_toUTF8 _).symm.trans hdecode)
    rw [unifyLineEndings_digitsText _ isWhole_longDigits, ← Json.read_eq_ok_iff, read_digitsText _ isWhole_longDigits,
      hexcess] at hdocument
    cases hdocument
  rcases load_of_not_holds digitsFiles (some "rosalina.json") "rosalina.json" _ hfile hnone with ⟨message, hload⟩
  exact ⟨hfile, holds_digitsText _ isWhole_longDigits, hsections, message, by rw [hload]⟩

end Config

end CodeBehind
