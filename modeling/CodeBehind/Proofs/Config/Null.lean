import CodeBehind.Proofs.Config.Fields

/-!
# Null in a configuration

When null means the same as nothing at all.

Null can stand in three kinds of places: instead of the root, instead of a section, and instead of what belongs to a
key. Each time it can be compared with what is left when that part is taken out. For the root and the sections there is
no difference, since both ways no entries are found. For a key there is something to be found, and what becomes of it is
a matter of how the setting is taken from a value. The version is taken as none, and the question whether to log into a
file as false, which are their defaults. The other four settings are texts, and as a text null is a word. So these four
show that word where the default would be, and nothing else changes.

Null and nothing are put in by the same change of a section, which touches one key only. So one lemma says what is found
afterwards for all the settings, the one that was changed and the others (`found_changeSection`).

## Main definitions

* `Value.removeKey`: A mapping without a key.
* `Slot`: The places of null.
* `Slot.nulled`, `Slot.emptied`: A root with null there, and without what is there.
* `Slot.ShowsNull`: The places where null is a word.

## Main results

* `load_null`: Both are loaded, and they give the same sections unless null is a word there.

## Theorems

* `Value.lookup_removeKey`: What belongs to the keys of a mapping without one.
* `found_changeSection`, `found_change_group`: What is found after a change of a section.
* `exists_entries`, `exists_loaded`: What is found and loaded with null at a place, and without anything there.
* `take_null_of_showsNull`, `take_null_of_not_showsNull`: What null is taken for.
-/

namespace CodeBehind

namespace Value

/-- A mapping without a key. -/
def removeKey (pairs : List (Value × Value)) (key : String) : List (Value × Value) :=
  pairs.filter fun pair => !sameKey pair.1 (.text key)

/-- Taking a key out takes out what belongs to it, and nothing else. -/
theorem lookup_removeKey (pairs : List (Value × Value)) (key name : String) :
    lookup (removeKey pairs key) name = if key = name then none else lookup pairs name := by
  induction pairs with
  | nil => exact (ite_self none).symm
  | cons pair rest ih =>
      rcases pair with ⟨k, v⟩
      rw [removeKey, List.filter_cons, lookup_cons]
      by_cases hkey : sameKey k (.text key) = true
      · rw [hkey, Bool.not_true, if_neg Bool.false_ne_true]
        refine ih.trans ?_
        by_cases hname : key = name
        · rw [if_pos hname, if_pos hname]
        · have hother : ¬sameKey k (.text name) = true := by
            rw [(sameKey_text k key).mp hkey, sameKey_text, Value.text.injEq]
            exact hname
          rw [if_neg hname, if_neg hname, if_neg hother]
      · rw [Bool.eq_false_iff.mpr hkey, Bool.not_false, if_pos rfl, lookup_cons]
        -- The pair stays, and it has another key than the one that is taken out.
        by_cases hname : key = name
        · rw [if_pos hname, if_neg (hname ▸ hkey)]
          exact ih.trans (if_pos hname)
        · rw [if_neg hname]
          exact if_congr Iff.rfl rfl (ih.trans (if_neg hname))

end Value

namespace Config

/-! ## Places of null -/

/-- Where null can stand in a configuration: instead of its root, of a section, or of what belongs to a setting. -/
inductive Slot where
  | root
  | group (name : String)
  | key (setting : Setting)
  deriving DecidableEq, Repr

/-- A root in which the section of a setting is changed. -/
def changeSection (entries : List (Value × Value)) (setting : Setting)
    (change : List (Value × Value) → List (Value × Value)) : List (Value × Value) :=
  Value.setKey entries (.text setting.group) (.mapping (change (sectionOf (Value.lookup entries setting.group))))

namespace Slot

/-- The entries of a root, but with null at a place. -/
def nulled (entries : List (Value × Value)) : Slot → Value
  | root => .null
  | group name => .mapping (Value.setKey entries (.text name) .null)
  | key setting => .mapping (changeSection entries setting fun inner => Value.setKey inner (.text setting.key) .null)

/-- The entries of a root, but without what is at a place. -/
def emptied (entries : List (Value × Value)) : Slot → Value
  | root => .mapping []
  | group name => .mapping (Value.removeKey entries name)
  | key setting => .mapping (changeSection entries setting fun inner => Value.removeKey inner setting.key)

/-- Null is a word at a place: at the keys of all settings but the version and the question about a log file. -/
def ShowsNull : Slot → Prop
  | root => False
  | group _ => False
  | key setting => setting ≠ .version ∧ setting ≠ .fileLogging

end Slot

/-- Each section of a root is missing, null or a mapping. -/
def IsSectioned (entries : List (Value × Value)) : Prop :=
  ∀ name ∈ sectionNames, ∀ v, Value.lookup entries name = some v → ¬IsOther v

/-! ## What is found -/

/-- Settings with the same key are the same. -/
theorem eq_of_key (setting other : Setting) (h : setting.key = other.key) : setting = other := by
  cases setting <;> cases other <;> first | rfl | exact absurd h (by decide)

/-- A change that puts one thing under a key, or takes it out, is seen by the setting with that key only. -/
theorem found_changeSection (entries : List (Value × Value)) (setting other : Setting)
    (change : List (Value × Value) → List (Value × Value)) (put : Option Value)
    (hchange : ∀ inner name, Value.lookup (change inner) name =
      if setting.key = name then put else Value.lookup inner name) :
    found (changeSection entries setting change) other = if setting = other then put else found entries other := by
  rw [found, changeSection, Value.lookup_setKey_text]
  by_cases hgroup : setting.group = other.group
  · rw [if_pos hgroup, sectionOf, hchange]
    by_cases hsame : setting = other
    · rw [if_pos hsame, if_pos (congrArg Setting.key hsame)]
    · rw [if_neg hsame, if_neg (fun hkey => hsame (eq_of_key setting other hkey)), hgroup, found]
  · rw [if_neg hgroup, if_neg (fun hsame => hgroup (congrArg Setting.group hsame)), found]

/-- A section that is null has the entries of one that is missing. -/
theorem found_change_group (entries : List (Value × Value)) (name : String) (setting : Setting) :
    found (Value.setKey entries (.text name) .null) setting = found (Value.removeKey entries name) setting := by
  rw [found, found, Value.lookup_setKey_text, Value.lookup_removeKey]
  split <;> rfl

section

variable (entries : List (Value × Value)) (h : IsSectioned entries)
include h

theorem isSectioned_setKey (name : String) (v : Value) (hv : ¬IsOther v) :
    IsSectioned (Value.setKey entries (.text name) v) := by
  intro other hother w hw
  rw [Value.lookup_setKey_text] at hw
  split at hw
  · rw [← Option.some.inj hw]
    exact hv
  · exact h other hother w hw

theorem isSectioned_removeKey (name : String) : IsSectioned (Value.removeKey entries name) := by
  intro other hother w hw
  rw [Value.lookup_removeKey] at hw
  split at hw
  · cases hw
  · exact h other hother w hw

/-- No section is refused. -/
theorem not_refuses_of_isSectioned (name : String) (hname : name ∈ sectionNames) : ¬Refuses entries name := by
  rintro ⟨v, hv, hother, _⟩
  exact h name hname v hv hother

end

/-! ## Loading -/

/-- With null at a place and without anything there, the roots have entries with their sections, and the same is found
    in them for every setting but the one that the place belongs to, if it belongs to one. -/
theorem exists_entries (file : String) (entries : List (Value × Value)) (slot : Slot) (h : IsSectioned entries) :
    ∃ full bare, rootEntries View.ofValue file (slot.nulled entries) = .ok full ∧
      rootEntries View.ofValue file (slot.emptied entries) = .ok bare ∧ IsSectioned full ∧ IsSectioned bare ∧
      ∀ setting : Setting,
        if slot = .key setting then found full setting = some .null ∧ found bare setting = none
        else found full setting = found bare setting := by
  cases slot with
  | root =>
      have hempty : IsSectioned [] := fun _ _ _ hv => nomatch hv
      exact ⟨[], [], rfl, rfl, hempty, hempty, fun setting => rfl⟩
  | group name =>
      exact ⟨_, _, rfl, rfl, isSectioned_setKey entries h name .null id, isSectioned_removeKey entries h name,
        found_change_group entries name⟩
  | key setting =>
      -- Both are changes of one section, one with null as what is put there and one with nothing.
      have hfull := fun other => found_changeSection entries setting other
        (fun inner => Value.setKey inner (.text setting.key) .null) (some .null)
        (fun inner name => Value.lookup_setKey_text inner setting.key name .null)
      have hbare := fun other => found_changeSection entries setting other
        (fun inner => Value.removeKey inner setting.key) none
        (fun inner name => Value.lookup_removeKey inner setting.key name)
      refine ⟨_, _, rfl, rfl, isSectioned_setKey entries h _ _ id, isSectioned_setKey entries h _ _ id,
        fun other => ?_⟩
      rw [hfull, hbare]
      by_cases hsame : setting = other
      · rw [if_pos (congrArg Slot.key hsame), if_pos hsame, if_pos hsame]
        exact ⟨rfl, rfl⟩
      · rw [if_neg (fun heq => hsame (Slot.key.inj heq)), if_neg hsame, if_neg hsame]

/-- Both are loaded. The setting that the place belongs to is what null is taken for in the first and the default in
    the second, and the others are the same. -/
theorem exists_loaded (files files' : FileSystem) (path path' : Option String) (file file' : String)
    (content content' : ByteArray) (entries : List (Value × Value)) (slot : Slot)
    (hfile : IsFile files path file content) (hfile' : IsFile files' path' file' content')
    (hholds : Holds Json.readerLimit content (slot.nulled entries))
    (hholds' : Holds Json.readerLimit content' (slot.emptied entries)) (h : IsSectioned entries) :
    ∃ config config', (load files path).2 = .ok config ∧ (load files' path').2 = .ok config' ∧
      ∀ setting : Setting,
        if slot = .key setting then
          setting.get config = setting.take .null ∧ setting.get config' = setting.get { file := file' }
        else setting.get config' = setting.get config := by
  rcases exists_entries file entries slot h with ⟨full, bare, hfull, hbare, hfullSections, hbareSections, hfound⟩
  have hbare' : rootEntries View.ofValue file' (slot.emptied entries) = .ok bare := by
    cases slot <;> exact hbare
  rcases load_of_entries files path file content _ full hfile hholds hfull
    (not_refuses_of_isSectioned full hfullSections) with ⟨config, hload, hget, _⟩
  rcases load_of_entries files' path' file' content' _ bare hfile' hholds' hbare'
    (not_refuses_of_isSectioned bare hbareSections) with ⟨config', hload', hget', _⟩
  -- The default is the same for every file.
  have hdefault : ∀ setting : Setting, setting.get { file := file' } = setting.get { file } := by
    intro setting
    cases setting <;> rfl
  refine ⟨config, config', hload, hload', fun setting => ?_⟩
  have hsetting := hfound setting
  by_cases hslot : slot = .key setting
  · rw [if_pos hslot] at hsetting
    rw [if_pos hslot, hget, hget', hsetting.1, hsetting.2]
    exact ⟨rfl, rfl⟩
  · rw [if_neg hslot] at hsetting
    rw [if_neg hslot, hget, hget', hsetting, hdefault]

/-- Null is taken for the default where it is no word. -/
theorem take_null_of_not_showsNull (setting : Setting) (file : String) (h : ¬(Slot.key setting).ShowsNull) :
    setting.take .null = setting.get { file } := by
  cases setting with
  | version => rfl
  | fileLogging => rfl
  | _ => exact absurd ⟨nofun, nofun⟩ h

/-- Where null is a word, it is another one than the default. -/
theorem take_null_of_showsNull (setting : Setting) (file : String) (h : (Slot.key setting).ShowsNull) :
    setting.take .null = .text "None" ∧ setting.get { file } ≠ .text "None" := by
  have hword : ∀ word : String, word ≠ "None" → Value.text word ≠ .text "None" :=
    fun word hne heq => hne (Value.text.inj heq)
  cases setting with
  | toolName => exact ⟨rfl, hword Banner.defaultToolName (by decide)⟩
  | documentExtension => exact ⟨rfl, hword Document.extension (by decide)⟩
  | level => exact ⟨rfl, hword "INFO" (by decide)⟩
  | logFile => exact ⟨rfl, hword "rosalina.log" (by decide)⟩
  | version => exact absurd rfl h.1
  | fileLogging => exact absurd rfl h.2

/-- Take a JSON file whose root has sections that are missing, null or mappings, and put null at a place: instead of the
    root, of a section, or under the key of a setting. It is loaded, and so is the file in which that part is taken out,
    wherever the two lie. They give the same sections unless the setting is one of the four that are texts. Then it is
    the word for null in the first file and the default in the second, and all other settings are the same. -/
theorem load_null (files files' : FileSystem) (path path' : Option String) (file file' : String)
    (content content' : ByteArray) (entries : List (Value × Value)) (slot : Slot)
    (hfile : IsFile files path file content) (hfile' : IsFile files' path' file' content')
    (hholds : Holds Json.readerLimit content (slot.nulled entries))
    (hholds' : Holds Json.readerLimit content' (slot.emptied entries)) (h : IsSectioned entries) :
    ∃ config config', (load files path).2 = .ok config ∧ (load files' path').2 = .ok config' ∧
      (config'.generator = config.generator ∧ config'.logging = config.logging ↔ ¬slot.ShowsNull) ∧
      ∀ setting : Setting, (slot ≠ .key setting → setting.get config' = setting.get config) ∧
        (slot = .key setting → slot.ShowsNull →
          setting.get config = .text "None" ∧ setting.get config' = setting.get { file := file' }) := by
  rcases exists_loaded files files' path path' file file' content content' entries slot hfile hfile' hholds hholds' h
    with ⟨config, config', hload, hload', hloaded⟩
  have hthere : ∀ setting : Setting, slot = .key setting →
      setting.get config = setting.take .null ∧ setting.get config' = setting.get { file := file' } :=
    fun setting hslot => (if_pos hslot).mp (hloaded setting)
  have hothers : ∀ setting : Setting, slot ≠ .key setting → setting.get config' = setting.get config :=
    fun setting hslot => (if_neg hslot).mp (hloaded setting)
  refine ⟨config, config', hload, hload', ⟨?_, ?_⟩, fun setting => ⟨hothers setting, ?_⟩⟩
  · rintro ⟨hgenerator, hlogging⟩ hshows
    cases slot with
    | root => exact hshows
    | group name => exact hshows
    | key setting =>
        rcases hthere setting rfl with ⟨hword, husual⟩
        have hsame : setting.get config' = setting.get config := by
          cases setting <;> simp only [Setting.get, hgenerator, hlogging]
        rcases take_null_of_showsNull setting file' hshows with ⟨htake, hne⟩
        exact hne (by rw [← husual, hsame, hword, htake])
  · intro hshows
    refine sections_eq_of_get config config' fun setting => ?_
    by_cases hslot : slot = .key setting
    · rcases hthere setting hslot with ⟨hnull, husual⟩
      rw [hnull, husual, take_null_of_not_showsNull setting file' (hslot ▸ hshows)]
    · exact hothers setting hslot
  · intro hslot hshows
    rcases hthere setting hslot with ⟨hnull, husual⟩
    exact ⟨hnull.trans (take_null_of_showsNull setting file (hslot ▸ hshows)).1, husual⟩

/-- A root with the settings of the generator only. -/
def generatorRoot (pairs : List (String × Value)) : Value :=
  .mapping (Json.textPairs [("generator", .mapping (Json.textPairs pairs))])

/-- A tree with a configuration file for a root. -/
def rootFiles (root : Value) : FileSystem where
  entries := [(["home"], .directory), (["home", "rosalina.json"], .file (Json.write root).toUTF8 0o644)]
  workdir := ["home"]
  umask := 0o022

theorem isFile_rootFiles (root : Value) :
    IsFile (rootFiles root) (some "rosalina.json") "rosalina.json" (Json.write root).toUTF8 :=
  ⟨rfl, rfl, rfl⟩

theorem holds_generatorRoot (pairs : List (String × Value)) (hkeys : (pairs.map Prod.fst).Nodup)
    (h : ∀ pair ∈ pairs, Json.IsPlain pair.2) :
    Holds Json.readerLimit (Json.write (generatorRoot pairs)).toUTF8 (generatorRoot pairs) :=
  holds_write _ (.mapping _ (List.pairwise_singleton _ _) (List.forall_mem_singleton.mpr (.mapping pairs hkeys h)))

/-- The entries of a root with a name and a version for the generator. -/
def namedEntries : List (Value × Value) :=
  Json.textPairs [("generator", .mapping (Json.textPairs [("tool_name", .text "A"), ("version", .text "2")]))]

theorem isSectioned_namedEntries : IsSectioned namedEntries := by
  intro name hname v hv
  simp only [sectionNames, List.mem_cons, List.not_mem_nil, or_false] at hname
  rcases hname with rfl | rfl
  · rw [← Option.some.inj hv]
    exact id
  · cases hv

theorem load_null_version :
    ∃ config config',
      (load (rootFiles ((Slot.key .version).nulled namedEntries)) (some "rosalina.json")).2 = .ok config ∧
      (load (rootFiles ((Slot.key .version).emptied namedEntries)) (some "rosalina.json")).2 = .ok config' ∧
      config'.generator = config.generator ∧ config'.logging = config.logging := by
  have hname : Json.IsPlain (.text "A") := .text "A"
  have hnulled : (Slot.key .version).nulled namedEntries =
      generatorRoot [("tool_name", .text "A"), ("version", .null)] := rfl
  have hemptied : (Slot.key .version).emptied namedEntries = generatorRoot [("tool_name", .text "A")] := rfl
  have hholds := holds_generatorRoot [("tool_name", .text "A"), ("version", .null)] (by decide)
    (List.forall_mem_cons.mpr ⟨hname, List.forall_mem_singleton.mpr .null⟩)
  have hholds' := holds_generatorRoot [("tool_name", .text "A")] (by decide) (List.forall_mem_singleton.mpr hname)
  rw [← hnulled] at hholds
  rw [← hemptied] at hholds'
  rcases load_null _ _ _ _ _ _ _ _ namedEntries (.key .version) (isFile_rootFiles _) (isFile_rootFiles _) hholds hholds'
    isSectioned_namedEntries with ⟨config, config', hload, hload', hsame, _⟩
  exact ⟨config, config', hload, hload', hsame.mpr fun hshows => hshows.1 rfl⟩

/-- With null for the name of the tool, the tool is called by the word for null. Without the key it has its own name. -/
theorem load_nullTool :
    (load (rootFiles (generatorRoot [("tool_name", .null)])) (some "rosalina.json")).2 =
        .ok { file := "rosalina.json", generator := { toolName := "None" } } ∧
      (load (rootFiles (generatorRoot [])) (some "rosalina.json")).2 = .ok { file := "rosalina.json" } := by
  have hholds := holds_generatorRoot [("tool_name", .null)] (by decide) (List.forall_mem_singleton.mpr .null)
  have hholds' := holds_generatorRoot [] List.nodup_nil (List.forall_mem_nil _)
  constructor
  · rw [load_of_holds _ _ _ _ (isFile_rootFiles _) _ hholds]
    rfl
  · rw [load_of_holds _ _ _ _ (isFile_rootFiles _) _ hholds']
    rfl

end Config

end CodeBehind
