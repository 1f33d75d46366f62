import CodeBehind.Proofs.FileSystem.Walk
import CodeBehind.Proofs.Log.Handlers
import CodeBehind.Proofs.Log.Levels

/-!
# Delivery of records

Every record that passes is written once to the console and once to the log file, if there is one.

What has to be written is kept in a ledger, which knows neither handlers nor thresholds. New log settings lay down
terms: the least level that is written, and the place of the log file if one was named that can be opened. A record that
passes under the terms of the most recent settings is an item of the ledger, with that place, and any other record is
none. So a record has one item or none, and it has no place of earlier settings.

All items are found on the console in their order, and the items with a place are found in the file at that place. This
holds for every file of the tree: behind the bytes that it had before there are the items with its place, so a file
without items keeps its bytes, also if it was the log file before. Opening a file changes no bytes, as it creates an
empty file where there is none.

Each step keeps that the session has the terms of its most recent settings, and that there is a file at their place
(`Session.Obeys`). From this it follows that what a step writes are its own items (`delivers_message`,
`delivers_setUp`).

## Main definitions

* `FileSystem.bytesAt`: The bytes of a file.
* `Terms`, `Item`, `ledger`: What has to be written.
* `printed`, `filed`: The items on the console and those in a file.
* `Session.Obeys`, `Session.Delivers`: What a step keeps, and what it writes.
* `Session.started`: A session after the first settings.

## Main results

* `delivery_exact`: What is on the console and in the files after any steps.

## Theorems

* `openFile_file`, `bytesAt_append`: Bytes of a file that is opened and written to.
* `delivers_takeAll`: What any steps write.
* `ledger_messages`, `delivers_settings`: What is written while the settings stay.
-/

namespace CodeBehind

/-! ## Bytes -/

namespace FileSystem

/-- The bytes of the file at a place; none where there is no file. -/
def bytesAt (files : FileSystem) (place : Place) : ByteArray :=
  match files.get? place with
  | some (.file content _) => content
  | _ => .empty

theorem bytesAt_congr (files other : FileSystem) (place : Place) (h : files.get? place = other.get? place) :
    files.bytesAt place = other.bytesAt place := by
  rw [bytesAt, bytesAt, h]

theorem bytesAt_file (files : FileSystem) (place : Place) (content : ByteArray) (mode : Nat)
    (h : files.get? place = some (.file content mode)) : files.bytesAt place = content := by
  rw [bytesAt, h]

/-- Where a file is opened there is a file, and all files have the bytes that they had before. -/
theorem openFile_file (files opened : FileSystem) (path : String) (place : Place)
    (h : files.openFile path = .ok (place, opened)) :
    (∃ content mode, opened.get? place = some (.file content mode)) ∧
      ∀ other, opened.bytesAt other = files.bytesAt other := by
  rw [openFile] at h
  split at h
  · next found content mode hfollow =>
      rw [Except.ok.injEq, Prod.mk.injEq] at h
      rw [← h.1, ← h.2]
      exact ⟨⟨content, mode, (leadsTo_of_follow_file files path found content mode hfollow).2⟩, fun _ => rfl⟩
  · cases h
  · next found hfollow =>
      rw [Except.ok.injEq, Prod.mk.injEq] at h
      rcases leadsTo_of_follow_free files path found hfollow with ⟨hleads, hfree⟩
      have hnew := get?_set_self files found (.file .empty (files.createdMode openMode))
        (leadsTo_ne_nil files path found hleads)
      rw [← h.1, ← h.2]
      refine ⟨⟨_, _, hnew⟩, fun other => ?_⟩
      -- The new file has no bytes, and neither had the free place.
      by_cases hother : other = found
      · rw [hother, bytesAt_file _ found _ _ hnew, bytesAt, hfree]
      · exact bytesAt_congr _ _ _ (get?_set_ne files found other _ hother)
  · cases h

theorem get?_append_self (files : FileSystem) (place : Place) (old content : ByteArray) (mode : Nat)
    (h : files.get? place = some (.file old mode)) :
    (files.append place content).get? place = some (.file (old ++ content) mode) := by
  have hplace : place ≠ [] := ne_nil_of_get? files place (by simp only [h, ne_eq, Option.some.injEq, reduceCtorEq,
    not_false_eq_true])
  simp only [append, h]
  exact get?_set_self files place _ hplace

/-- Bytes that are added to a file are found behind those that it had, and in no other file. -/
theorem bytesAt_append (files : FileSystem) (place other : Place) (content : ByteArray)
    (h : ∃ old mode, files.get? place = some (.file old mode)) :
    (files.append place content).bytesAt other =
      files.bytesAt other ++ if some place = some other then content else .empty := by
  rcases h with ⟨old, mode, hfile⟩
  by_cases hother : other = place
  · rw [hother, if_pos rfl, bytesAt_file _ _ _ _ (get?_append_self files place old content mode hfile),
      bytesAt_file _ _ _ _ hfile]
  · rw [if_neg (fun heq => hother (Option.some.inj heq).symm), ByteArray.append_empty]
    exact bytesAt_congr _ _ _ ((files.append_keeps place content).2.2.2 other hother)

end FileSystem

/-! ## The ledger -/

namespace Log

/-- What log settings lay down: the least level of a record that is written, and the place of the log file. -/
structure Terms where
  least : Level
  place : Option Place

/-- The terms of settings that are made while the tree is `files`. -/
def Terms.ofSettings (files : FileSystem) (level surroundings file : Option String) : Terms where
  least := leastOf ((level <|> surroundings).getD "INFO")
  place := (openedBy files file).map Prod.fst

/-- A line that has to be written, with the place of the log file that it goes to. -/
structure Item where
  line : String
  place : Option Place

/-- The items of a record: one if the record passes, and none if not. -/
def Terms.items (terms : Terms) (clock : String) (record : Record) : List Item :=
  if Covers terms.least record.level then [⟨spelling clock record, terms.place⟩] else []

/-- What has to be written from a session on, in which there are the terms of the most recent settings. -/
def ledger (session : Session) (terms : Terms) : List Step → List Item
  | [] => []
  | .setUp level surroundings file :: rest =>
    ledger (session.take (.setUp level surroundings file)) (.ofSettings session.files level surroundings file) rest
  | .message record :: rest =>
    terms.items session.clock record ++ ledger (session.take (.message record)) terms rest

/-- The text of items. -/
def printed (items : List Item) : String :=
  String.join (items.map Item.line)

/-- The text of the items that go to the file at a place. -/
def filed (items : List Item) (place : Place) : String :=
  printed (items.filter fun item => item.place = some place)

theorem printed_append (items others : List Item) : printed (items ++ others) = printed items ++ printed others := by
  rw [printed, List.map_append, String.join_append]
  rfl

theorem filed_append (items others : List Item) (place : Place) :
    filed (items ++ others) place = filed items place ++ filed others place := by
  rw [filed, List.filter_append, printed_append]
  rfl

theorem printed_map (lines : List String) (home : Option Place) :
    printed (lines.map fun line => ⟨line, home⟩) = String.join lines := by
  have hline : (Item.line ∘ fun line => ⟨line, home⟩) = id := rfl
  rw [printed, List.map_map, hline, List.map_id]

/-- Lines with one place are all found there, and nowhere else. -/
theorem filed_map (lines : List String) (home : Option Place) (place : Place) :
    filed (lines.map fun line => ⟨line, home⟩) place = if home = some place then String.join lines else "" := by
  have hitem : ((fun item : Item => decide (item.place = some place)) ∘ fun line => ⟨line, home⟩) =
      fun _ => decide (home = some place) := rfl
  rw [filed, List.filter_map, hitem]
  by_cases hplace : home = some place
  · rw [if_pos hplace, List.filter_eq_self.mpr (fun _ _ => decide_eq_true hplace), printed_map]
  · rw [if_neg hplace, List.filter_eq_nil_iff.mpr (fun _ _ h => hplace (of_decide_eq_true h))]
    rfl

end Log

/-! ## Steps -/

open Log

/-- A session has the terms of its most recent settings, and at their place there is a file. -/
structure Session.Obeys (session : Session) (terms : Terms) : Prop where
  least : session.log.least = terms.least.number
  file : session.log.file = (terms.place.map LogFile.open).getD .none
  isFile : ∀ place, terms.place = some place →
    ∃ content mode, session.files.get? place = some (.file content mode)

/-- Between two sessions items are written, and nothing else. -/
structure Session.Delivers (before after : Session) (items : List Item) : Prop where
  stderr : after.stderr = before.stderr ++ printed items
  bytes : ∀ place, after.files.bytesAt place = before.files.bytesAt place ++ (filed items place).toUTF8

namespace Log

theorem delivers_refl (session : Session) : session.Delivers session [] :=
  ⟨String.append_empty.symm, fun _ => ByteArray.append_empty.symm⟩

theorem delivers_trans (before between after : Session) (items others : List Item) (h : before.Delivers between items)
    (h' : between.Delivers after others) : before.Delivers after (items ++ others) := by
  constructor
  · rw [h'.stderr, h.stderr, printed_append, String.append_assoc]
  · intro place
    rw [h'.bytes, h.bytes, filed_append, String.toUTF8_eq_toByteArray, String.toUTF8_eq_toByteArray,
      String.toUTF8_eq_toByteArray, String.toByteArray_append, ByteArray.append_assoc]

section

variable (session : Session) (terms : Terms)

/-- New settings have their own terms from then on. -/
theorem obeys_setUp (level surroundings file : Option String) :
    (session.take (.setUp level surroundings file)).Obeys (.ofSettings session.files level surroundings file) := by
  have hleast := least_thresholdOf ((level <|> surroundings).getD "INFO")
  rw [take_setUp, Terms.ofSettings]
  cases hopened : openedBy session.files file with
  | none => exact ⟨hleast _, rfl, fun place hplace => nomatch hplace⟩
  | some found =>
      rcases openedBy_eq_some session.files found.2 file found.1 hopened with ⟨path, hopen⟩
      refine ⟨hleast _, rfl, fun place hplace => ?_⟩
      rw [← Option.some.inj hplace]
      exact (FileSystem.openFile_file session.files found.2 path found.1 hopen).1

/-- New settings write nothing. -/
theorem delivers_setUp (level surroundings file : Option String) :
    session.Delivers (session.take (.setUp level surroundings file)) [] := by
  rw [take_setUp]
  cases hopened : openedBy session.files file with
  | none => exact ⟨String.append_empty.symm, fun place => ByteArray.append_empty.symm⟩
  | some found =>
      rcases openedBy_eq_some session.files found.2 file found.1 hopened with ⟨path, hopen⟩
      refine ⟨String.append_empty.symm, fun place => ?_⟩
      exact ((FileSystem.openFile_file session.files found.2 path found.1 hopen).2 place).trans
        ByteArray.append_empty.symm

variable (h : session.Obeys terms) (record : Record)
include h

/-- What a session says under terms. -/
theorem emit_of_obeys :
    session.emit record =
      if Covers terms.least record.level then
        { session with
          stderr := session.stderr ++ spelling session.clock record
          files := match terms.place with
            | none => session.files
            | some place => session.files.append place (spelling session.clock record).toUTF8 }
      else session := by
  have hpasses : session.log.passes record = decide (Covers terms.least record.level) := by
    rw [Setup.passes, h.least]
    exact (decide_eq_decide.mpr (covers_iff terms.least record.level)).symm
  have hfile := h.file
  rw [Session.emit, hpasses, Session.appendLog, Session.complain, line_eq_spelling]
  simp only [decide_eq_true_eq, hfile]
  cases terms.place <;> rfl

/-- A record leaves the terms as they are. -/
theorem obeys_message : (session.take (.message record)).Obeys terms := by
  have hlog := (Session.emit_keeps record session).2.2
  refine ⟨(congrArg Setup.least hlog).trans h.least, (congrArg Setup.file hlog).trans h.file,
    fun place hplace => ?_⟩
  rcases h.isFile place hplace with ⟨content, mode, hfile⟩
  rw [Session.take, emit_of_obeys session terms h record, hplace]
  split
  · exact ⟨_, mode, FileSystem.get?_append_self session.files place content _ mode hfile⟩
  · exact ⟨content, mode, hfile⟩

/-- A record is written if it passes, to the console and to the log file. -/
theorem delivers_message : session.Delivers (session.take (.message record)) (terms.items session.clock record) := by
  rw [Session.take, emit_of_obeys session terms h record, Terms.items]
  split
  · have hitem : [Item.mk (spelling session.clock record) terms.place] =
        [spelling session.clock record].map fun line => ⟨line, terms.place⟩ := rfl
    have hline : String.join [spelling session.clock record] = spelling session.clock record := by
      rw [String.join_cons, String.join_nil, String.append_empty]
    refine ⟨?_, fun place => ?_⟩
    · rw [hitem, printed_map, hline]
    · rw [hitem, filed_map, hline]
      cases hplace : terms.place with
      | none => exact ByteArray.append_empty.symm
      | some home =>
          rw [FileSystem.bytesAt_append session.files home place _ (h.isFile home hplace)]
          split <;> rfl
  · exact delivers_refl session

end

/-- Whatever the steps are, the items of the ledger are written. -/
theorem delivers_takeAll (steps : List Step) (session : Session) (terms : Terms) (h : session.Obeys terms) :
    session.Delivers (session.takeAll steps) (ledger session terms steps) := by
  induction steps generalizing session terms with
  | nil => exact delivers_refl session
  | cons step rest ih =>
      cases step with
      | setUp level surroundings file =>
          exact delivers_trans session _ _ [] _ (delivers_setUp session level surroundings file)
            (ih _ _ (obeys_setUp session level surroundings file))
      | message record =>
          exact delivers_trans session _ _ _ _ (delivers_message session terms h record)
            (ih _ _ (obeys_message session terms h record))

/-- The lines of the records that pass under terms. -/
def Terms.lines (terms : Terms) (clock : String) (records : List Record) : List String :=
  (records.filter fun record => Covers terms.least record.level).map (spelling clock)

/-- While the settings stay, the items are the lines of the records that pass, all with one place. -/
theorem ledger_messages (records : List Record) (session : Session) (terms : Terms) :
    ledger session terms (records.map .message) =
      (terms.lines session.clock records).map fun line => ⟨line, terms.place⟩ := by
  induction records generalizing session with
  | nil => rfl
  | cons record rest ih =>
      rw [List.map_cons, ledger, ih, clock_take, Terms.items, Terms.lines, Terms.lines, List.filter_cons]
      by_cases hpasses : Covers terms.least record.level
      · rw [if_pos hpasses, if_pos (decide_eq_true hpasses)]
        rfl
      · rw [if_neg hpasses, if_neg (fun h => hpasses (of_decide_eq_true h))]
        rfl

/-- Records that follow new settings are written as the lines of those that pass, all with the place of the log file of
    these settings. -/
theorem delivers_settings (level surroundings file : Option String) (records : List Record) (session : Session)
    (terms : Terms) (hterms : terms = .ofSettings session.files level surroundings file) :
    session.Delivers (session.takeAll (.setUp level surroundings file :: records.map .message))
      ((terms.lines session.clock records).map fun line => ⟨line, terms.place⟩) := by
  have hobeys := obeys_setUp session level surroundings file
  rw [← hterms] at hobeys
  rw [← clock_take session (.setUp level surroundings file), ← ledger_messages]
  exact delivers_trans session _ _ [] _ (delivers_setUp session level surroundings file)
    (delivers_takeAll _ _ terms hobeys)

/-- A session after the first settings, which name no log file. The surroundings may name a level. -/
def started (session : Session) (surroundings : Option String) : Session :=
  session.take (.setUp none surroundings none)

/-- If the surroundings name no level, these are the settings that a session has from the beginning. -/
example (session : Session) : started session none = { session with log := {} } := by
  rw [started, take_setUp]
  rfl

/-- What the first settings lay down. -/
def firstTerms (session : Session) (surroundings : Option String) : Terms :=
  .ofSettings session.files none surroundings none

/-- After the first settings, take any steps: new settings with any level and any log file, and records, in any order
    and number. Whatever handlers the logger of the library and the topmost logger had at the beginning, and however
    many loggers there are below, what the loggers write is what the session has: on the console all items of the
    ledger, and in each file those with its place, in their order and behind what was there before. In particular,
    records that follow settings are written to the console as the lines of those that pass, and to the log file of
    these settings, if it can be opened, as the same lines, while no other file gets anything. -/
theorem delivery_exact (session : Session) (surroundings : Option String) :
    (∀ (steps : List Step) (library : Logger) (others : List Handler) (depth : String → Nat),
      Station.takeAll depth others session.clock ⟨library, session.files, session.stderr⟩
        (.setUp none surroundings none :: steps) = ((started session surroundings).takeAll steps).station) ∧
    (∀ steps : List Step,
      session.Delivers ((started session surroundings).takeAll steps)
        (ledger (started session surroundings) (firstTerms session surroundings) steps)) ∧
    ∀ (earlier : List Step) (level surroundings' file : Option String) (records : List Record),
      let before := (started session surroundings).takeAll earlier
      let after := before.takeAll (.setUp level surroundings' file :: records.map .message)
      let terms := Terms.ofSettings before.files level surroundings' file
      let text := String.join (terms.lines session.clock records)
      after.stderr = before.stderr ++ text ∧
        ∀ place, after.files.bytesAt place =
          before.files.bytesAt place ++ (if terms.place = some place then text else "").toUTF8 := by
  refine ⟨fun steps library others depth => ?_, fun steps => ?_, fun earlier level surroundings' file records => ?_⟩
  · rw [Station.takeAll, List.foldl_cons, Station.take, setUp_station _ _ _ session library (.inr rfl),
      ← clock_take session (.setUp none surroundings none)]
    exact takeAll_station depth others steps (started session surroundings)
  · exact delivers_trans session _ _ [] _ (delivers_setUp session none surroundings none)
      (delivers_takeAll steps _ _ (obeys_setUp session none surroundings none))
  · intro before after terms text
    have hclock : before.clock = session.clock := (clock_takeAll earlier _).trans (clock_take session _)
    have hdelivers := delivers_settings level surroundings' file records before terms rfl
    rw [hclock] at hdelivers
    refine ⟨?_, fun place => ?_⟩
    · rw [hdelivers.stderr, printed_map]
    · rw [hdelivers.bytes, filed_map]

/-- A session with nothing but a directory to work in. -/
def quietSession : Session where
  files := {
    entries := [(["home"], .directory)]
    workdir := ["home"]
    umask := 0o022 }
  clock := "12:00"

/-- Settings for a level in mixed letters and with a log file, then for a word that is no level, then for the name of no
    level and with another log file. Records follow each of them. -/
def changingSteps : List Step := [
  .setUp (some "dEbug") none (some "first.log"),
  .message ⟨"rosalina.cli", .debug, "one"⟩,
  .setUp (some "loud") none none,
  .message ⟨"rosalina.cli", .debug, "two"⟩,
  .message ⟨"rosalina.cli", .info, "three"⟩,
  .setUp (some "notset") none (some "second.log"),
  .message ⟨"rosalina.cli", .info, "four"⟩,
  .message ⟨"rosalina.cli", .warning, "five"⟩]

theorem delivery_changingSteps :
    let after := (started quietSession none).takeAll changingSteps
    after.stderr =
        "12:00 - rosalina.cli - DEBUG - one\n" ++ "12:00 - rosalina.cli - INFO - three\n" ++
          "12:00 - rosalina.cli - WARNING - five\n" ∧
      after.files.bytesAt ["home", "first.log"] = "12:00 - rosalina.cli - DEBUG - one\n".toUTF8 ∧
      after.files.bytesAt ["home", "second.log"] = "12:00 - rosalina.cli - WARNING - five\n".toUTF8 := by
  intro after
  rcases (delivery_exact quietSession none).2.1 changingSteps with ⟨hstderr, hbytes⟩
  have hprinted : printed (ledger (started quietSession none) (firstTerms quietSession none) changingSteps) =
      "12:00 - rosalina.cli - DEBUG - one\n" ++ "12:00 - rosalina.cli - INFO - three\n" ++
        "12:00 - rosalina.cli - WARNING - five\n" := by decide +kernel
  have hfirst : filed (ledger (started quietSession none) (firstTerms quietSession none) changingSteps)
      ["home", "first.log"] = "12:00 - rosalina.cli - DEBUG - one\n" := by decide +kernel
  have hsecond : filed (ledger (started quietSession none) (firstTerms quietSession none) changingSteps)
      ["home", "second.log"] = "12:00 - rosalina.cli - WARNING - five\n" := by decide +kernel
  refine ⟨?_, ?_, ?_⟩
  · rw [hstderr, hprinted]
    exact String.empty_append
  · rw [hbytes, hfirst]
    exact ByteArray.empty_append
  · rw [hbytes, hsecond]
    exact ByteArray.empty_append

end Log

end CodeBehind
