import CodeBehind.Proofs.Text.Pieces
import CodeBehind.Session
import Mathlib.Data.List.Basic

/-!
# Events and what they tell

What can be seen of a run from outside.

A run leaves a list of events, and three observers look at it. The operator sees the progress, the log gets the
records, and a session changes its tree by the files that are put in place. Each of them takes its own events out of
the list and keeps their order, so what is observed of two lists one after the other is what is observed of each.

A line of the log is recognized by the words it begins with. Two lines that begin in different ways cannot be taken
for each other, whatever document they go on to name.

## Main definitions

* `Log.Record.opens`: Whether a record begins with some words.
* `Event.isProgress`, `Event.record?`, `Event.saved?`: What each of the observers takes out of the events.

## Theorems

* `opens_eq_false`: A record cannot begin in two ways.
* `startWords_generationStarted` and the theorems after it: How the lines about a document begin.
* `files_performAll`: The tree of a session after some events.
-/

namespace CodeBehind

/-! ## Records and the words they begin with -/

/-- Whether a record begins with some words. -/
def Log.Record.opens (words : String) (record : Log.Record) : Bool :=
  words.toList.isPrefixOf record.text.toList

namespace Log

theorem opens_append (logger : String) (level : Level) (words rest : String) :
    Record.opens words ⟨logger, level, words ++ rest⟩ = true := by
  rw [Record.opens, String.toList_append, List.isPrefixOf_iff_prefix]
  exact List.prefix_append _ _

/-- A record cannot begin in two ways that differ. -/
theorem opens_eq_false (words other : String) (record : Record) (h : record.opens other = true)
    (hwords : words.toList.isPrefixOf other.toList = false) (hother : other.toList.isPrefixOf words.toList = false) :
    record.opens words = false := by
  rw [Bool.eq_false_iff]
  intro hopens
  rw [Record.opens, List.isPrefixOf_iff_prefix] at h hopens
  rcases List.prefix_or_prefix_of_prefix hopens h with hprefix | hprefix
  · rw [List.isPrefixOf_iff_prefix.mpr hprefix] at hwords
    exact Bool.noConfusion hwords
  · rw [List.isPrefixOf_iff_prefix.mpr hprefix] at hother
    exact Bool.noConfusion hother

/-- The words with which a document is named before it is generated. -/
def startWords : String := "Generating UI code behind for "

/-- The words with which a file is named after it has been generated. -/
def doneWords : String := "Done generating: "

theorem opens_invalidIdentifier (component typeName document : String) :
    (invalidIdentifier component typeName document).opens "'" = true := by
  have htext : (invalidIdentifier component typeName document).text = "'" ++ (typeName ++
      ("' is not a valid C# identifier; the code generated for " ++ (document ++ " will not compile"))) := by
    simp only [invalidIdentifier, record, String.append_assoc]
  rw [Record.opens, htext]
  exact opens_append "" .info _ _

theorem startWords_generationStarted (component document : String) :
    (generationStarted component document).opens startWords = true :=
  opens_append _ _ _ _

theorem doneWords_generationStarted (component document : String) :
    (generationStarted component document).opens doneWords = false :=
  opens_eq_false _ startWords _ (opens_append _ _ _ _) (by decide) (by decide)

theorem startWords_generationDone (component output : String) :
    (generationDone component output).opens startWords = false :=
  opens_eq_false _ doneWords _ (opens_append _ _ _ _) (by decide) (by decide)

theorem doneWords_generationDone (component output : String) :
    (generationDone component output).opens doneWords = true :=
  opens_append _ _ _ _

theorem startWords_invalidIdentifier (component typeName document : String) :
    (invalidIdentifier component typeName document).opens startWords = false :=
  opens_eq_false _ "'" _ (opens_invalidIdentifier ..) (by decide) (by decide)

theorem doneWords_invalidIdentifier (component typeName document : String) :
    (invalidIdentifier component typeName document).opens doneWords = false :=
  opens_eq_false _ "'" _ (opens_invalidIdentifier ..) (by decide) (by decide)

end Log

/-! ## What events tell -/

/-- Whether the operator sees an event. -/
def Event.isProgress : Event → Bool
  | .progressed _ _ _ => true
  | .progressCleared => true
  | .logged _ => false
  | .saved _ _ => false

/-- The record that an event logs. -/
def Event.record? : Event → Option Log.Record
  | .logged record => some record
  | .progressed _ _ _ => none
  | .progressCleared => none
  | .saved _ _ => none

/-- The place at which an event puts a file, and the file. -/
def Event.saved? : Event → Option (Place × Entry)
  | .saved place entry => some (place, entry)
  | .logged _ => none
  | .progressed _ _ _ => none
  | .progressCleared => none

namespace Session

/-- An event changes the tree by the file it puts in place, as long as no log is kept in a file. -/
theorem files_perform (event : Event) (session : Session) (h : session.log.file = .none) :
    (session.perform event).files =
        (event.saved?.toList.foldl (fun files saved => files.set saved.1 saved.2) session.files) ∧
      (session.perform event).log.file = .none := by
  have hemit : ∀ record, (session.emit record).files = session.files ∧ (session.emit record).log.file = .none := by
    intro record
    unfold emit
    split
    · simp only [appendLog, complain, h, and_self]
    · exact ⟨rfl, h⟩
  cases event with
  | logged record => exact hemit record
  | progressed title info ratio => exact hemit _
  | progressCleared => exact hemit _
  | saved place entry =>
      simp only [perform, losing, Log.Setup.losing, h, Event.saved?, Option.toList_some, List.foldl_cons,
        List.foldl_nil, and_self]

/-- The tree after some events is the one before with the files that they put in place. -/
theorem files_performAll (events : List Event) (session : Session) (h : session.log.file = .none) :
    (session.performAll events).files =
      (events.filterMap Event.saved?).foldl (fun files saved => files.set saved.1 saved.2) session.files := by
  induction events generalizing session with
  | nil => rfl
  | cons event rest ih =>
      rcases files_perform event session h with ⟨hfiles, hlog⟩
      have hrest := ih (session.perform event) hlog
      rw [hfiles] at hrest
      have hcons : (event :: rest).filterMap Event.saved? = event.saved?.toList ++ rest.filterMap Event.saved? := by
        rw [List.filterMap_eq_flatMap_toList, List.flatMap_cons, ← List.filterMap_eq_flatMap_toList]
      rw [hcons, List.foldl_append]
      exact hrest

end Session

end CodeBehind
