import SqlSurvey.FileSurveys

/-! # What a file gives

What a file contributes to a run depends on that file alone: it ends the run, it is left out, or it gives its findings.
A cancellation that is asked for while the file is read is seen from then on. -/
namespace SqlSurvey

namespace Survey

variable (survey : Survey)

def cancelsAt (path : Path) : Bool :=
  match survey.workspace.readSource path with
  | .ok source => (survey.grammar path source).cancels
  | .error _ => false

def failureAt (path : Path) : Option FileError :=
  match survey.workspace.readSource path with
  | .ok source => (survey.grammar path source).failure.map .other
  | .error error => some error

abbrev treeAt (path : Path) (source : Bytes) : SourceTree :=
  .ofSource ((survey.grammar path source).tree.lower source) source

def Finds (path : Path) (findings : FileFindings) : Prop :=
  ∃ source, survey.workspace.readSource path = .ok source ∧
    FileScan.scan survey.settings (survey.treeAt path source) (.ofTexts path.name path.toText) = .ok findings

/-- Whether a run with the event sees a cancellation at the file. -/
def stopsAt (event : CancelEvent) (path : Path) : Bool :=
  match event with
  | .absent => false
  | .clear => survey.cancelsAt path
  | .set => true

/-- The failure of the file if it ends a run. -/
def fatalAt (path : Path) : Option FileError := if survey.errorMode = .raise then survey.failureAt path else none

def eventAfter (event : CancelEvent) (path : Path) : CancelEvent :=
  if survey.stopsAt event path then .set else event

inductive FileOutcome (path : Path) : FileResult → Prop
  | failed {error} (fatal : survey.fatalAt path = some error) : FileOutcome path (.error (.file error))
  | skipped (harmless : survey.fatalAt path = none) (failure : survey.failureAt path ≠ none) :
      FileOutcome path (.ok none)
  | refused {source faults} (read : survey.workspace.readSource path = .ok source)
      (scanned : FileScan.scan survey.settings (survey.treeAt path source) (.ofTexts path.name path.toText) =
        .error faults) : FileOutcome path (.error (.faults faults))
  | found {findings} (readable : survey.failureAt path = none) (finds : survey.Finds path findings) :
      FileOutcome path (.ok (some (findings, .ofFindings survey.settings findings)))

inductive ParseOutcome (path : Path) : Except FileResult SourceTree → Prop
  | parsed {source} (readable : survey.failureAt path = none)
      (read : survey.workspace.readSource path = .ok source) : ParseOutcome path (.ok (survey.treeAt path source))
  | settled {result} (outcome : survey.FileOutcome path result) : ParseOutcome path (.error result)

variable {survey} {path : Path} {source : Bytes}

theorem fatalAt_of_readable (readable : survey.failureAt path = none) : survey.fatalAt path = none := by
  rw [fatalAt, readable, ite_self]

private theorem giveUp_outcome {error : FileError} (failure : survey.failureAt path = some error)
    (state : RunState) : (survey.giveUp path error state).1.event = state.event ∧
      survey.FileOutcome path (survey.giveUp path error state).2 := by
  cases mode : survey.errorMode with
  | raise =>
    simp only [giveUp, mode]
    exact ⟨trivial, .failed (by rw [fatalAt, if_pos mode, failure])⟩
  | skip =>
    simp only [giveUp, mode]
    exact ⟨rfl, .skipped (by simp [fatalAt, mode]) (by simp [failure])⟩

/-- A tree is scanned whatever the event is, and the event stays. -/
theorem surveyTree_outcome (readable : survey.failureAt path = none)
    (read : survey.workspace.readSource path = .ok source) (state : RunState) :
    (survey.surveyTree path (survey.treeAt path source) state).1.event = state.event ∧
      survey.FileOutcome path (survey.surveyTree path (survey.treeAt path source) state).2 := by
  cases scanned : FileScan.scan survey.settings (survey.treeAt path source)
      (.ofTexts path.name path.toText) with
  | error faults =>
    simp only [surveyTree, scanned]
    exact ⟨trivial, .refused read scanned⟩
  | ok findings =>
    simp only [surveyTree, scanned]
    exact ⟨rfl, .found readable ⟨source, read, scanned⟩⟩

private theorem signal_eq_eventAfter (read : survey.workspace.readSource path = .ok source) (event : CancelEvent) :
    (if (survey.grammar path source).cancels then event.signal else event) = survey.eventAfter event path := by
  rw [eventAfter]
  cases event with
  | absent => simp [stopsAt, CancelEvent.signal]
  | clear =>
    rw [stopsAt, cancelsAt, read]
    rfl
  | set => simp [stopsAt, CancelEvent.signal]

/-- The event changes as the file says, and the file has a tree or one of the outcomes of a file without a tree. -/
theorem parseFile_outcome (read : survey.workspace.readSource path = .ok source) (state : RunState) :
    (survey.parseFile path state).1.event = survey.eventAfter state.event path ∧
      survey.ParseOutcome path (survey.parseFile path state).2 := by
  have failureAt_eq : survey.failureAt path = (survey.grammar path source).failure.map .other := by
    rw [failureAt, read]
  rw [← signal_eq_eventAfter read, parseFile, read]
  dsimp only
  cases failure : (survey.grammar path source).failure with
  | some message =>
    rw [failure] at failureAt_eq
    have outcome := giveUp_outcome failureAt_eq
      (if (survey.grammar path source).cancels then { state with event := state.event.signal } else state)
    refine ⟨outcome.1.trans ?_, .settled outcome.2⟩
    split <;> rfl
  | none =>
    rw [failure] at failureAt_eq
    refine ⟨?_, .parsed failureAt_eq read⟩
    dsimp only
    split <;> split <;> rfl

/-- What one file of a run without a cancellation so far gives, and the event after it. -/
theorem surveyFile_outcome {state : RunState} (read : survey.workspace.readSource path = .ok source)
    (active : state.event ≠ .set) : (survey.surveyFile path state).1.event = survey.eventAfter state.event path ∧
      survey.FileOutcome path (survey.surveyFile path state).2 := by
  obtain ⟨event, outcome⟩ := parseFile_outcome read state
  rw [surveyFile, if_neg active]
  generalize survey.parseFile path state = parsed at event outcome ⊢
  obtain ⟨next, result⟩ := parsed
  cases outcome with
  | settled outcome => exact ⟨event, outcome⟩
  | parsed readable read =>
    have scanned := surveyTree_outcome readable read next
    exact ⟨scanned.1.trans event, scanned.2⟩

end Survey

namespace Gathered

variable {gathered : Gathered} {settings : Settings}

def extend (gathered : Gathered) (settings : Settings) (findings : List FileFindings) (cancelled : Bool) :
    Gathered where
  index := gathered.index.merge (findings.flatMap FileFindings.callSites)
  files := gathered.files ++ findings.map (FileSummary.ofFindings settings)
  cancelled := gathered.cancelled || cancelled

@[simp]
theorem extend_nil (gathered : Gathered) (settings : Settings) : gathered.extend settings [] false = gathered := by
  simp [extend, CallIndex.merge]

-- The index of a run receives the call sites file by file, which is the same as all at once.
theorem extend_extend (settings : Settings) (findings more : List FileFindings) (cancelled : Bool) :
    (gathered.extend settings findings false).extend settings more cancelled =
      gathered.extend settings (findings ++ more) cancelled := by
  simp [extend, CallIndex.merge, List.foldl_append]

theorem cancel_extend (findings : List FileFindings) :
    { gathered.extend settings findings false with cancelled := true } = gathered.extend settings findings true := by
  simp [extend]

theorem add_some (found : FileFindings) :
    gathered.add (some (found, .ofFindings settings found)) = gathered.extend settings [found] false := by
  simp [add, extend, CallIndex.mergeFindings]

variable {state : RunState}

/-- A result that comes after a cancellation is dropped, and the gathering ends. -/
theorem take_of_set (cancelled : state.event = .set) (found : Option (FileFindings × FileSummary)) :
    gathered.take (.ok found) state =
      (state.record (.cancelled gathered.files.length), .error (.ok { gathered with cancelled := true })) :=
  if_pos cancelled

theorem take_of_active (active : state.event ≠ .set) (found : Option (FileFindings × FileSummary)) :
    gathered.take (.ok found) state = (state, .ok (gathered.add found)) := if_neg active

end Gathered
end SqlSurvey
