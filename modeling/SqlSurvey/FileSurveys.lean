import SqlSurvey.FileScans
import SqlSurvey.PathResolution
import SqlSurvey.SourceFiles
import SqlSurvey.SurveyLog
import SqlSurvey.SurveyReports
import SqlSurvey.TreeLowering

/-! # Surveys of single files

A survey reads each source file of a directory, scans it, and gathers what it finds. It may be cancelled between files;
the files gathered before stay, and no file is gathered in part. The grammar of the source language is a parameter of a
survey, and so is the order in which several workers come to their work. -/
namespace SqlSurvey

/-- What the grammar does with the contents of a file: whether a cancellation is asked for meanwhile, then
either a failure or a tree, which may be recovered from errors. -/
structure Reading where
  cancels : Bool := false
  failure : Option Text := none
  recovered : Bool := false
  tree : Concrete

/-- The reading of every file, by its path and its contents. Each file of a run is read once, so this covers
readers that remember what they read before. -/
abbrev Grammar := Path → Bytes → Reading

/-- What happens to a file that cannot be read. -/
inductive ErrorMode where
  | raise
  | skip
deriving DecidableEq

/-- The means to cancel a run: there may be none, and otherwise it may have been used. -/
inductive CancelEvent where
  | absent
  | clear
  | set
deriving DecidableEq

def CancelEvent.signal : CancelEvent → CancelEvent
  | absent => absent
  | clear | set => set

inductive SurveyError where
  | collect (error : CollectError)
  | linkLoop (root place : Path)
  | file (error : FileError)
  | faults (faults : List Fault)
deriving DecidableEq

def SurveyError.message : SurveyError → Text
  | collect error => error.message
  | linkLoop root place =>
    Text.ofString "Invalid path: " ++ root.toText ++ Text.ofString " - Symlink loop from " ++
      Text.quoted place.toText
  | file error => error.message
  | faults _ => []

/-- What may happen next where several workers survey files: a worker that is free takes the next file, one of the files
at work comes a stage further, the next result is collected, or the files that no worker has taken are given up. -/
inductive Move where
  | start
  | advance (place : Nat)
  | collect
  | close

/-- The order in which workers come to their work. -/
abbrev Schedule := List Move

structure Survey where
  workspace : Workspace
  grammar : Grammar
  root : Path
  settings : Settings
  errorMode : ErrorMode := .raise
  schedule : Schedule := []

structure RunState where
  event : CancelEvent := .absent
  log : List LogEvent := []

namespace RunState

def record (state : RunState) (event : LogEvent) : RunState := { state with log := state.log ++ [event] }

end RunState

/-- What a file gives: its findings and their summary, nothing if it is left out, or an end of the run. -/
abbrev FileResult := Except SurveyError (Option (FileFindings × FileSummary))

namespace Survey

def readRoot : Value → Checked Path
  | .text t => .ok (Path.ofText t)
  | _ => Checked.refuse .notPath

def readErrorMode : Value → Checked ErrorMode
  | .text t =>
    if t = Text.ofString "raise" then .ok .raise
    else if t = Text.ofString "skip" then .ok .skip
    else Checked.refuse .notErrorMode
  | _ => Checked.refuse .notErrorMode

def readOptions (fields : Fields) : Checked (Path × ErrorMode) :=
  Checked.both (fields.required "root" readRoot) (fields.optional "on_error" (.ok .raise) readErrorMode)

/-- The result of a file that cannot be read: an end of the run, or nothing. -/
def giveUp (survey : Survey) (path : Path) (error : FileError) (state : RunState) : RunState × FileResult :=
  match survey.errorMode with
  | .raise => (state, .error (.file error))
  | .skip => (state.record (.unreadable path), .ok none)

def surveyTree (survey : Survey) (path : Path) (tree : SourceTree) (state : RunState) : RunState × FileResult :=
  match FileScan.scan survey.settings tree (FileLabel.ofTexts path.name path.toText) with
  | .error faults => (state, .error (.faults faults))
  | .ok findings =>
    (state.record (.scanned path.toText findings.callSites.length findings.dependencies.size
        findings.queries.length),
      .ok (some (findings, FileSummary.ofFindings survey.settings findings)))

/-- The tree of a file, or the result of a file that has none. -/
def parseFile (survey : Survey) (path : Path) (state : RunState) : RunState × Except FileResult SourceTree :=
  match survey.workspace.readSource path with
  | .error (.name fault) => (state, .error (.error (.file (.name fault))))
  | .error error =>
    let (state, result) := survey.giveUp path error state
    (state, .error result)
  | .ok source =>
    let reading := survey.grammar path source
    let state := if reading.cancels then { state with event := state.event.signal } else state
    match reading.failure with
    | some message =>
      let (state, result) := survey.giveUp path (.other message) state
      (state, .error result)
    | none =>
      (if reading.recovered then state.record .recoveredTree else state,
        .ok (SourceTree.ofSource (reading.tree.lower source) source))

/-- The findings and the summary of one file; none if the run is cancelled or the file is skipped. -/
def surveyFile (survey : Survey) (path : Path) (state : RunState) : RunState × FileResult :=
  if state.event = .set then (state, .ok none)
  else match survey.parseFile path state with
    | (state, .error result) => (state, result)
    | (state, .ok tree) => survey.surveyTree path tree state

end Survey

structure Gathered where
  index : CallIndex := {}
  files : List FileSummary := []
  cancelled : Bool := false

namespace Gathered

def add (gathered : Gathered) : Option (FileFindings × FileSummary) → Gathered
  | none => gathered
  | some (findings, summary) =>
    { gathered with
      index := gathered.index.mergeFindings findings
      files := gathered.files ++ [summary] }

/-- Takes the next result, and tells how the gathering ends if it does. A failure is seen before a cancellation. -/
def take (gathered : Gathered) (result : FileResult) (state : RunState) :
    RunState × Except (Except SurveyError Gathered) Gathered :=
  match result with
  | .error error => (state, .error (.error error))
  | .ok found =>
    if state.event = .set then
      (state.record (.cancelled gathered.files.length), .error (.ok { gathered with cancelled := true }))
    else (state, .ok (gathered.add found))

end Gathered
end SqlSurvey
