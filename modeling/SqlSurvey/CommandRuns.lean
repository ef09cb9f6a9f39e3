import SqlSurvey.CommandRequests
import SqlSurvey.ReportFiles
import SqlSurvey.ReportListings
import SqlSurvey.SurveyRuns
import SqlSurvey.TerminalText

/-! # Runs of the command line

What a command line prints, logs and writes, and how it ends. What was printed before an early end stays
printed. -/
namespace SqlSurvey

/-- What a command depends on besides its arguments and the files: the environment, the grammar, the order in which
workers come to their work, and which texts are numbers of options. -/
structure Host where
  environment : Environment := {}
  grammar : Grammar
  schedule : Schedule := []
  number? : Text → Option Nat := CommandRequest.readPositive?

inductive CommandFailure where
  | unknownLevel (name : Text)
  | path (error : FileError)
  | survey (error : SurveyError)
  | report (error : WriteError)
  | display (run : Utf8.SurrogateRun)

def CommandFailure.message : CommandFailure → Text
  | unknownLevel name => Text.ofString "Unknown level: " ++ Text.quoted name
  | path error => error.message
  | survey error => error.message
  | report error => error.message
  | display run => run.message

inductive Ending where
  | misused
  | exit (code : Nat)
  | failure (failure : CommandFailure)

structure Console where
  output : Text := []
  errors : Text := []
  workspace : Workspace

abbrev Session := EStateM Ending Console

namespace Session

def say (messages : List Text) : Session Unit := do
  let (text, run) := Terminal.shown messages
  modify fun console => { console with output := console.output ++ text }
  match run with
  | some run => throw (.failure (.display run))
  | none => return

def giveUp {α : Type} (code : Nat) (message : Text) : Session α := do
  modify fun console => { console with errors := console.errors ++ Terminal.line message }
  throw (.exit code)

/-- Logs the events that reach the threshold. -/
def log (threshold : Nat) (events : List LogEvent) : Session Unit :=
  modify fun console =>
    { console with
      errors := console.errors ++
        (events.filter fun event => threshold ≤ event.level.weight).flatMap LogEvent.line }

end Session

/-- A text of more than fifty bytes is shown by its first 25 and its last 24, less what would cut a character. -/
def Text.abridged (text : Text) : Text :=
  let size := Utf8.size text
  if 50 < size then Utf8.takeSize 25 text ++ Text.ofString "..." ++ Utf8.dropSize (size - 24) text else text

/-- What is said of refused settings. A request has values of the right kind, so only the number of workers in
the environment can be refused. -/
def settingsRefusal (environment : Environment) (faults : List Fault) : Text :=
  Text.ofString "Invalid configuration: " ++ Text.ofNat faults.length ++
    Text.ofString " validation error for ScannerConfig" ++
  faults.flatMap fun fault =>
    let code := Text.ofString fault.cause.code
    Text.ofString "\nworkers\n  " ++ fault.cause.message ++ Text.ofString " [type=" ++ code ++
      Text.ofString ", input_value=" ++
      Text.abridged (Text.quoted (Settings.environmentWorkers environment)) ++
      Text.ofString ", input_type=str]\n    For further information visit " ++
      Text.ofString "https://errors.pydantic.dev/2.14/v/" ++ code

namespace CommandRequest

def threshold (request : CommandRequest) : Session Nat :=
  let name := Text.toUpper request.logLevel
  match LogLevel.threshold? name with
  | some threshold => return threshold
  | none => throw (.failure (.unknownLevel name))

def checkRoot (request : CommandRequest) : Session Unit := do
  match (← get).workspace.isDirectory request.root with
  | .ok true => return
  | .ok false => Session.giveUp 1 (Text.ofString "Directory does not exist: " ++ request.root.toText)
  | .error error => throw (.failure (.path error))

def settings (request : CommandRequest) (host : Host) : Session Settings :=
  match Settings.read host.environment request.fields with
  | .ok settings => return settings
  | .error faults => Session.giveUp 2 (settingsRefusal host.environment faults)

def survey (request : CommandRequest) (host : Host) (settings : Settings) (threshold : Nat) :
    Session SurveyReport := do
  let (state, result) := surveyDirectory (← get).workspace host.grammar host.schedule request.root (.ok settings) {}
  Session.log threshold state.log
  match result with
  | .ok report => return report
  | .error error => throw (.failure (.survey error))

def writeReport (report : SurveyReport) (threshold : Nat) (path : Path) : Session Unit := do
  match ReportFormat.ofPath? path with
  | none => Session.giveUp 2 (ReportFormat.unsupported path)
  | some format =>
    let written := ReportWriter.write { format } report path (← get).workspace
    modify fun console => { console with workspace := written.workspace }
    Session.log threshold written.log
    match written.error with
    | some error => throw (.failure (.report error))
    | none => Session.say [Text.ofString "Report written to " ++ path.toText]

def heading (request : CommandRequest) : List Text :=
  [Text.ofString "=== Query Scanner ===", Text.ofString "Analyzing directory: " ++ request.root.toText]

def perform (request : CommandRequest) (host : Host) : Session Unit := do
  let threshold ← request.threshold
  request.checkRoot
  let settings ← request.settings host
  match request.command with
  | .scan =>
    Session.say request.heading
    let report ← request.survey host settings threshold
    Session.say (report.filesListing ++ report.rankingListing)
    if let some path := request.output then writeReport report threshold path
    Session.say [Text.ofString "\n\nAnalysis complete!"]
  | .rank =>
    let report ← request.survey host settings threshold
    Session.say (report.rankingListing ++ [report.totals])

end CommandRequest

def commandLine (host : Host) (arguments : List Text) : Session Unit := do
  match CommandArguments.readLine? arguments with
  | none => throw .misused
  | some (command, read) =>
    match CommandRequest.read? host.number? (← get).workspace command read with
    | none => throw .misused
    | some request => request.perform host

def runCommandLine (host : Host) (workspace : Workspace) (arguments : List Text) : Ending × Console :=
  match commandLine host arguments { workspace } with
  | .ok () console => (.exit 0, console)
  | .error ending console => (ending, console)

end SqlSurvey
