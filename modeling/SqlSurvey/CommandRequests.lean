import SqlSurvey.CommandArguments
import SqlSurvey.PathResolution
import SqlSurvey.SurveySettings

/-! # What a command line asks for

Arguments become a request when their values are read: numbers must be positive, the root must not be a file
and the output must not be a directory. Options are read in the order in which they are first given, then the
operands. -/
namespace SqlSurvey

structure CommandRequest where
  command : Command
  root : Path
  extension : Option Text := none
  workers : Option Nat := none
  excluded : List Text := []
  top : Nat := Settings.defaultGlobalTopCalls
  output : Option Path := none
  logLevel : Text := Text.ofString "WARNING"

namespace CommandRequest

/-- The numbers of options as they are usually spelled, like those of settings. -/
def readPositive? (text : Text) : Option Nat :=
  match Text.integer text with
  | .ok n => if 1 ≤ n then some n.toNat else none
  | .error _ => none

/-- The absolute path that a text leads to. An entry there must satisfy the predicate, and a text that no path has
is refused. -/
def readPath? (workspace : Workspace) (accept : Entry → Bool) (text : Text) : Option Path :=
  match workspace.canonical (Path.ofText text) with
  | .error _ => none
  | .ok path =>
    match workspace.entryAt path with
    | .ok entry => if accept entry then some path else none
    | .error (.name _) => none
    | .error _ => some path

/-- A report is not written over a directory. -/
def readOutput? (workspace : Workspace) (text : Text) : Option Path :=
  readPath? workspace (fun
    | .directory _ => false
    | _ => true) text

/-- The root is the only operand, and the current directory where there is none; it is not a file. -/
def readRoot? (workspace : Workspace) (operands : List Text) : Option Path :=
  if operands.length > 1 then none
  else readPath? workspace (fun
    | .file _ => false
    | _ => true) (operands.headD Path.point)

/-- Reads the values of one option into a request. Which texts are numbers is left to the reader of numbers. -/
def withOption? (number? : Text → Option Nat) (workspace : Workspace) (arguments : CommandArguments)
    (request : CommandRequest) (option : CommandOption) : Option CommandRequest :=
  let value := arguments.lastValue option
  match option with
  | .extension => some { request with extension := some value }
  | .workers => (number? value).map fun n => { request with workers := some n }
  | .excludedDirectory => some { request with excluded := arguments.values option }
  | .top => (number? value).map fun n => { request with top := n }
  | .output => (readOutput? workspace value).map fun path => { request with output := some path }
  | .logLevel => some { request with logLevel := value }

def read? (number? : Text → Option Nat) (workspace : Workspace) (command : Command) (arguments : CommandArguments) :
    Option CommandRequest := do
  let request ← arguments.given.foldlM (withOption? number? workspace arguments) { command, root := Path.ofText [] }
  return { request with root := ← readRoot? workspace arguments.operands }

def fields (request : CommandRequest) : Fields :=
  [(Text.ofString "global_top_calls", Value.int request.top)] ++
  (request.extension.toList.map fun extension => (Text.ofString "file_extension", .text extension)) ++
  (request.workers.toList.map fun workers => (Text.ofString "workers", .int workers)) ++
  if request.excluded.isEmpty then []
  else [(Text.ofString "exclude_dir_names", .list (request.excluded.map .text))]

end CommandRequest
end SqlSurvey
