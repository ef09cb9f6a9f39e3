import SqlSurvey.CommandRuns
import SqlSurvey.DirectorySnapshots
import SqlSurvey.FileChanges
import SqlSurvey.JsonReading

/-! # The program

The directory to survey comes as a snapshot, one line of JSON on standard input: the program has no grammar of
its own, and the snapshot brings the trees. What a command prints is printed, and the files that it writes are
written below the current directory. -/
namespace SqlSurvey

def writeChange (path : Path) (contents : Bytes) : IO Unit := do
  if !path.parent.parts.isEmpty then IO.FS.createDirAll (Text.toString path.parent.toText)
  IO.FS.writeBinFile (Text.toString path.toText) ⟨contents.toArray⟩

/-- The exit code of an ending, after its message is printed. -/
def conclude : Ending → IO UInt32
  | .misused => do
    IO.eprintln "Usage: query-scanner scan|rank [OPTIONS] [ROOT]"
    return 2
  | .exit code => return .ofNat code
  | .failure failure => do
    IO.eprintln (Text.toString failure.message)
    return 1

end SqlSurvey

open SqlSurvey in
def main (arguments : List String) : IO UInt32 := do
  let line ← (← IO.getStdin).getLine
  let some snapshot := (Json.parse (Text.ofString line)).bind DirectorySnapshot.read?
    | IO.eprintln "The snapshot of the directory cannot be read."
      return 2
  let environment : Environment :=
    ⟨(← IO.getEnv "QUERY_SCANNER_EXTENSION").map Text.ofString,
      (← IO.getEnv "QUERY_SCANNER_WORKERS").map Text.ofString⟩
  let current := Path.namesIn (Text.ofString (toString (← IO.currentDir)))
  let workspace := snapshot.workspace current
  let (ending, console) :=
    runCommandLine { environment, grammar := snapshot.grammar } workspace (arguments.map Text.ofString)
  IO.print (Text.toString console.output)
  IO.eprint (Text.toString console.errors)
  for (path, contents) in workspace.changes console.workspace do
    writeChange path contents
  conclude ending
