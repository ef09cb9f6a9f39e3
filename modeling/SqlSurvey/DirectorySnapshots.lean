import SqlSurvey.DigitTexts
import SqlSurvey.SurveyRuns

/-! # Snapshots of directories

A snapshot gives a directory as data: its directories, links and files in the order in which they are made, and
with each file the concrete tree that the grammar has for its contents. A file may be marked as one whose
reading fails or at which the survey is cancelled. -/
namespace SqlSurvey

mutual
/-- Reads a concrete tree: a list of kind, start, end, whether it is named, field, and children. -/
def Concrete.ofValue? : Value → Option Concrete
  | .list [.text kind, .int start, .int stop, .int named, field, .list children] => do
    let children ← Concrete.ofValues? children
    match field with
    | .text name => return .node kind start stop (named != 0) (some name) children
    | .null => return .node kind start stop (named != 0) none children
    | _ => none
  | _ => none
termination_by structural value => value

def Concrete.ofValues? : List Value → Option (List Concrete)
  | [] => some []
  | value :: values => return (← Concrete.ofValue? value) :: (← Concrete.ofValues? values)
termination_by structural values => values
end

def Bytes.ofHex : Text → Bytes
  | a :: b :: rest => .ofNat (Text.hexNumber [a, b]) :: Bytes.ofHex rest
  | _ => []

/-- The bytes of a source, which is given by its text or by its bytes. -/
def Value.source? (value : Value) : Option Bytes :=
  match value.field? "hex", value.field? "source" with
  | some (.text digits), _ => some (Bytes.ofHex digits)
  | _, some (.text written) => (Utf8.encode written).toOption
  | _, _ => none

/-- What a snapshot makes at a path. A file of which nothing is said but its contents has no reading. -/
inductive SnapshotEntry where
  | directory
  | link (target : Text)
  | file (contents : Bytes) (reading : Option Reading)

structure DirectorySnapshot where
  entries : List (Path × SnapshotEntry)

namespace DirectorySnapshot

def unknown : Concrete := .node "compilation_unit" 0 0 true none []

private def flag (value : Value) (name : Text) : Bool :=
  match value.field? name with
  | some (.bool b) => b
  | _ => false

def readReading (value : Value) : Option Reading :=
  let tree := (value.field? "cst").bind Concrete.ofValue?
  let cancels := flag value "cancel"
  let fails := flag value "fail"
  if tree.isNone && !cancels && !fails then none
  else some {
    cancels
    failure := if fails then some "disk went away" else none
    recovered := flag value "has_error"
    tree := tree.getD unknown }

def readEntry (value : Value) : Option (Path × SnapshotEntry) :=
  match value.field? "path" with
  | some (.text path) =>
    let path := Path.ofText path
    if flag value "dir" then some (path, .directory)
    else match value.field? "symlink" with
      | some (.text target) => some (path, .link target)
      | _ => some (path, .file (value.source?.getD []) (readReading value))
  | _ => none

def read? : Value → Option DirectorySnapshot
  | .list values => (values.mapM readEntry).map DirectorySnapshot.mk
  | _ => none

/-- Makes an entry, with the directories above it; nothing changes where that is not possible. -/
def place (workspace : Workspace) : Path × SnapshotEntry → Workspace
  | (path, .directory) => (workspace.makeDirectories path).1
  | (path, .link target) =>
    let workspace := (workspace.makeDirectories path.parent).1
    match workspace.find .inspect path with
    | .ok (.absent directory name) => workspace.put (directory ++ [name]) (.link target)
    | _ => workspace
  | (path, .file contents _) =>
    let workspace := (workspace.makeDirectories path.parent).1
    match workspace.openForWriting path with
    | .ok (workspace, location) => workspace.put location (.file contents)
    | .error _ => workspace

/-- The workspace whose current directory has the given names and holds the snapshot. -/
def workspace (snapshot : DirectorySnapshot) (current : List Text) : Workspace :=
  let empty : Workspace := ⟨.directory [], current⟩
  snapshot.entries.foldl place (empty.makeDirectories ⟨.slash, current⟩).1

def grammar (snapshot : DirectorySnapshot) : Grammar :=
  let readings := snapshot.entries.filterMap fun
    | (_, .file contents (some reading)) => some (Workspace.unmarked contents, reading)
    | _ => none
  fun _ contents => (readings.lookup contents).getD { tree := unknown }

end DirectorySnapshot
end SqlSurvey
