import SqlSurvey.FilePaths
import SqlSurvey.QuotedText

/-! # Trees of files

A tree of directories, files and links, with the look-up that follows links. A directory lists its entries
in any order. -/
namespace SqlSurvey

inductive Entry where
  | file (contents : Bytes)
  | link (target : Text)
  | directory (entries : List (Text × Entry))

namespace Entry

instance : Inhabited Entry := ⟨.directory []⟩

def child? (name : Text) : Entry → Option Entry
  | .directory entries => entries.lookup name
  | _ => none

def at? : List Text → Entry → Option Entry
  | [], entry => some entry
  | name :: names, entry => (entry.child? name).bind (at? names)

/-- The listing with another entry under a name, in its place or at the end. -/
def putIn (name : Text) (entry : Entry) : List (Text × Entry) → List (Text × Entry)
  | [] => [(name, entry)]
  | (other, old) :: entries =>
    if other = name then (name, entry) :: entries else (other, old) :: putIn name entry entries

/-- The tree with another entry behind the given names; nothing changes where a directory is missing. -/
def put (entry : Entry) : List Text → Entry → Entry
  | [], _ => entry
  | name :: names, .directory entries =>
    match names, entries.lookup name with
    | [], _ => .directory (putIn name entry entries)
    | names, some below => .directory (putIn name (put entry names below) entries)
    | _, none => .directory entries
  | _, old => old

end Entry

inductive FileCause where
  | notFound
  | exists
  | notDirectory
  | isDirectory
  | nameTooLong
  | tooManyLinks
deriving DecidableEq

/-- A failure of the file system at a path, a name that it cannot take, or a failure of another kind. -/
inductive FileError where
  | system (cause : FileCause) (path : Text)
  | name (fault : NameFault)
  | other (message : Text)
deriving DecidableEq

namespace FileCause

def number : FileCause → Nat
  | notFound => 2
  | .exists => 17
  | notDirectory => 20
  | isDirectory => 21
  | nameTooLong => 36
  | tooManyLinks => 40

def wording : FileCause → String
  | notFound => "No such file or directory"
  | .exists => "File exists"
  | notDirectory => "Not a directory"
  | isDirectory => "Is a directory"
  | nameTooLong => "File name too long"
  | tooManyLinks => "Too many levels of symbolic links"

/-- Whether the cause of a failed look-up only says that nothing is there. -/
def saysAbsent : FileCause → Bool
  | notFound | notDirectory | tooManyLinks => true
  | .exists | isDirectory | nameTooLong => false

end FileCause

def FileError.message : FileError → Text
  | .system cause path =>
    Text.ofString "[Errno " ++ Text.ofNat cause.number ++ Text.ofString "] " ++ Text.ofString cause.wording ++
      Text.ofString ": " ++ Text.quoted path
  | .name fault => fault.message
  | .other message => message

/-- A tree of files with the directory from which relative paths start, given by its names from the top. -/
structure Workspace where
  top : Entry
  current : List Text

/-- What a look-up ends at: an entry and the names that lead to it without a link, or a name that the last
directory does not list. -/
inductive Found where
  | entry (location : List Text) (entry : Entry)
  | absent (directory : List Text) (name : Text)

/-- What a look-up is for: the entry that a path names, the one it leads to when a link at its end is followed
too, or a file there that is to be written. -/
inductive Purpose where
  | inspect
  | reach
  | write
deriving DecidableEq

namespace Workspace

def maxLinks : Nat := 40

def maxNameSize : Nat := 255

def maxPathSize : Nat := 4095

/-- Follows steps from a directory, up to a link that is followed, where `jump` goes on. A link is followed if more
steps come after it or if the purpose asks for it. An empty step and a single point stay where they are, but what they
stand behind has to be a directory. A file is not written under a name that a slash ends. -/
def followSteps (workspace : Workspace) (purpose : Purpose)
    (jump : List Text → List Text → Except FileCause Found) (directory : List Text) :
    List Text → Except FileCause Found
  | [] =>
    match workspace.top.at? directory with
    | some entry => .ok (.entry directory entry)
    | none => .error .notFound
  | name :: rest =>
    if name.isEmpty || name = Path.point then followSteps workspace purpose jump directory rest
    else if name = Path.twoPoints then followSteps workspace purpose jump directory.dropLast rest
    else if purpose = .write ∧ rest = [[]] then .error .isDirectory
    else if maxNameSize < name.bytesInName then .error .nameTooLong
    else match (workspace.top.at? directory).bind (Entry.child? name) with
      | none => if rest = [] then .ok (.absent directory name) else .error .notFound
      | some (.directory _) => followSteps workspace purpose jump (directory ++ [name]) rest
      | some (.file contents) =>
        if rest = [] then .ok (.entry (directory ++ [name]) (.file contents)) else .error .notDirectory
      | some (.link target) =>
        if rest = [] ∧ purpose = .inspect then .ok (.entry (directory ++ [name]) (.link target))
        else jump (if Path.rootOf target = .here then directory else []) (Path.stepsIn target ++ rest)

/-- Follows steps from a directory, with no more than the given number of links. -/
def follow (workspace : Workspace) (purpose : Purpose) : Nat → List Text → List Text → Except FileCause Found
  | 0 => workspace.followSteps purpose fun _ _ => .error .tooManyLinks
  | links + 1 => workspace.followSteps purpose (follow workspace purpose links)

def find (workspace : Workspace) (purpose : Purpose) (path : Path) : Except FileError Found :=
  match path.fault? with
  | some fault => .error (.name fault)
  | none =>
    if maxPathSize < path.toText.bytesInName then .error (.system .nameTooLong path.toText)
    else
      let start := if path.root = .here then workspace.current else []
      match workspace.follow purpose maxLinks start path.steps with
      | .ok found => .ok found
      | .error cause => .error (.system cause path.toText)

def entryAt (workspace : Workspace) (path : Path) : Except FileError Entry := do
  match ← workspace.find .reach path with
  | .entry _ entry => return entry
  | .absent _ _ => throw (.system .notFound path.toText)

/-- The entry at a path if there is one. That a path leads nowhere is no failure, and neither is a name that no
entry can have. -/
def entryAt? (workspace : Workspace) (path : Path) : Except FileError (Option Entry) :=
  match workspace.entryAt path with
  | .ok entry => .ok (some entry)
  | .error (.name _) => .ok none
  | .error (.system cause place) => if cause.saysAbsent then .ok none else .error (.system cause place)
  | .error error => .error error

def has (workspace : Workspace) (path : Path) : Except FileError Bool :=
  (workspace.entryAt? path).map Option.isSome

def isDirectory (workspace : Workspace) (path : Path) : Except FileError Bool :=
  (workspace.entryAt? path).map fun
    | some (.directory _) => true
    | _ => false

def isFile (workspace : Workspace) (path : Path) : Except FileError Bool :=
  (workspace.entryAt? path).map fun
    | some (.file _) => true
    | _ => false

def read (workspace : Workspace) (path : Path) : Except FileError Bytes := do
  match ← workspace.entryAt path with
  | .file contents => return contents
  | _ => throw (.system .isDirectory path.toText)

def put (workspace : Workspace) (location : List Text) (entry : Entry) : Workspace :=
  { workspace with top := Entry.put entry location workspace.top }

def makeDirectory (workspace : Workspace) (path : Path) : Except FileError Workspace := do
  match ← workspace.find .inspect path with
  | .entry _ _ => throw (.system .exists path.toText)
  | .absent directory name => return workspace.put (directory ++ [name]) (.directory [])

/-- A failure to make a directory does not matter where there is one. -/
def orIsDirectory (workspace : Workspace) (path : Path) (error : FileError) :
    Workspace × Except FileError Unit :=
  (workspace, do if ← workspace.isDirectory path then return else throw error)

/-- Makes the last `count` directories of a path as far as they are missing. -/
def makeDirectoriesUpTo (workspace : Workspace) (path : Path) : Nat → Workspace × Except FileError Unit
  | 0 =>
    match workspace.makeDirectory path with
    | .ok made => (made, .ok ())
    | .error error => workspace.orIsDirectory path error
  | count + 1 =>
    match workspace.makeDirectory path with
    | .ok made => (made, .ok ())
    | .error (.system .notFound _) =>
      match workspace.makeDirectoriesUpTo path.parent count with
      | (workspace, .error error) => (workspace, .error error)
      | (workspace, .ok ()) =>
        match workspace.makeDirectory path with
        | .ok made => (made, .ok ())
        | .error error => workspace.orIsDirectory path error
    | .error error => workspace.orIsDirectory path error

def makeDirectories (workspace : Workspace) (path : Path) : Workspace × Except FileError Unit :=
  workspace.makeDirectoriesUpTo path path.parts.length

/-- Opens a file to be written from its beginning: it is there, empty, and its location is known. -/
def openForWriting (workspace : Workspace) (path : Path) : Except FileError (Workspace × List Text) := do
  match ← workspace.find .write path with
  | .entry location (.file _) => return (workspace.put location (.file []), location)
  | .entry _ _ => throw (.system .isDirectory path.toText)
  | .absent directory name =>
    let location := directory ++ [name]
    return (workspace.put location (.file []), location)

end Workspace
end SqlSurvey
