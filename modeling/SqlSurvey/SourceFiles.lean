import SqlSurvey.FileTrees
import SqlSurvey.TextSets

/-! # Source files of a directory

The files below a directory whose names end as asked. Directories are entered unless their names are excluded;
a link to a directory is not entered, and a link to a file counts as a file. -/
namespace SqlSurvey

inductive CollectError where
  | missing (root : Path)
  | notDirectory (root : Path)
  | file (error : FileError)
deriving DecidableEq

namespace CollectError

def message : CollectError → Text
  | missing root => Text.ofString "Root path does not exist: " ++ root.toText
  | notDirectory root => Text.ofString "Root path must be a directory: " ++ root.toText
  | file error => error.message

end CollectError

/-- Paths of a directory: of what it lists itself, and of what lies in the directories it lists. -/
structure ListedPaths where
  own : List Path := []
  below : List Path := []

namespace ListedPaths

def append (paths more : ListedPaths) : ListedPaths := ⟨paths.own ++ more.own, paths.below ++ more.below⟩

/-- What is listed in a directory comes before what lies deeper. -/
def toList (paths : ListedPaths) : List Path := paths.own ++ paths.below

end ListedPaths

mutual
/-- The paths of the files and links among the entries of a directory and below it, as far as it is entered. -/
def Entry.pathsIn (enter : Path → Bool) (directory : Path) : List (Text × Entry) → ListedPaths
  | [] => {}
  | entry :: entries => (Entry.listedPaths enter directory entry).append (Entry.pathsIn enter directory entries)
termination_by structural entries => entries

def Entry.listedPaths (enter : Path → Bool) (directory : Path) : Text × Entry → ListedPaths
  | (name, entry) => Entry.pathsAt enter (directory.child name) entry
termination_by structural entry => entry

/-- The paths of an entry at a path; a directory gives those below it if it is entered. -/
def Entry.pathsAt (enter : Path → Bool) (path : Path) : Entry → ListedPaths
  | .directory entries => if enter path then { below := (Entry.pathsIn enter path entries).toList } else {}
  | .file _ | .link _ => { own := [path] }
termination_by structural entry => entry
end

namespace Workspace

/-- Whether the name of a file ends as asked, in any case. -/
def hasExtension (extension : Text) (path : Path) : Bool :=
  (Text.toLower extension).isSuffixOf (Text.toLower path.name)

/-- Whether a directory is entered: its name is not excluded, and it can be reached. -/
def enters (workspace : Workspace) (excluded : TextSet) (path : Path) : Bool :=
  !excluded.contains path.name && (workspace.entryAt path).toBool

/-- The paths below a directory whose names end as asked, before it is known which of them are files. -/
def candidates (workspace : Workspace) (root : Path) (extension : Text) (excluded : TextSet)
    (entries : List (Text × Entry)) : List Path :=
  (Entry.pathsIn (workspace.enters excluded) root entries).toList.filter (hasExtension extension)

def collect (workspace : Workspace) (root : Path) (extension : Text) (excluded : TextSet) :
    Except CollectError (List Path) :=
  match workspace.entryAt? root with
  | .error error => .error (.file error)
  | .ok none => .error (.missing root)
  | .ok (some (.directory entries)) => do
    let files ← ((workspace.candidates root extension excluded entries).filterM workspace.isFile).mapError .file
    return files.mergeSort Path.le
  | .ok (some _) => .error (.notDirectory root)

/-- The mark that some editors write in front of UTF-8. -/
def byteOrderMark : Bytes := [0xEF, 0xBB, 0xBF]

def unmarked (contents : Bytes) : Bytes :=
  if byteOrderMark.isPrefixOf contents then contents.drop 3 else contents

def readSource (workspace : Workspace) (path : Path) : Except FileError Bytes :=
  (workspace.read path).map unmarked

end Workspace
end SqlSurvey
