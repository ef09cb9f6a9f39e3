import SqlSurvey.FileTrees

/-! # Changed files

The files below the current directory that another state of the workspace does not have, or has with other
contents. A link that leads to a file counts as one; a link that leads to a directory is not entered. -/
namespace SqlSurvey

mutual
/-- The names that lead to the files and links listed in a directory and below. -/
def Entry.leavesIn (names : List Text) : List (Text × Entry) → List (List Text)
  | [] => []
  | entry :: entries => Entry.listedLeaves names entry ++ Entry.leavesIn names entries
termination_by structural entries => entries

def Entry.listedLeaves (names : List Text) : Text × Entry → List (List Text)
  | (name, entry) => Entry.leaves (names ++ [name]) entry
termination_by structural entry => entry

/-- The files and links at and below an entry. -/
def Entry.leaves (names : List Text) : Entry → List (List Text)
  | .file _ | .link _ => [names]
  | .directory entries => Entry.leavesIn names entries
termination_by structural entry => entry
end

namespace Workspace

def contents? (workspace : Workspace) (path : Path) : Option Bytes := (workspace.read path).toOption

/-- The new and changed files below the current directory, with paths from there. -/
def changes (before after : Workspace) : List (Path × Bytes) :=
  match after.top.at? after.current with
  | none => []
  | some entry =>
    (Entry.leaves [] entry).filterMap fun names =>
      let path : Path := ⟨.here, names⟩
      match after.contents? path with
      | none => none
      | some contents => if before.contents? path = some contents then none else some (path, contents)

end Workspace
end SqlSurvey
