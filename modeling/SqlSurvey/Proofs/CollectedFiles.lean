import SqlSurvey.Proofs.CodePointOrder
import SqlSurvey.Proofs.ListedLookups
import SqlSurvey.Proofs.RelistedTrees
import SqlSurvey.Proofs.SearchEndings

/-! # Which files are collected

Below a directory the search meets the files and links that stand behind real directories, none of them excluded, under
names that end as asked. It collects those that are files or lead to one, each once and in order, whatever the order of
the listings. Only a path or a name that is too long keeps it from an answer. -/
namespace SqlSurvey

namespace Workspace

def FindsFile (workspace : Workspace) (path : Path) : Prop :=
  ∃ location contents, workspace.Finds path location ∧ workspace.occupantAt location = .file contents

theorem FindsFile.fits {workspace : Workspace} {path : Path} (h : workspace.FindsFile path) : path.Fits := by
  obtain ⟨location, contents, finds, -⟩ := h
  exact finds.fits

/-- The path and the location of a file or link that the search meets below the directory to which the root leads. -/
inductive Meets (workspace : Workspace) (root : Path) (base : List Text) (extension : Text) (excluded : TextSet) :
    Path → List Text → Prop
  | intro {directories : List Text} {name : Text}
      (real : ∀ opened, opened <+: directories → workspace.occupantAt (base ++ opened) = .directory)
      (kept : ∀ directory ∈ directories, directory ∉ excluded)
      (ending : Text.toLower extension <:+ Text.toLower name)
      (stands : workspace.occupantAt (base ++ directories ++ [name]) ≠ .nothing)
      (plain : workspace.occupantAt (base ++ directories ++ [name]) ≠ .directory) :
      Meets workspace root base extension excluded (root.under (directories ++ [name])) (base ++ directories ++ [name])

/-- The search cannot tell whether the path of what it meets leads to a file. -/
structure Stops (workspace : Workspace) (root : Path) (base : List Text) (extension : Text) (excluded : TextSet)
    (path : Path) : Prop where
  meets : ∃ location, workspace.Meets root base extension excluded path location
  above : path.parent.Fits
  refuses : workspace.Refuses path

/-- The files are those that the search meets or that the links lead to, in strict order of their names. -/
structure Collected (workspace : Workspace) (root : Path) (base : List Text) (extension : Text) (excluded : TextSet)
    (files : List Path) : Prop where
  mem_iff : ∀ path, path ∈ files ↔ ∃ location, workspace.Meets root base extension excluded path location ∧
    ((∃ contents, workspace.occupantAt location = .file contents) ∧ path.Fits ∨
      (∃ target, workspace.occupantAt location = .link target) ∧ workspace.FindsFile path)
  ordered : files.Pairwise fun first second => Path.NamesBefore first.parts second.parts

/-- How a search ends: its root is missing or no directory, it stops at what is too long, or it has files. -/
structure Collects (workspace : Workspace) (root : Path) (extension : Text) (excluded : TextSet)
    (outcome : Except CollectError (List Path)) : Prop where
  missing_iff : outcome = .error (.missing root) ↔
    ¬ workspace.Refuses root ∧ ∀ location, ¬ workspace.Finds root location
  notDirectory_iff : outcome = .error (.notDirectory root) ↔
    ∃ location, workspace.Finds root location ∧ workspace.occupantAt location ≠ .directory
  ok_iff : (∃ files, outcome = .ok files) ↔ ∃ base, workspace.Finds root base ∧
    workspace.occupantAt base = .directory ∧ ∀ path, ¬ workspace.Stops root base extension excluded path
  files : ∀ files, outcome = .ok files → ∀ base, workspace.Finds root base →
    workspace.Collected root base extension excluded files
  errors : ∀ error, outcome = .error error → error = .missing root ∨ error = .notDirectory root ∨
    ∃ path, error = .file (.system .nameTooLong path.toText) ∧ workspace.Refuses path ∧
      (path = root ∨ ∃ base, workspace.Finds root base ∧ workspace.Stops root base extension excluded path)

variable {workspace : Workspace} {root path : Path} {base location : List Text} {extension : Text} {excluded : TextSet}
  {entries : List (Text × Entry)} {files : List Path}

theorem Finds.unique {other : List Text} (h : workspace.Finds path location) (k : workspace.Finds path other) :
    location = other := by
  obtain ⟨entry, stands⟩ := h.arrives.stands
  obtain ⟨entry', stands'⟩ := k.arrives.stands
  cases (find_reach_eq_ok_iff.2 ⟨h, stands⟩).symm.trans (find_reach_eq_ok_iff.2 ⟨k, stands'⟩)
  rfl

theorem Finds.not_refuses (finds : workspace.Finds path location) : ¬ workspace.Refuses path :=
  fun refuses => finds.arrives.not_stalls (refuses.long finds.fits)

section Below

variable (proper : workspace.top.Proper) (finds : workspace.Finds root base)
  (listed : workspace.top.at? base = some (.directory entries))
include proper finds listed

end Below

section Directory

variable (finds : workspace.Finds root base) (inside : workspace.occupantAt base = .directory)
include finds inside

end Directory

/-- Which files are collected determines their list. -/
theorem Collected.unique {others : List Path} (h : workspace.Collected root base extension excluded files)
    (k : workspace.Collected root base extension excluded others) : files = others := by
  have members : files.Perm others := by
    rw [List.perm_ext_iff_of_nodup (Path.nodup_of_pairwise h.ordered) (Path.nodup_of_pairwise k.ordered)]
    intro path
    rw [h.mem_iff, k.mem_iff]
  exact eq_of_pairwise_strict members h.ordered k.ordered fun _ _ => Path.NamesBefore.asymm

/-- A search has one outcome, up to where it stops. -/
theorem Collects.unique {outcome other : Except CollectError (List Path)}
    (h : workspace.Collects root extension excluded outcome) (k : workspace.Collects root extension excluded other) :
    other = outcome ∨ (∃ error, outcome = .error (.file error)) ∧ ∃ error, other = .error (.file error) := by
  cases outcome with
  | ok files =>
    obtain ⟨base, finds, free⟩ := h.ok_iff.1 ⟨files, rfl⟩
    obtain ⟨files', rfl⟩ := k.ok_iff.2 ⟨base, finds, free⟩
    exact .inl (congrArg Except.ok ((k.files _ rfl base finds).unique (h.files _ rfl base finds)))
  | error error =>
    rcases h.errors error rfl with rfl | rfl | ⟨path, rfl, -⟩
    · exact .inl (k.missing_iff.2 (h.missing_iff.1 rfl))
    · exact .inl (k.notDirectory_iff.2 (h.notDirectory_iff.1 rfl))
    · refine .inr ⟨⟨_, rfl⟩, ?_⟩
      cases other with
      | ok files =>
        obtain ⟨files', ended⟩ := h.ok_iff.2 (k.ok_iff.1 ⟨files, rfl⟩)
        cases ended
      | error error =>
        rcases k.errors error rfl with rfl | rfl | ⟨path', rfl, -⟩
        · cases h.missing_iff.2 (k.missing_iff.1 rfl)
        · cases h.notDirectory_iff.2 (k.notDirectory_iff.1 rfl)
        · exact ⟨_, rfl⟩

section SameStanding

variable {other : Workspace} (same : ∀ location, other.occupantAt location = workspace.occupantAt location)
  (current : other.current = workspace.current)
include same

private theorem Meets.of_same (meets : workspace.Meets root base extension excluded path location) :
    other.Meets root base extension excluded path location := by
  cases meets with
  | intro real kept ending stands plain =>
    refine .intro ?_ kept ending (by rwa [same]) (by rwa [same])
    intro opened before
    rw [same, real opened before]

private theorem meets_of_same : other.Meets root base extension excluded =
    workspace.Meets root base extension excluded := by
  funext path location
  apply propext
  constructor
  · exact Meets.of_same fun location => (same location).symm
  · exact Meets.of_same same

include current

/-- Two workspaces with the same occupants allow the same endings of a search. -/
theorem Collects.of_same {outcome : Except CollectError (List Path)}
    (h : other.Collects root extension excluded outcome) : workspace.Collects root extension excluded outcome := by
  have stops : ∀ base path, workspace.Stops root base extension excluded path ↔
      other.Stops root base extension excluded path := by
    intro base path
    constructor
    · rintro ⟨meets, above, refuses⟩
      exact ⟨by rwa [meets_of_same same], above, by rwa [refuses_of_same same current]⟩
    · rintro ⟨meets, above, refuses⟩
      exact ⟨by rwa [meets_of_same same] at meets, above, by rwa [refuses_of_same same current] at refuses⟩
  have files : ∀ path, workspace.FindsFile path ↔ other.FindsFile path := by
    intro path
    simp only [FindsFile, finds_of_same same current, same]
  obtain ⟨missing_iff, notDirectory_iff, ok_iff, collected, errors⟩ := h
  rw [finds_of_same same current] at missing_iff notDirectory_iff ok_iff collected errors
  rw [refuses_of_same same current] at missing_iff errors
  simp only [same, ← stops] at notDirectory_iff ok_iff errors
  refine ⟨missing_iff, notDirectory_iff, ok_iff, ?_, errors⟩
  intro listed ended base finds
  obtain ⟨mem_iff, ordered⟩ := collected listed ended base finds
  simp only [meets_of_same same, same, ← files] at mem_iff
  exact ⟨mem_iff, ordered⟩

end SameStanding

/-- A name that begins with a byte of no character. -/
def sampleEscape : Text := .surrogate 0x4FF :: ".cs"

def sampleFiles : List Path :=
  [⟨.slash, ["bin", "a", "bin.cs"]⟩, ⟨.slash, ["bin", "a", "w.cs"]⟩, ⟨.slash, ["bin", "y.CS"]⟩,
    ⟨.slash, ["bin", "z.cs"]⟩, ⟨.slash, ["bin", sampleEscape]⟩]

def longRoot : Path := ⟨.here, [List.replicate 256 (.char 'n')]⟩

set_option maxRecDepth 4096 in
/-- A root under a name that is too long leads nowhere in any tree, but it is not said to be missing. -/
theorem longRoot_is_not_missing (workspace : Workspace) (extension : Text) (excluded : TextSet) :
    (∀ location, ¬ workspace.Finds longRoot location) ∧
      workspace.collect longRoot extension excluded = .error (.file (.system .nameTooLong longRoot.toText)) := by
  have refuses : workspace.Refuses longRoot := by
    refine ⟨by decide, fun _ => .long ⟨by decide, by decide, by decide⟩ (by decide)⟩
  refine ⟨fun location finds => finds.not_refuses refuses, ?_⟩
  rw [collect, entryAt?_eq_nameTooLong_iff.2 refuses]

end Workspace
end SqlSurvey
