import SqlSurvey.Proofs.FileFrames

/-! # Where a path leads

A look-up under way stands in a directory, with steps to go and links that it may still follow. It moves on by one step
at a time, and it comes to the location of an entry, to a name that is too long, or to nothing. These are the answers
that are given about the entry at a path. -/
namespace SqlSurvey

namespace Entry

theorem occupant_some_ne_nothing (entry : Entry) : occupant (some entry) ≠ .nothing := by
  cases entry <;> simp [occupant]

end Entry

/-- A look-up under way: the links that it may still follow, the directory it stands in and the steps to go. -/
structure Lookup where
  links : Nat
  directory : List Text
  steps : List Text

/-- A step that asks a directory for an entry. -/
structure Lookup.IsName (step : Text) : Prop where
  nonempty : step ≠ []
  not_point : step ≠ Path.point
  not_twoPoints : step ≠ Path.twoPoints

namespace Lookup.IsName

variable {name : Text}

theorem asked (asks : IsName name) : ¬ (name.isEmpty || name = Path.point) := by
  simp [asks.nonempty, asks.not_point]

theorem of_asked (asked : ¬ (name.isEmpty || name = Path.point)) (down : name ≠ Path.twoPoints) : IsName name := by
  simp only [Bool.or_eq_true, List.isEmpty_iff, decide_eq_true_eq, not_or] at asked
  exact ⟨asked.1, asked.2, down⟩

end Lookup.IsName

/-- The path is not too long to be looked up. -/
def Path.Fits (path : Path) : Prop := path.toText.bytesInName ≤ Workspace.maxPathSize

namespace Workspace

variable {workspace : Workspace} {links : Nat} {directory rest location : List Text} {name : Text} {path : Path}

/-- One step of a look-up. A link puts the steps of its target in its own place. -/
inductive Moves (workspace : Workspace) : Lookup → Lookup → Prop
  | stay {links : Nat} {directory rest : List Text} {step : Text} (idle : step = [] ∨ step = Path.point) :
      Moves workspace ⟨links, directory, step :: rest⟩ ⟨links, directory, rest⟩
  | up {links : Nat} {directory rest : List Text} :
      Moves workspace ⟨links, directory, Path.twoPoints :: rest⟩ ⟨links, directory.dropLast, rest⟩
  | enter {links : Nat} {directory rest : List Text} {name : Text} (asks : Lookup.IsName name)
      (short : name.bytesInName ≤ maxNameSize) (stands : workspace.occupantAt (directory ++ [name]) = .directory) :
      Moves workspace ⟨links, directory, name :: rest⟩ ⟨links, directory ++ [name], rest⟩
  | along {links : Nat} {directory rest : List Text} {name target : Text} (asks : Lookup.IsName name)
      (short : name.bytesInName ≤ maxNameSize) (stands : workspace.occupantAt (directory ++ [name]) = .link target) :
      Moves workspace ⟨links + 1, directory, name :: rest⟩
        ⟨links, if Path.rootOf target = .here then directory else [], Path.stepsIn target ++ rest⟩

/-- The look-up comes to the location of an entry. -/
inductive Arrives (workspace : Workspace) : Lookup → List Text → Prop
  | here {links : Nat} {directory : List Text} (stands : workspace.occupantAt directory ≠ .nothing) :
      Arrives workspace ⟨links, directory, []⟩ directory
  | file {links : Nat} {directory : List Text} {name : Text} {contents : Bytes} (asks : Lookup.IsName name)
      (short : name.bytesInName ≤ maxNameSize) (stands : workspace.occupantAt (directory ++ [name]) = .file contents) :
      Arrives workspace ⟨links, directory, [name]⟩ (directory ++ [name])
  | move {lookup next : Lookup} {location : List Text} (moves : Moves workspace lookup next)
      (arrives : Arrives workspace next location) : Arrives workspace lookup location

/-- The look-up comes to a name that no entry can have because it is too long. -/
inductive Stalls (workspace : Workspace) : Lookup → Prop
  | long {links : Nat} {directory rest : List Text} {name : Text} (asks : Lookup.IsName name)
      (long : maxNameSize < name.bytesInName) : Stalls workspace ⟨links, directory, name :: rest⟩
  | move {lookup next : Lookup} (moves : Moves workspace lookup next) (stalls : Stalls workspace next) :
      Stalls workspace lookup

def lookup (workspace : Workspace) (path : Path) : Lookup :=
  ⟨maxLinks, if path.root = .here then workspace.current else [], path.steps⟩

structure Finds (workspace : Workspace) (path : Path) (location : List Text) : Prop where
  clean : path.fault? = none
  fits : path.Fits
  arrives : workspace.Arrives (workspace.lookup path) location

/-- The path cannot be looked up because it is too long, or because it leads to a name that is. -/
structure Refuses (workspace : Workspace) (path : Path) : Prop where
  clean : path.fault? = none
  long : path.Fits → workspace.Stalls (workspace.lookup path)

private theorem reaches : ¬ (Purpose.reach = .write ∧ rest = [[]]) := by simp

/-- A step does not change where a look-up leads. -/
theorem Moves.follow_eq {before after : Lookup} (h : workspace.Moves before after) :
    workspace.follow .reach before.links before.directory before.steps =
      workspace.follow .reach after.links after.directory after.steps := by
  cases h with
  | stay idle =>
    rw [follow_eq_followSteps, followSteps, if_pos]
    rcases idle with rfl | rfl <;> rfl
  | up => rw [follow_eq_followSteps, followSteps, if_neg (by decide), if_pos rfl]
  | enter asks short stands =>
    rw [follow_eq_followSteps, followSteps_cons asks.asked asks.not_twoPoints reaches (Nat.not_lt.2 short), stands]
  | along asks short stands =>
    rw [follow_eq_followSteps, followSteps_cons asks.asked asks.not_twoPoints reaches (Nat.not_lt.2 short), stands]
    exact if_neg (by simp)

theorem exists_entry (h : workspace.occupantAt location ≠ .nothing) :
    ∃ entry, workspace.top.at? location = some entry := by
  unfold occupantAt at h
  cases found : workspace.top.at? location with
  | none =>
    rw [found] at h
    exact absurd rfl h
  | some entry => exact ⟨entry, rfl⟩

/-- A look-up that arrives is followed by the program to the same location. -/
theorem Arrives.follow_eq {lookup : Lookup} (h : workspace.Arrives lookup location) :
    ∃ entry, workspace.top.at? location = some entry ∧
      workspace.follow .reach lookup.links lookup.directory lookup.steps = .ok (.entry location entry) := by
  -- The moves keep the result, so only the ends of the look-up have to be computed.
  induction h with
  | here stands =>
    obtain ⟨entry, found⟩ := exists_entry stands
    exact ⟨entry, found, by rw [follow_eq_followSteps, followSteps, found]⟩
  | file asks short stands =>
    refine ⟨_, at?_of_occupantAt_file stands, ?_⟩
    rw [follow_eq_followSteps, followSteps_cons asks.asked asks.not_twoPoints reaches (Nat.not_lt.2 short), stands]
    rfl
  | move moves arrives ih =>
    rw [moves.follow_eq]
    exact ih

/-- A look-up that comes to a name of too many bytes fails for that reason. -/
theorem Stalls.follow_eq {lookup : Lookup} (h : workspace.Stalls lookup) :
    workspace.follow .reach lookup.links lookup.directory lookup.steps = .error .nameTooLong := by
  induction h with
  | long asks long =>
    rw [follow_eq_followSteps, followSteps, if_neg asks.asked, if_neg asks.not_twoPoints, if_neg reaches, if_pos long]
  | move moves stalls ih => rw [moves.follow_eq, ih]

/-- What a result says about the look-up that had it. -/
def Shows (workspace : Workspace) (lookup : Lookup) : Except FileCause Found → Prop
  | .ok (.entry location _) => workspace.Arrives lookup location
  | .error .nameTooLong => workspace.Stalls lookup
  | _ => True

theorem Moves.shows {before after : Lookup} (moves : workspace.Moves before after) {result : Except FileCause Found}
    (h : workspace.Shows after result) : workspace.Shows before result := by
  unfold Shows at h ⊢
  split at h
  · exact .move moves h
  · exact .move moves h
  · exact trivial

private theorem shows_followSteps {links : Nat} (jumps : ∀ fewer, links = fewer + 1 → ∀ directory steps,
      workspace.Shows ⟨fewer, directory, steps⟩ (workspace.follow .reach fewer directory steps))
    (directory steps : List Text) : workspace.Shows ⟨links, directory, steps⟩
      (workspace.followSteps .reach (workspace.jump .reach links) directory steps) := by
  fun_induction followSteps workspace .reach (workspace.jump .reach links) directory steps
  case case1 directory entry listed =>
    refine .here ?_
    rw [occupantAt, listed]
    exact entry.occupant_some_ne_nothing
  case case2 | case7 | case8 | case11 => exact trivial
  case case3 idle ih => exact Moves.shows (.stay (by simpa using idle)) ih
  case case4 ih => exact Moves.shows .up ih
  case case5 writes => cases writes.1
  case case6 asked down _ long => exact .long (.of_asked asked down) long
  case case9 asked down _ short entries listed ih =>
    refine Moves.shows (.enter (.of_asked asked down) (Nat.not_lt.1 short) ?_) ih
    rw [occupantAt_concat, listed]
    rfl
  case case10 directory name asked down short contents listed _ =>
    have stands : workspace.occupantAt (directory ++ [name]) = .file contents := by
      rw [occupantAt_concat, listed]
      rfl
    exact .file (.of_asked asked down) (Nat.not_lt.1 short) stands
  case case12 inspects => cases inspects.2
  case case13 asked down _ short target listed _ =>
    cases links with
    | zero => exact trivial
    | succ fewer =>
      refine Moves.shows (.along (.of_asked asked down) (Nat.not_lt.1 short) ?_) (jumps fewer rfl _ _)
      rw [occupantAt_concat, listed]
      rfl

/-- Every result of the program is explained by a look-up, step by step, with the same number of links. -/
theorem shows_follow (workspace : Workspace) (links : Nat) (directory steps : List Text) :
    workspace.Shows ⟨links, directory, steps⟩ (workspace.follow .reach links directory steps) := by
  induction links generalizing directory steps with
  | zero =>
    rw [follow_eq_followSteps]
    exact shows_followSteps (fun _ same => absurd same (by omega)) directory steps
  | succ links ih =>
    rw [follow_eq_followSteps]
    refine shows_followSteps (fun fewer same => ?_) directory steps
    cases same
    exact ih

theorem find_reach_of_fits (clean : path.fault? = none) (fits : path.Fits) :
    workspace.find .reach path =
      (workspace.follow .reach maxLinks (workspace.lookup path).directory path.steps).mapError
        (.system · path.toText) := by
  rw [find, clean]
  dsimp only
  rw [if_neg (Nat.not_lt.2 fits)]
  unfold lookup
  dsimp only
  split
  · rename_i followed
    rw [followed]
    rfl
  · rename_i followed
    rw [followed]
    rfl

private theorem find_reach_of_not_fits (clean : path.fault? = none) (long : ¬ path.Fits) :
    workspace.find .reach path = .error (.system .nameTooLong path.toText) := by
  rw [find, clean]
  exact if_pos (Nat.not_le.1 long)

private theorem clean_of_find {result : Except FileError Found} (ends : workspace.find .reach path = result)
    (other : ∀ fault, result ≠ .error (.name fault)) : path.fault? = none := by
  refine Option.eq_none_iff_forall_ne_some.2 fun fault faulty => ?_
  rw [find, faulty] at ends
  exact other fault ends.symm

/-- What a look-up finds is where the path leads, and what stands there. -/
theorem find_reach_eq_ok_iff {entry : Entry} : workspace.find .reach path = .ok (.entry location entry) ↔
    workspace.Finds path location ∧ workspace.top.at? location = some entry := by
  constructor
  · intro found
    have clean := clean_of_find found (by simp)
    by_cases fits : path.Fits
    · rw [find_reach_of_fits clean fits] at found
      have shows := workspace.shows_follow maxLinks (workspace.lookup path).directory path.steps
      cases followed : workspace.follow .reach maxLinks (workspace.lookup path).directory path.steps with
      | error cause =>
        rw [followed] at found
        cases found
      | ok place =>
        rw [followed] at found shows
        cases found
        obtain ⟨other, stands, same⟩ := Arrives.follow_eq shows
        rw [followed] at same
        cases same
        exact ⟨⟨clean, fits, shows⟩, stands⟩
    · rw [find_reach_of_not_fits clean fits] at found
      cases found
  · rintro ⟨⟨clean, fits, arrives⟩, stands⟩
    obtain ⟨other, stands', followed⟩ := arrives.follow_eq
    cases stands.symm.trans stands'
    rw [find_reach_of_fits clean fits]
    exact congrArg (Except.mapError _) followed

/-- A look-up is given up for a name that is too long where it comes to one. -/
theorem find_reach_eq_nameTooLong_iff :
    workspace.find .reach path = .error (.system .nameTooLong path.toText) ↔ workspace.Refuses path := by
  constructor
  · intro failed
    have clean := clean_of_find failed (by simp)
    refine ⟨clean, ?_⟩
    intro fits
    rw [find_reach_of_fits clean fits] at failed
    have shows := workspace.shows_follow maxLinks (workspace.lookup path).directory path.steps
    cases followed : workspace.follow .reach maxLinks (workspace.lookup path).directory path.steps with
    | error cause =>
      rw [followed] at failed shows
      cases failed
      exact shows
    | ok place =>
      rw [followed] at failed
      cases failed
  · rintro ⟨clean, long⟩
    by_cases fits : path.Fits
    · rw [find_reach_of_fits clean fits]
      exact congrArg (Except.mapError _) (long fits).follow_eq
    · exact find_reach_of_not_fits clean fits

theorem entryAt?_eq_nameTooLong_iff :
    workspace.entryAt? path = .error (.system .nameTooLong path.toText) ↔ workspace.Refuses path := by
  rw [← find_reach_eq_nameTooLong_iff, entryAt?, entryAt]
  cases workspace.find .reach path with
  | error error =>
    cases error with
    | system cause place => cases cause <;> simp [FileCause.saysAbsent, bind, Except.bind]
    | name fault => simp [bind, Except.bind]
    | other message => simp [bind, Except.bind]
  | ok place =>
    cases place with
    | entry location entry => simp [bind, Except.bind, pure, Except.pure]
    | absent directory name => simp [bind, Except.bind, throw, throwThe, MonadExceptOf.throw, FileCause.saysAbsent]

end Workspace
end SqlSurvey
