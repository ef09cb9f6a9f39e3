import Mathlib.Data.List.Induction
import Mathlib.Logic.Relation
import SqlSurvey.Proofs.ListedPaths

/-! # Looking up what stands below a directory

A path that leads to a directory leads on, continued by names, to what stands behind these names. Only its length can be
in the way: the directories below a root are entered as long as none of their names is excluded and the path of the
last of them is not too long. -/
namespace SqlSurvey

namespace Text

end Text

namespace Path

end Path

namespace Workspace

open Relation (ReflTransGen)

variable {workspace : Workspace} {root path : Path} {base location names directories : List Text} {name : Text}
  {excluded : TextSet}

theorem Arrives.stands {lookup : Lookup} (arrives : workspace.Arrives lookup location) :
    ∃ entry, workspace.top.at? location = some entry := by
  obtain ⟨entry, stands, -⟩ := arrives.follow_eq
  exact ⟨entry, stands⟩

theorem Arrives.not_stalls {lookup : Lookup} (arrives : workspace.Arrives lookup location) :
    ¬ workspace.Stalls lookup := by
  intro stalls
  obtain ⟨entry, -, followed⟩ := arrives.follow_eq
  cases followed.symm.trans stalls.follow_eq

theorem Moves.append {before after : Lookup} (moves : workspace.Moves before after) (more : List Text) :
    workspace.Moves { before with steps := before.steps ++ more } { after with steps := after.steps ++ more } := by
  cases moves with
  | stay idle => exact .stay idle
  | up => exact .up
  | enter asks short stands => exact .enter asks short stands
  | along asks short stands =>
    rw [List.append_assoc]
    exact .along asks short stands

/-- Steps that lead to a directory lead on from there. -/
theorem Arrives.walk {lookup : Lookup} (arrives : workspace.Arrives lookup base)
    (inside : workspace.occupantAt base = .directory) (more : List Text) :
    ∃ links, ReflTransGen workspace.Moves { lookup with steps := lookup.steps ++ more } ⟨links, base, more⟩ := by
  induction arrives with
  | @here links directory stands => exact ⟨links, .refl⟩
  | file asks short stands =>
    rw [stands] at inside
    cases inside
  | move moves arrives ih =>
    obtain ⟨links, walk⟩ := ih inside
    exact ⟨links, .head (moves.append more) walk⟩

section Proper

variable (proper : workspace.top.Proper)
include proper

end Proper

end Workspace
end SqlSurvey
