import SqlSurvey.Proofs.ListedPaths

/-! # Listings in another order

Two trees that differ only in the order in which directories list their entries have the same standing at every
location. A look-up asks for nothing else, so every path leads to the same place in both. -/
namespace SqlSurvey

namespace Entry

/-- Directories list the same entries in another order, at any number of places in the tree. -/
inductive Relisted : Entry → Entry → Prop
  | refl (entry : Entry) : Relisted entry entry
  | trans {first second third : Entry} (h : Relisted first second) (k : Relisted second third) : Relisted first third
  | reorder {entries others : List (Text × Entry)} (perm : entries.Perm others) :
      Relisted (.directory entries) (.directory others)
  | inside {before after : List (Text × Entry)} {name : Text} {entry other : Entry} (h : Relisted entry other) :
      Relisted (.directory (before ++ (name, entry) :: after)) (.directory (before ++ (name, other) :: after))

theorem Relisted.proper {top other : Entry} (h : Relisted top other) (proper : top.Proper) : other.Proper := by
  induction h with
  | refl entry => exact proper
  | trans _ _ ih ih' => exact ih' (ih proper)
  | reorder perm =>
    cases proper with
    | directory distinct named inner =>
      refine .directory ((perm.map Prod.fst).nodup_iff.1 distinct) ?_ ?_
      · intro item listed
        exact named item (perm.mem_iff.2 listed)
      · intro item listed
        exact inner item (perm.mem_iff.2 listed)
  | inside _ ih =>
    cases proper with
    | directory distinct named inner =>
      simp only [List.forall_mem_append, List.forall_mem_cons] at named inner
      refine .directory (by simpa using distinct) ?_ ?_
      · simpa only [List.forall_mem_append, List.forall_mem_cons] using named
      · simp only [List.forall_mem_append, List.forall_mem_cons]
        exact ⟨inner.1, ih inner.2.1, inner.2.2⟩

end Entry

namespace Workspace

section SameStanding

variable {workspace other : Workspace} (same : ∀ location, other.occupantAt location = workspace.occupantAt location)
include same

theorem Moves.of_same {before after : Lookup} (moves : workspace.Moves before after) : other.Moves before after := by
  cases moves with
  | stay idle => exact .stay idle
  | up => exact .up
  | enter asks short stands => exact .enter asks short ((same _).trans stands)
  | along asks short stands => exact .along asks short ((same _).trans stands)

theorem Arrives.of_same {lookup : Lookup} {location : List Text} (arrives : workspace.Arrives lookup location) :
    other.Arrives lookup location := by
  induction arrives with
  | here stands => exact .here (by rwa [same])
  | file asks short stands => exact .file asks short ((same _).trans stands)
  | move moves _ ih => exact .move (moves.of_same same) ih

theorem Stalls.of_same {lookup : Lookup} (stalls : workspace.Stalls lookup) : other.Stalls lookup := by
  induction stalls with
  | long asks long => exact .long asks long
  | move moves _ ih => exact .move (moves.of_same same) ih

variable (current : other.current = workspace.current)
include current

omit same in
private theorem lookup_of_same (path : Path) : other.lookup path = workspace.lookup path := by
  rw [lookup, lookup, current]

/-- A path leads to the same location where the same stands everywhere. -/
theorem finds_of_same : other.Finds = workspace.Finds := by
  funext path location
  apply propext
  constructor
  · intro finds
    refine ⟨finds.clean, finds.fits, ?_⟩
    rw [← lookup_of_same current]
    exact finds.arrives.of_same fun location => (same location).symm
  · intro finds
    refine ⟨finds.clean, finds.fits, ?_⟩
    rw [lookup_of_same current]
    exact finds.arrives.of_same same

theorem refuses_of_same : other.Refuses = workspace.Refuses := by
  funext path
  apply propext
  constructor
  · rintro ⟨clean, long⟩
    refine ⟨clean, ?_⟩
    rw [← lookup_of_same current]
    exact fun fits => (long fits).of_same fun location => (same location).symm
  · rintro ⟨clean, long⟩
    refine ⟨clean, ?_⟩
    rw [lookup_of_same current]
    exact fun fits => (long fits).of_same same

end SameStanding

end Workspace
end SqlSurvey
