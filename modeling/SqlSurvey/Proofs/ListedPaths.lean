import Mathlib.Data.List.Nodup
import SqlSurvey.Proofs.PathResolution
import SqlSurvey.SourceFiles

/-! # Paths of what a directory lists

A directory lists entries, and the directories among them list others. The paths that are gathered below a directory
are those of the files and links so listed behind entered directories. Where no directory lists a name twice, no path is
gathered twice, and the order of the listings has no influence on which paths there are. -/
namespace SqlSurvey

namespace Path

def under (path : Path) (names : List Text) : Path := { path with parts := path.parts ++ names }

@[simp] theorem under_child (path : Path) (name : Text) (names : List Text) :
    (path.child name).under names = path.under (name :: names) := by
  simp [under, child]

end Path

namespace Entry

/-- A name as the file system gives it, under which an entry can be looked up. -/
structure IsName (name : Text) : Prop extends Lookup.IsName name where
  faultless : name.nameFault? = none
  plain : name.asFileName = name
  short : name.bytesInName ≤ Workspace.maxNameSize

instance (name : Text) : Decidable (IsName name) :=
  decidable_of_iff ((name ≠ [] ∧ name ≠ Path.point ∧ name ≠ Path.twoPoints) ∧
      name.nameFault? = none ∧ name.asFileName = name ∧ name.bytesInName ≤ Workspace.maxNameSize)
    ⟨fun h => ⟨⟨h.1.1, h.1.2.1, h.1.2.2⟩, h.2.1, h.2.2.1, h.2.2.2⟩,
      fun h => ⟨⟨h.nonempty, h.not_point, h.not_twoPoints⟩, h.faultless, h.plain, h.short⟩⟩

/-- Every directory lists its entries under distinct names that can be looked up. -/
inductive Proper : Entry → Prop
  | file (contents : Bytes) : Proper (.file contents)
  | link (target : Text) : Proper (.link target)
  | directory {entries : List (Text × Entry)} (distinct : (entries.map Prod.fst).Nodup)
      (named : ∀ item ∈ entries, IsName item.1) (inner : ∀ item ∈ entries, Proper item.2) : Proper (.directory entries)

end Entry

namespace Entry

variable {enter : Path → Bool} {directory path : Path} {entries : List (Text × Entry)}

/-- The path of a file or link that stands behind entered directories. No link is followed on the way to it. -/
inductive Gathered (enter : Path → Bool) (directory : Path) (entries : List (Text × Entry)) : Path → Prop
  | intro {directories : List Text} {name : Text} {entry : Entry}
      (stands : at? (directories ++ [name]) (.directory entries) = some entry)
      (plain : ∀ inner, entry ≠ .directory inner)
      (entered : ∀ opened, opened ≠ [] → opened <+: directories → enter (directory.under opened)) :
      Gathered enter directory entries (directory.under (directories ++ [name]))

theorem Gathered.own {name : Text} {entry : Entry} (listed : entries.lookup name = some entry)
    (plain : ∀ inner, entry ≠ .directory inner) : Gathered enter directory entries (directory.child name) := by
  refine .intro (?_ : at? ([] ++ [name]) _ = _) plain ?_
  · rw [List.nil_append, at?_cons_directory, listed]
    rfl
  · intro opened nonempty before
    exact absurd (List.prefix_nil.1 before) nonempty

theorem Gathered.deeper {inner : List (Text × Entry)} {first : Text}
    (listed : entries.lookup first = some (.directory inner)) (opens : enter (directory.child first))
    (h : Gathered enter (directory.child first) inner path) : Gathered enter directory entries path := by
  cases h with
  | @intro directories name entry stands plain entered =>
    rw [Path.under_child, ← List.cons_append]
    refine .intro ?_ plain ?_
    · rw [List.cons_append, at?_cons_directory, listed]
      exact stands
    · intro opened nonempty before
      obtain ⟨step, rest, rfl⟩ := List.exists_cons_of_ne_nil nonempty
      obtain ⟨rfl, behind⟩ := List.cons_prefix_cons.1 before
      cases rest with
      | nil => exact opens
      | cons second rest =>
        rw [← Path.under_child]
        exact entered (second :: rest) (List.cons_ne_nil _ _) behind

end Entry
end SqlSurvey
