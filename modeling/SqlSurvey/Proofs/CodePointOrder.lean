import SqlSurvey.FilePaths
import SqlSurvey.TextSets

/-! # Order by code point

Texts are ordered by their first difference, and so are the names of a path. The comparisons that sort them decide
these orders, so a set is listed strictly ascending. -/
namespace SqlSurvey

/-- A strict order can list the same elements in one way only. -/
theorem eq_of_pairwise_strict {α : Type} {before : α → α → Prop} {items others : List α}
    (perm : items.Perm others) (sorted : items.Pairwise before) (sorted' : others.Pairwise before)
    (asymm : ∀ a b, before a b → ¬ before b a) : items = others :=
  perm.eq_of_pairwise (fun _ _ _ _ first back => absurd back (asymm _ _ first)) sorted sorted'

namespace Text

/-- At the first difference the text has the smaller code point, or it ends. -/
def Before (s t : Text) : Prop := List.Lex (fun a b => a.toNat < b.toNat) s t

theorem Before.trans {s t u : Text} (h : s.Before t) (h' : t.Before u) : s.Before u :=
  List.lex_trans Nat.lt_trans h h'

theorem not_before_self (s : Text) : ¬ s.Before s := List.lex_irrefl (fun c : CodePoint => Nat.lt_irrefl c.toNat) s

theorem Before.asymm {s t : Text} (h : s.Before t) : ¬ t.Before s := fun back => not_before_self s (h.trans back)

/-- The comparison that the program makes is the strict order together with equality. -/
theorem le_iff {s t : Text} : le s t = true ↔ s = t ∨ s.Before t := by
  induction s generalizing t with
  | nil =>
    cases t with
    | nil => simp
    | cons b t => simpa using .nil
  | cons a s ih =>
    cases t with
    | nil => simp [le, Before]
    | cons b t =>
      rw [le]
      by_cases same : a.toNat = b.toNat
      · obtain rfl := CodePoint.toNat_injective same
        rw [if_pos rfl, ih, Before, Before, List.cons_lex_cons_iff]
        simp
      · have differs : a ≠ b := fun equal => same (congrArg CodePoint.toNat equal)
        rw [if_neg same, decide_eq_true_iff, Before, List.cons_lex_cons_iff]
        simp [differs]

theorem before_iff {s t : Text} : s.Before t ↔ le s t = true ∧ s ≠ t := by
  rw [le_iff]
  constructor
  · intro before
    refine ⟨.inr before, ?_⟩
    rintro rfl
    exact not_before_self s before
  · rintro ⟨rfl | before, differs⟩
    · exact absurd rfl differs
    · exact before

instance (s t : Text) : Decidable (s.Before t) := decidable_of_iff (le s t = true ∧ s ≠ t) before_iff.symm

end Text

/-- A set is listed strictly ascending. -/
theorem TextSet.pairwise_toList (set : TextSet) : set.toList.Pairwise Text.Before := by
  have trans : ∀ s t u : Text, s.le t → t.le u → s.le u := fun _ _ _ => Text.le_trans
  have sorted : set.toList.Pairwise fun s t => s.le t := List.pairwise_mergeSort trans Text.le_total set.members
  have distinct : set.toList.Nodup := (List.mergeSort_perm set.members Text.le).nodup_iff.2 set.distinct
  refine (sorted.and distinct).imp ?_
  intro s t related
  exact Text.before_iff.2 related

namespace Path

/-- At the first difference the names have the smaller name, or they end. -/
def NamesBefore (names more : List Text) : Prop := List.Lex Text.Before names more

theorem NamesBefore.trans {s t u : List Text} (h : NamesBefore s t) (h' : NamesBefore t u) : NamesBefore s u :=
  List.lex_trans Text.Before.trans h h'

theorem leNames_iff {s t : List Text} : leNames s t = true ↔ s = t ∨ NamesBefore s t := by
  induction s generalizing t with
  | nil =>
    cases t with
    | nil => simp [leNames]
    | cons b t => simpa [leNames] using .nil
  | cons a s ih =>
    cases t with
    | nil => simp [leNames, NamesBefore]
    | cons b t =>
      rw [leNames, NamesBefore, List.cons_lex_cons_iff]
      by_cases same : a = b
      · subst same
        rw [if_pos rfl, ih, NamesBefore]
        simp [Text.not_before_self]
      · rw [if_neg same, Text.le_iff]
        simp [same]

theorem leNames_trans {s t u : List Text} (h : leNames s t = true) (h' : leNames t u = true) :
    leNames s u = true := by
  rcases leNames_iff.1 h with rfl | before
  · exact h'
  · rcases leNames_iff.1 h' with rfl | before'
    · exact h
    · exact leNames_iff.2 (.inr (before.trans before'))

theorem leNames_total (s t : List Text) : leNames s t || leNames t s := by
  induction s generalizing t with
  | nil => rfl
  | cons a s ih =>
    cases t with
    | nil => rfl
    | cons b t =>
      rw [leNames, leNames]
      by_cases same : a = b
      · simpa [same] using ih t
      · rw [if_neg same, if_neg (Ne.symm same)]
        exact Text.le_total a b

theorem not_namesBefore_self (names : List Text) : ¬ NamesBefore names names :=
  List.lex_irrefl Text.not_before_self names

theorem NamesBefore.asymm {s t : List Text} (h : NamesBefore s t) : ¬ NamesBefore t s :=
  fun back => not_namesBefore_self s (h.trans back)

theorem namesBefore_iff {s t : List Text} : NamesBefore s t ↔ leNames s t = true ∧ s ≠ t := by
  rw [leNames_iff]
  constructor
  · intro before
    refine ⟨.inr before, ?_⟩
    rintro rfl
    exact not_namesBefore_self s before
  · rintro ⟨rfl | before, differs⟩
    · exact absurd rfl differs
    · exact before

instance (s t : List Text) : Decidable (NamesBefore s t) :=
  decidable_of_iff (leNames s t = true ∧ s ≠ t) namesBefore_iff.symm

theorem nodup_of_pairwise {paths : List Path}
    (ordered : paths.Pairwise fun p q => NamesBefore p.parts q.parts) : paths.Nodup := by
  refine ordered.imp ?_
  rintro p q before rfl
  exact not_namesBefore_self p.parts before

/-- Paths with one root are in the order of their names. -/
theorem namesBefore_of_le {p q : Path} (sameRoot : p.root = q.root) (ordered : p.le q = true) (differ : p ≠ q) :
    NamesBefore p.parts q.parts := by
  have names : leNames p.parts q.parts = true := by
    rw [le, key, key, sameRoot] at ordered
    split at ordered
    · exact ordered
    · rwa [leNames, if_pos rfl] at ordered
  rcases leNames_iff.1 names with same | before
  · obtain ⟨root, parts⟩ := p
    obtain ⟨root', parts'⟩ := q
    cases sameRoot
    cases same
    exact absurd rfl differ
  · exact before

/-- Paths that are sorted, none of them twice, are in strict order of their names if they have one root. -/
theorem pairwise_mergeSort_le {root : PathRoot} {paths : List Path} (rooted : ∀ path ∈ paths, path.root = root)
    (distinct : paths.Nodup) : (paths.mergeSort le).Pairwise fun p q => NamesBefore p.parts q.parts := by
  have trans : ∀ p q r : Path, p.le q → q.le r → p.le r := fun _ _ _ => leNames_trans
  have sorted : (paths.mergeSort le).Pairwise fun p q => p.le q :=
    List.pairwise_mergeSort trans (fun p q => leNames_total p.key q.key) paths
  have differ : (paths.mergeSort le).Nodup := (List.mergeSort_perm paths le).nodup_iff.2 distinct
  refine (sorted.and differ).imp_of_mem ?_
  intro p q inside inside' h
  refine namesBefore_of_le ?_ h.1 h.2
  rw [rooted p (List.mem_mergeSort.1 inside), rooted q (List.mem_mergeSort.1 inside')]

end Path
end SqlSurvey
