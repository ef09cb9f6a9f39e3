import SqlSurvey.CodePoints

/-! # Sets of texts

A set keeps each text once and is listed in the order of code points. -/
namespace SqlSurvey

structure TextSet where
  members : List Text
  distinct : members.Nodup

namespace TextSet

def empty : TextSet := ⟨[], List.nodup_nil⟩

instance : Membership Text TextSet := ⟨fun set text => text ∈ set.members⟩

def insert (set : TextSet) (text : Text) : TextSet :=
  if h : text ∈ set.members then set else ⟨text :: set.members, List.nodup_cons.2 ⟨h, set.distinct⟩⟩

def ofList (texts : List Text) : TextSet := texts.foldl insert empty

def size (set : TextSet) : Nat := set.members.length

def contains (set : TextSet) (text : Text) : Bool := set.members.contains text

def toList (set : TextSet) : List Text := set.members.mergeSort Text.le

theorem mem_def {set : TextSet} {text : Text} : text ∈ set ↔ text ∈ set.members := Iff.rfl

@[simp] theorem mem_empty {text : Text} : ¬ text ∈ empty := by simp [mem_def, empty]

@[simp] theorem mem_insert {set : TextSet} {text other : Text} :
    other ∈ set.insert text ↔ other = text ∨ other ∈ set := by
  unfold insert
  split
  · rename_i h
    constructor
    · exact Or.inr
    · rintro (rfl | h')
      · exact h
      · exact h'
  · simp [mem_def]

private theorem mem_foldl_insert {texts : List Text} {set : TextSet} {text : Text} :
    text ∈ texts.foldl insert set ↔ text ∈ texts ∨ text ∈ set := by
  induction texts generalizing set with
  | nil => simp
  | cons t texts ih =>
    rw [List.foldl_cons, ih, mem_insert, List.mem_cons]
    constructor
    · rintro (h | h | h)
      · exact Or.inl (Or.inr h)
      · exact Or.inl (Or.inl h)
      · exact Or.inr h
    · rintro ((h | h) | h)
      · exact Or.inr (Or.inl h)
      · exact Or.inl h
      · exact Or.inr (Or.inr h)

@[simp] theorem mem_ofList {texts : List Text} {text : Text} : text ∈ ofList texts ↔ text ∈ texts := by
  simp [ofList, mem_foldl_insert]

@[simp] theorem mem_toList {set : TextSet} {text : Text} : text ∈ set.toList ↔ text ∈ set := by
  simp [toList, mem_def]

end TextSet
end SqlSurvey
