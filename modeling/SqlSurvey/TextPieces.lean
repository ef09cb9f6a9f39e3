import SqlSurvey.CodePoints

/-! # Pieces of lists and texts

Slices with signed bounds, and the searching, cutting and joining that the rest of the survey needs. -/
namespace SqlSurvey

/-- Where a signed bound falls in a list of the given length: a negative bound counts from the end, and
no bound lies outside the list. -/
def boundAt (length : Nat) (bound : Int) : Nat :=
  if bound < 0 then (bound + length).toNat else min bound.toNat length

/-- The elements between two signed bounds; none if the bounds are reversed. -/
def slice {α : Type} (items : List α) (start stop : Int) : List α :=
  (items.take (boundAt items.length stop)).drop (boundAt items.length start)

def sliceTo {α : Type} (items : List α) (stop : Int) : List α :=
  items.take (boundAt items.length stop)

@[simp] theorem boundAt_natCast (length bound : Nat) : boundAt length bound = min bound length := by
  rw [boundAt, if_neg (by omega), Int.toNat_natCast]

theorem sliceTo_natCast {α : Type} (items : List α) (stop : Nat) :
    sliceTo items stop = items.take stop := by
  simp [sliceTo, List.take_eq_take_iff]

theorem slice_natCast {α : Type} (items : List α) (start stop : Nat) :
    slice items start stop = (items.take stop).drop start := by
  rcases Nat.le_total start items.length with h | h
  · simp only [slice, boundAt_natCast, Nat.min_eq_left h]
    congr 1
    simp [List.take_eq_take_iff]
  · simp only [slice, boundAt_natCast, Nat.min_eq_right h]
    rw [List.drop_eq_nil_of_le (by rw [List.length_take]; omega),
      List.drop_eq_nil_of_le (by rw [List.length_take]; omega)]

namespace Text

def hasInfix (pattern : Text) : Text → Bool
  | [] => pattern.isEmpty
  | c :: rest => pattern.isPrefixOf (c :: rest) || hasInfix pattern rest

theorem hasInfix_iff {pattern text : Text} : hasInfix pattern text = true ↔ pattern <:+: text := by
  induction text with
  | nil => simp [hasInfix, List.isEmpty_iff]
  | cons c rest ih => simp [hasInfix, ih, List.infix_cons_iff]

/-- The text without the given beginning, if it begins so. -/
def withoutStart (start text : Text) : Text :=
  if start.isPrefixOf text then text.drop start.length else text

/-- The text without the given ending, if it ends so. -/
def withoutEnd (ending text : Text) : Text :=
  if ending.isSuffixOf text then text.take (text.length - ending.length) else text

/-- The parts between the occurrences of a separator; there is always at least one. -/
def splitOn (separator : CodePoint) : Text → List Text
  | [] => [[]]
  | c :: rest =>
    if c = separator then [] :: splitOn separator rest
    else match splitOn separator rest with
      | [] => [[c]]
      | part :: parts => (c :: part) :: parts

def joinWith (separator : Text) : List Text → Text
  | [] => []
  | [part] => part
  | part :: parts => part ++ separator ++ joinWith separator parts

/-- The text without what the predicate holds of at its two ends. -/
def trim (drops : CodePoint → Bool) (text : Text) : Text :=
  ((text.dropWhile drops).reverse.dropWhile drops).reverse

end Text
end SqlSurvey
