/-! # Code points and text

A string literal may denote any code point, a lone surrogate included, so text is a list of code points
and not a list of scalar values. -/
namespace SqlSurvey

/-- A code point is a scalar value or one of the 2048 surrogates. -/
inductive CodePoint where
  | char (c : Char)
  | surrogate (offset : Fin 0x800)
deriving DecidableEq

namespace CodePoint

instance : Inhabited CodePoint := ⟨.char ' '⟩
instance : Coe Char CodePoint := ⟨.char⟩

def toNat : CodePoint → Nat
  | .char c => c.toNat
  | .surrogate offset => 0xD800 + offset.val

def ofNat? (n : Nat) : Option CodePoint :=
  if n.isValidChar then some (.char (Char.ofNat n))
  else if h : 0xD800 ≤ n ∧ n < 0xE000 then some (.surrogate ⟨n - 0xD800, by omega⟩)
  else none

def replacement : CodePoint := .char '�'

/-- The small letter of a capital letter of the ASCII alphabet; any other code point is itself. -/
def asciiLower : CodePoint → CodePoint
  | .char c => .char c.toLower
  | .surrogate offset => .surrogate offset

def isSurrogate : CodePoint → Bool
  | .char _ => false
  | .surrogate _ => true

@[simp] theorem toNat_char (c : Char) : toNat (.char c) = c.toNat := rfl
@[simp] theorem toNat_surrogate (offset : Fin 0x800) : toNat (.surrogate offset) = 0xD800 + offset.val := rfl
@[simp] theorem isSurrogate_char (c : Char) : isSurrogate (.char c) = false := rfl
@[simp] theorem isSurrogate_surrogate (offset : Fin 0x800) : isSurrogate (.surrogate offset) = true := rfl

theorem toNat_lt (c : CodePoint) : c.toNat < 0x110000 := by
  cases c with
  | char c =>
    have valid : c.toNat.isValidChar := c.valid
    rw [toNat_char]
    rcases valid with h | ⟨-, h⟩
    · exact Nat.lt_trans h (by decide)
    · exact h
  | surrogate offset =>
    have bound := offset.isLt
    rw [toNat_surrogate]
    omega

private theorem surrogate_not_valid (offset : Fin 0x800) : ¬ (0xD800 + offset.val).isValidChar := by
  have := offset.isLt
  simp only [Nat.isValidChar]
  omega

/-- Every code point is recovered from its number. -/
@[simp] theorem ofNat?_toNat (c : CodePoint) : ofNat? c.toNat = some c := by
  cases c with
  | char c =>
    have valid : c.toNat.isValidChar := c.valid
    rw [ofNat?, toNat_char, if_pos valid, Char.ofNat_toNat]
  | surrogate offset =>
    have bound := offset.isLt
    rw [ofNat?, toNat_surrogate, if_neg (surrogate_not_valid offset), dif_pos (by omega)]
    exact congrArg (fun d => some (surrogate d)) (Fin.ext (Nat.add_sub_cancel_left ..))

theorem ofNat?_eq_some_iff {n : Nat} {c : CodePoint} : ofNat? n = some c ↔ c.toNat = n := by
  constructor
  · intro found
    rw [ofNat?] at found
    split at found
    · rename_i valid
      obtain rfl := Option.some.inj found
      rw [toNat_char, Char.ofNat, dif_pos valid]
      rfl
    · split at found
      · rename_i half
        obtain rfl := Option.some.inj found
        exact Nat.add_sub_cancel' half.1
      · exact absurd found (by simp)
  · rintro rfl
    exact ofNat?_toNat c

theorem ofNat?_eq_none_iff {n : Nat} : ofNat? n = none ↔ 0x10FFFF < n := by
  rw [ofNat?]
  split
  · rename_i valid
    simp only [Nat.isValidChar] at valid
    simp only [reduceCtorEq, false_iff]
    omega
  · rename_i invalid
    simp only [Nat.isValidChar] at invalid
    split
    · simp only [reduceCtorEq, false_iff]
      omega
    · simp only [true_iff]
      omega

theorem toNat_injective {a b : CodePoint} (h : a.toNat = b.toNat) : a = b := by
  have same : ofNat? a.toNat = ofNat? b.toNat := by rw [h]
  simpa using same

end CodePoint

abbrev Text := List CodePoint

namespace Text

def ofString (s : String) : Text := s.toList.map .char

instance : Coe String Text := ⟨ofString⟩

def ofNat (n : Nat) : Text := (Nat.toDigits 10 n).map .char

def ofInt : Int → Text
  | .ofNat n => ofNat n
  | .negSucc n => .char '-' :: ofNat (n + 1)

/-- The text as a string, each surrogate shown as the replacement character. -/
def toString (text : Text) : String :=
  String.ofList (text.map fun
    | .char c => c
    | .surrogate _ => '�')

/-- Order by code point, a proper initial part first. -/
def le : Text → Text → Bool
  | [], _ => true
  | _ :: _, [] => false
  | a :: s, b :: t => if a.toNat = b.toNat then le s t else a.toNat < b.toNat

@[simp] theorem le_nil (t : Text) : le [] t = true := by cases t <;> rfl

theorem le_refl (t : Text) : le t t = true := by
  induction t with
  | nil => rfl
  | cons a t ih => simp [le, ih]

theorem le_trans {s t u : Text} (h : le s t = true) (h' : le t u = true) : le s u = true := by
  induction s generalizing t u with
  | nil => exact le_nil u
  | cons a s ih =>
    cases t with
    | nil => simp [le] at h
    | cons b t =>
      cases u with
      | nil => simp [le] at h'
      | cons c u =>
        simp only [le] at h h' ⊢
        split at h <;> split at h' <;> rename_i hab hbc
        · rw [if_pos (hab.trans hbc)]
          exact ih h h'
        · rw [hab, if_neg hbc]
          exact h'
        · rw [← hbc, if_neg hab]
          exact h
        · simp only [decide_eq_true_eq] at h h'
          rw [if_neg (by omega)]
          simp only [decide_eq_true_eq]
          omega

theorem le_total (s t : Text) : le s t || le t s := by
  induction s generalizing t with
  | nil => simp
  | cons a s ih =>
    cases t with
    | nil => simp [le]
    | cons b t =>
      simp only [le]
      by_cases hab : a.toNat = b.toNat
      · simpa [hab] using ih t
      · rw [if_neg hab, if_neg (Ne.symm hab)]
        simp only [Bool.or_eq_true, decide_eq_true_eq]
        omega

theorem le_antisymm {s t : Text} (h : le s t = true) (h' : le t s = true) : s = t := by
  induction s generalizing t with
  | nil =>
    cases t with
    | nil => rfl
    | cons b t => simp [le] at h'
  | cons a s ih =>
    cases t with
    | nil => simp [le] at h
    | cons b t =>
      simp only [le] at h h'
      by_cases hab : a.toNat = b.toNat
      · rw [if_pos hab] at h
        rw [if_pos hab.symm] at h'
        rw [CodePoint.toNat_injective hab, ih h h']
      · rw [if_neg hab, decide_eq_true_eq] at h
        rw [if_neg (Ne.symm hab), decide_eq_true_eq] at h'
        omega

end Text
end SqlSurvey
