import Mathlib.Algebra.Group.Nat.Defs
import SqlSurvey.DigitTexts

/-! # Numbers as written

The digits of a number in a base of at most sixteen, as numbers: they are below the base, none of them leads as a
zero, and together they spell the number. Both the decimal and the padded form in base sixteen follow from them. -/
namespace SqlSurvey

def spelled (base : Nat) (digits : List Nat) : Nat := digits.foldl (fun n d => n * base + d) 0

/-- Digits that spell a number in a base without a leading zero. -/
structure Spelling (base n : Nat) (digits : List Nat) : Prop where
  below : ∀ d ∈ digits, d < base
  spells : spelled base digits = n
  nonempty : digits ≠ []
  leading : digits.head? = some 0 → digits = [0]

theorem spelled_concat (base : Nat) (digits : List Nat) (d : Nat) :
    spelled base (digits ++ [d]) = spelled base digits * base + d := by
  simp [spelled]

theorem spelled_zeros (base count : Nat) (digits : List Nat) :
    spelled base (List.replicate count 0 ++ digits) = spelled base digits := by
  have none : ∀ count, spelled base (List.replicate count 0) = 0 := by
    intro count
    induction count with
    | zero => rfl
    | succ count ih => rw [List.replicate_succ', spelled_concat, ih, Nat.zero_mul]
  rw [spelled, List.foldl_append]
  exact congrArg (fun start => digits.foldl (fun n d => n * base + d) start) (none count)

/-- The digits of a number spell it, and the first of them is zero only for zero. -/
theorem exists_spelling {base : Nat} (large : 1 < base) (n : Nat) :
    ∃ digits, Nat.toDigits base n = digits.map Nat.digitChar ∧ Spelling base n digits := by
  by_cases small : n < base
  · refine ⟨[n], Nat.toDigits_of_lt_base small, ?_⟩
    exact { below := by simpa using small, spells := by simp [spelled], nonempty := by simp, leading := by simp }
  · have quotient : n / base < n := Nat.div_lt_self (by omega) large
    obtain ⟨digits, written, spelling⟩ := exists_spelling large (n / base)
    refine ⟨digits ++ [n % base], ?_, ?_⟩
    · rw [Nat.toDigits_of_base_le large (by omega), written, List.map_append, List.map_singleton]
    · have positive : 0 < n / base := Nat.div_pos (by omega) (by omega)
      obtain ⟨first, others, rfl⟩ := List.exists_cons_of_ne_nil spelling.nonempty
      constructor
      · intro d inside
        rcases List.mem_append.1 inside with inside | inside
        · exact spelling.below d inside
        · rw [List.mem_singleton.1 inside]
          exact Nat.mod_lt n (by omega)
      · rw [spelled_concat, spelling.spells]
        exact Nat.div_add_mod' n base
      · simp
      · intro zero
        -- A quotient that starts with a zero is zero, but it has digits only where it is not.
        have spells := spelling.spells
        rw [spelling.leading zero] at spells
        simp only [spelled, List.foldl_cons, List.foldl_nil] at spells
        omega
termination_by n

namespace Text

theorem exists_spelling_ofNat (n : Nat) :
    ∃ digits, ofNat n = digits.map (fun d => .char d.digitChar) ∧ Spelling 10 n digits := by
  obtain ⟨digits, written, spelling⟩ := exists_spelling (show 1 < 10 by decide) n
  exact ⟨digits, by rw [ofNat, written, List.map_map]; rfl, spelling⟩

private theorem toNat_digitChar : ∀ d < 10, d.digitChar.toNat = 0x30 + d := by decide

theorem isDigit_digitChar {d : Nat} (h : d < 10) : CodePoint.isDigit (.char d.digitChar) := by
  simp only [CodePoint.isDigit, CodePoint.toNat_char, toNat_digitChar d h, Bool.and_eq_true, decide_eq_true_eq]
  omega

theorem isDigit_of_mem_ofNat {n : Nat} {c : CodePoint} (h : c ∈ ofNat n) : c.isDigit := by
  obtain ⟨digits, written, spelling⟩ := exists_spelling_ofNat n
  rw [written] at h
  obtain ⟨d, inside, rfl⟩ := List.mem_map.1 h
  exact isDigit_digitChar (spelling.below d inside)

theorem ofNat_ne_nil (n : Nat) : ofNat n ≠ [] := by
  obtain ⟨digits, written, spelling⟩ := exists_spelling_ofNat n
  rw [written]
  simpa using spelling.nonempty

/-- A number is written with a zero in front only if it is zero. -/
theorem length_ofNat_of_zero {n : Nat} (h : (ofNat n).head? = some (.char '0')) : (ofNat n).length = 1 := by
  obtain ⟨digits, written, spelling⟩ := exists_spelling_ofNat n
  obtain ⟨first, others, rfl⟩ := List.exists_cons_of_ne_nil spelling.nonempty
  have zero : first = 0 := by
    have bound := toNat_digitChar first (spelling.below first List.mem_cons_self)
    rw [written] at h
    have same : first.digitChar = '0' := by simpa using h
    rw [same] at bound
    have value : '0'.toNat = 0x30 := rfl
    omega
  have alone := spelling.leading (congrArg some zero)
  rw [written, alone]
  rfl

/-- Reading digits in any base is spelling, if each digit is read as its number. -/
private theorem foldl_digits (base : Nat) (value : CodePoint → Nat) (digits : List Nat)
    (reads : ∀ d ∈ digits, value (.char d.digitChar) = d) (start : Nat) :
    (digits.map fun d => CodePoint.char d.digitChar).foldl (fun n c => n * base + value c) start =
      digits.foldl (fun n d => n * base + d) start := by
  induction digits generalizing start with
  | nil => rfl
  | cons d digits ih =>
    rw [List.map_cons, List.foldl_cons, List.foldl_cons, reads d List.mem_cons_self]
    exact ih (fun d inside => reads d (List.mem_cons_of_mem _ inside)) _

/-- The digits of a number are read as the number. -/
@[simp] theorem decimalNumber_ofNat (n : Nat) : decimalNumber (ofNat n) = n := by
  obtain ⟨digits, written, spelling⟩ := exists_spelling_ofNat n
  have reads : ∀ d ∈ digits, (CodePoint.char d.digitChar).toNat - 0x30 = d := by
    intro d inside
    rw [CodePoint.toNat_char, toNat_digitChar d (spelling.below d inside)]
    omega
  rw [decimalNumber, written, foldl_digits 10 (fun c => c.toNat - 0x30) digits reads]
  exact spelling.spells

/-- A number that fits into the width is written with exactly that many digits in base sixteen. -/
theorem exists_spelling_ofHex {width n : Nat} (positive : 0 < width) (fits : n < 16 ^ width) :
    ∃ digits, ofHex width n = digits.map (fun d => .char d.digitChar) ∧ digits.length = width ∧
      (∀ d ∈ digits, d < 16) ∧ spelled 16 digits = n := by
  obtain ⟨digits, written, spelling⟩ := exists_spelling (show 1 < 16 by decide) n
  have short : (Nat.toDigits 16 n).length ≤ width :=
    (Nat.length_toDigits_le_iff (by decide) positive).2 fits
  have count : digits.length = (Nat.toDigits 16 n).length := by rw [written, List.length_map]
  refine ⟨List.replicate (width - digits.length) 0 ++ digits, ?_, ?_, ?_, ?_⟩
  · rw [ofHex, ← count, written]
    simp [Nat.digitChar]
  · rw [List.length_append, List.length_replicate]
    omega
  · intro d inside
    rcases List.mem_append.1 inside with inside | inside
    · rw [List.eq_of_mem_replicate inside]
      decide
    · exact spelling.below d inside
  · rw [spelled_zeros, spelling.spells]

private theorem hexValue_digitChar : ∀ d < 16, (CodePoint.char d.digitChar).hexValue? = some d := by decide

theorem hexNumber_ofHex {width n : Nat} (positive : 0 < width) (fits : n < 16 ^ width) :
    hexNumber (ofHex width n) = n := by
  obtain ⟨digits, written, -, below, spells⟩ := exists_spelling_ofHex positive fits
  have reads : ∀ d ∈ digits, (CodePoint.char d.digitChar).hexValue?.getD 0 = d := by
    intro d inside
    rw [hexValue_digitChar d (below d inside)]
    rfl
  rw [hexNumber, written, foldl_digits 16 (fun c => c.hexValue?.getD 0) digits reads]
  exact spells

theorem length_ofHex {width n : Nat} (positive : 0 < width) (fits : n < 16 ^ width) :
    (ofHex width n).length = width := by
  obtain ⟨digits, written, count, -⟩ := exists_spelling_ofHex positive fits
  rw [written, List.length_map, count]

theorem isHex_of_mem_ofHex {width n : Nat} {c : CodePoint} (positive : 0 < width) (fits : n < 16 ^ width)
    (h : c ∈ ofHex width n) : c.isHex := by
  obtain ⟨digits, written, -, below, -⟩ := exists_spelling_ofHex positive fits
  rw [written] at h
  obtain ⟨d, inside, rfl⟩ := List.mem_map.1 h
  rw [CodePoint.isHex, hexValue_digitChar d (below d inside)]
  rfl

private theorem hexValue_lt (c : CodePoint) : c.hexValue?.getD 0 < 16 := by
  rw [CodePoint.hexValue?]
  split
  · rw [Option.getD_some]
    omega
  · split
    · rw [Option.getD_some]
      omega
    · split
      · rw [Option.getD_some]
        omega
      · decide

private theorem foldl_hex_lt (digits : Text) (start : Nat) :
    digits.foldl (fun n c => n * 16 + c.hexValue?.getD 0) start < (start + 1) * 16 ^ digits.length := by
  induction digits generalizing start with
  | nil => simp
  | cons d digits ih =>
    have small := hexValue_lt d
    rw [List.foldl_cons, List.length_cons, Nat.pow_succ']
    calc
      _ < (start * 16 + d.hexValue?.getD 0 + 1) * 16 ^ digits.length := ih _
      _ ≤ (start + 1) * 16 * 16 ^ digits.length := Nat.mul_le_mul_right _ (by omega)
      _ = (start + 1) * (16 * 16 ^ digits.length) := Nat.mul_assoc ..

theorem hexNumber_lt (digits : Text) : hexNumber digits < 16 ^ digits.length := by
  have bound := foldl_hex_lt digits 0
  rwa [Nat.zero_add, Nat.one_mul] at bound

end Text
end SqlSurvey
