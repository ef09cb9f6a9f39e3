import Mathlib.Tactic.IntervalCases
import SqlSurvey.YamlScalars

/-! # Texts that fit a pattern

What fits the parts of a pattern fits the pattern, although the matcher shortens patterns as it goes. Every decimal
integer fits the pattern of integers. -/
namespace SqlSurvey

namespace Pattern

variable {p q : Pattern}

private theorem fits_cons (p : Pattern) (c : CodePoint) (text : Text) :
    p.fits (c :: text) = (p.after c).fits text := rfl

private theorem fits_never (text : Text) : never.fits text = false := by
  induction text with
  | nil => rfl
  | cons c text ih => exact ih

private theorem fits_union_of {text : Text}
    (unshortened : ∀ p q, (either p q).fits text = (p.fits text || q.fits text)) (p q : Pattern) :
    (p.union q).fits text = (p.fits text || q.fits text) := by
  unfold Pattern.union
  split
  · rw [fits_never, Bool.false_or]
  · rw [fits_never, Bool.or_false]
  · exact unshortened p q

theorem fits_either (p q : Pattern) (text : Text) : (either p q).fits text = (p.fits text || q.fits text) := by
  induction text generalizing p q with
  | nil => rfl
  | cons c text ih => exact fits_union_of ih (p.after c) (q.after c)

theorem fits_any {patterns : List Pattern} (listed : p ∈ patterns) {text : Text} (h : p.fits text) :
    (any patterns).fits text := by
  induction patterns with
  | nil => exact absurd listed List.not_mem_nil
  | cons first patterns ih =>
    rw [any, List.foldr_cons, fits_either, Bool.or_eq_true]
    rcases List.mem_cons.1 listed with rfl | later
    · exact .inl h
    · exact .inr (ih later)

private theorem eq_nil_of_fits_nothing {text : Text} (h : nothing.fits text) : text = [] := by
  cases text with
  | nil => rfl
  | cons c text =>
    rw [fits_cons, after, fits_never] at h
    cases h

private theorem fits_append_of {s t : Text} (unshortened : ∀ p : Pattern, p.fits s → (sequence p q).fits (s ++ t))
    (h : p.fits s) (k : q.fits t) : (p.append q).fits (s ++ t) := by
  unfold Pattern.append
  split
  · rw [fits_never] at h
    cases h
  · rw [eq_nil_of_fits_nothing h]
    exact k
  · exact unshortened p h

/-- A pattern after another fits what they fit, although the sequence is shortened as it is read. -/
theorem fits_sequence {s t : Text} (h : p.fits s) (k : q.fits t) : (sequence p q).fits (s ++ t) := by
  induction s generalizing p with
  | nil =>
    have empty : p.acceptsEmpty := h
    cases t with
    | nil =>
      have both : (p.acceptsEmpty && q.acceptsEmpty) = true := by rw [empty, show q.acceptsEmpty = true from k]; rfl
      exact both
    | cons c t =>
      rw [List.nil_append, fits_cons, after, if_pos empty, fits_union_of (fun p q => fits_either p q t),
        Bool.or_eq_true]
      exact .inr k
  | cons c s ih =>
    have through : ((p.after c).append q).fits (s ++ t) := fits_append_of (fun p => ih) h k
    rw [List.cons_append, fits_cons, after]
    split
    · rw [fits_union_of (fun p q => fits_either p q (s ++ t)), Bool.or_eq_true]
      exact .inl through
    · exact through

theorem fits_many {s t : Text} (h : p.fits s) (k : (many p).fits t) : (many p).fits (s ++ t) := by
  cases s with
  | nil => exact k
  | cons c s => exact fits_append_of (fun p fits => fits_sequence fits k) h k

theorem fits_among {ranges : CodePointRanges} {c : CodePoint} (h : ranges.has c) : (among ranges).fits [c] := by
  rw [fits_cons, after, if_pos h]
  rfl

end Pattern

namespace Yaml

open Pattern

/-- The decimal digits without a zero in front. -/
def IsNatural (digits : Text) : Prop :=
  digits ≠ [] ∧ (∀ c ∈ digits, c.isDigit) ∧ (digits.head? = some (.char '0') → digits.length = 1)

private theorem fits_digits {digits : Text} (all : ∀ c ∈ digits, c.isDigit) :
    (many (oneOf "0123456789_")).fits digits := by
  induction digits with
  | nil => rfl
  | cons c digits ih =>
    rw [List.forall_mem_cons] at all
    have digit : (oneOf "0123456789_").fits [c] := by
      refine fits_among (List.any_eq_true.2 ⟨(c.toNat, c.toNat), ?_, by simp⟩)
      have range : 0x30 ≤ c.toNat ∧ c.toNat ≤ 0x39 := by simpa [CodePoint.isDigit] using all.1
      have listed : ∀ n, 0x30 ≤ n → n ≤ 0x39 → (n, n) ∈ "0123456789_".toList.map fun c => (c.toNat, c.toNat) := by
        intro n low high
        interval_cases n <;> decide
      exact listed _ range.1 range.2
    exact fits_many digit (ih all.2)

private theorem fits_natural {digits : Text} (natural : IsNatural digits) :
    (either (word "0") (all [range '1' '9', many (oneOf "0123456789_")])).fits digits := by
  obtain ⟨nonempty, digital, zero⟩ := natural
  cases digits with
  | nil => exact absurd rfl nonempty
  | cons c digits =>
    rw [List.forall_mem_cons] at digital
    rw [fits_either, Bool.or_eq_true]
    by_cases first : c = .char '0'
    · subst first
      have alone : digits = [] := by simpa using zero rfl
      rw [alone]
      exact .inl (by decide)
    · refine .inr ?_
      have inRange : CodePointRanges.has [('1'.toNat, '9'.toNat)] c := by
        have range : 0x30 ≤ c.toNat ∧ c.toNat ≤ 0x39 := by simpa [CodePoint.isDigit] using digital.1
        have other : c.toNat ≠ 0x30 := fun same => first (CodePoint.toNat_injective same)
        have within : 0x31 ≤ c.toNat ∧ c.toNat ≤ 0x39 := by omega
        simpa [CodePointRanges.has] using within
      have rest : (sequence (many (oneOf "0123456789_")) nothing).fits (digits ++ []) :=
        fits_sequence (fits_digits digital.2) rfl
      have whole : (sequence (range '1' '9') (sequence (many (oneOf "0123456789_")) nothing)).fits
          ([c] ++ (digits ++ [])) := fits_sequence (fits_among inRange) rest
      rw [List.append_nil] at whole
      exact whole

/-- Decimal digits, signed or not, are among the texts that a reader takes for integers. -/
theorem integerWord_fits {digits : Text} (natural : IsNatural digits) {sign : Text}
    (signed : sign = [] ∨ sign = [.char '-'] ∨ sign = [.char '+']) : integerWord.fits (sign ++ digits) := by
  have front : (optional (oneOf "-+")).fits sign := by
    rcases signed with rfl | rfl | rfl <;> decide
  have rest := fits_sequence (fits_natural natural) (rfl : nothing.fits [])
  rw [List.append_nil] at rest
  have whole := fits_sequence front rest
  -- The pattern of integers in base ten is the third of five.
  exact fits_any (List.mem_cons_of_mem _ (List.mem_cons_of_mem _ List.mem_cons_self)) whole

end Yaml
end SqlSurvey
