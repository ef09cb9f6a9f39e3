import SqlSurvey.JsonReading
import SqlSurvey.Proofs.EscapeTokens

/-! # Characters escaped by their units

In sixteen bits a character beyond the first 65536 has two units, the halves of a surrogate pair, and a string may be
written with one escape of four digits for each unit. Decoding gives the units back as they are: a string without such
characters is recovered, and any other string is recovered only when the halves are joined afterwards. -/
namespace SqlSurvey

namespace Utf16

/-- The units of sixteen bits that a character is made of: itself, or a high half and a low half. -/
def units (c : Char) : Text :=
  if c.toNat ≤ 0xFFFF then [.char c]
  else
    have : c.toNat < 0x110000 := CodePoint.toNat_lt (.char c)
    [.surrogate ⟨(c.toNat - 0x10000) / 0x400, by omega⟩, .surrogate ⟨0x400 + (c.toNat - 0x10000) % 0x400, by omega⟩]

/-- The text with each high half and the low half right behind it joined to a character. -/
def joinPairs : Text → Text
  | .surrogate high :: .surrogate low :: rest =>
    if high.val < 0x400 ∧ 0x400 ≤ low.val then
      .char (Char.ofNat (Json.joinPair (0xD800 + high.val) (0xD800 + low.val))) :: joinPairs rest
    else .surrogate high :: joinPairs (.surrogate low :: rest)
  | c :: rest => c :: joinPairs rest
  | [] => []

theorem units_of_le {c : Char} (one : c.toNat ≤ 0xFFFF) : units c = [.char c] := if_pos one

theorem toNat_le_of_mem_units {c : Char} {unit : CodePoint} (h : unit ∈ units c) : unit.toNat ≤ 0xFFFF := by
  by_cases one : c.toNat ≤ 0xFFFF
  · rw [units_of_le one, List.mem_singleton] at h
    rw [h]
    exact one
  · rw [units, if_neg one] at h
    simp only [List.mem_cons, List.not_mem_nil, or_false] at h
    rcases h with rfl | rfl
    · rw [CodePoint.toNat_surrogate]
      omega
    · rw [CodePoint.toNat_surrogate]
      omega

theorem any_isSurrogate_units (c : Char) : (units c).any CodePoint.isSurrogate ↔ 0xFFFF < c.toNat := by
  by_cases one : c.toNat ≤ 0xFFFF
  · simp [units_of_le one, one]
  · simp [units, one, Nat.lt_of_not_le one]

private theorem joinPair_halves (n : Nat) :
    Json.joinPair (0xD800 + n / 0x400) (0xD800 + (0x400 + n % 0x400)) = 0x10000 + n := by
  unfold Json.joinPair
  omega

theorem joinPairs_units (c : Char) (rest : Text) : joinPairs (units c ++ rest) = .char c :: joinPairs rest := by
  by_cases one : c.toNat ≤ 0xFFFF
  · rw [units_of_le one, List.singleton_append, joinPairs]
    rintro high low others ⟨⟩
  · have bound : c.toNat < 0x110000 := CodePoint.toNat_lt (.char c)
    have high : (c.toNat - 0x10000) / 0x400 < 0x400 := by omega
    have low : 0x400 ≤ 0x400 + (c.toNat - 0x10000) % 0x400 := by omega
    have large : 0x10000 ≤ c.toNat := by omega
    rw [units, if_neg one, List.cons_append, List.cons_append, List.nil_append, joinPairs, if_pos ⟨high, low⟩,
      joinPair_halves, Nat.add_sub_cancel' large, Char.ofNat_toNat]

theorem joinPairs_flatMap_units (s : List Char) : joinPairs (s.flatMap units) = s.map .char := by
  induction s with
  | nil => rfl
  | cons c s ih => rw [List.flatMap_cons, joinPairs_units, ih, List.map_cons]

theorem any_isSurrogate_flatMap_units (s : List Char) :
    (s.flatMap units).any CodePoint.isSurrogate ↔ ∃ c ∈ s, 0xFFFF < c.toNat := by
  rw [List.any_flatMap, List.any_eq_true]
  simp only [any_isSurrogate_units]

theorem flatMap_units_eq_iff (s : List Char) : s.flatMap units = s.map .char ↔ ∀ c ∈ s, c.toNat ≤ 0xFFFF := by
  constructor
  · intro same c inside
    apply Nat.le_of_not_lt
    intro large
    have found := (any_isSurrogate_flatMap_units s).2 ⟨c, inside, large⟩
    rw [same] at found
    simp at found
  · intro small
    rw [List.map_eq_flatMap, List.flatMap_def, List.flatMap_def]
    apply congrArg List.flatten
    apply List.map_congr_left
    intro c inside
    exact units_of_le (small c inside)

end Utf16

namespace Escape

/-- Each unit is written as a backslash, the letter `u` and four digits in base sixteen, small or capital. -/
inductive SpellsUnits : (units written : Text) → Prop
  | nil : SpellsUnits [] []
  | cons {unit : CodePoint} {digits units written : Text} (hex : ∀ d ∈ digits, d.isHex) (four : digits.length = 4)
      (denotes : unit.toNat = Text.hexNumber digits) (rest : SpellsUnits units written) :
      SpellsUnits (unit :: units) (.char '\\' :: .char 'u' :: digits ++ written)

/-- Decoding gives back the units as they were spelled, halves of a pair included. -/
theorem SpellsUnits.decode_eq {units written : Text} (spells : SpellsUnits units written) : decode written = units := by
  induction spells with
  | nil => exact decode_nil
  | @cons unit digits units written hex four denotes _ ih =>
    have takes : TakesDigits .short digits written := by
      constructor
      · exact hex
      · exact Nat.le_of_eq four.symm
      · exact Nat.le_of_eq four
      · intro fewer
        exact absurd four (Nat.ne_of_lt fewer)
    have token : Token written (.char '\\' :: .char 'u' :: digits) [unit] := .number takes denotes
    rw [token.decode_append, ih, List.singleton_append]

theorem exists_spellsUnits (units : Text) (small : ∀ unit ∈ units, unit.toNat ≤ 0xFFFF) :
    ∃ written, SpellsUnits units written := by
  induction units with
  | nil => exact ⟨[], .nil⟩
  | cons unit units ih =>
    obtain ⟨written, spells⟩ := ih fun other inside => small other (List.mem_cons_of_mem _ inside)
    have fits : unit.toNat < 16 ^ 4 := Nat.lt_succ_of_le (small unit List.mem_cons_self)
    have positive : 0 < 4 := by decide
    refine ⟨_, .cons ?_ (Text.length_ofHex positive fits) (Text.hexNumber_ofHex positive fits).symm spells⟩
    intro d inside
    exact Text.isHex_of_mem_ofHex positive fits inside

/-- Every string can be written with an escape for each of its units. However the digits are chosen, decoding gives
the units themselves: they are the string exactly if every character has one unit, they hold surrogates exactly if some
character has two, and joining the pairs gives the string. -/
theorem decode_keeps_halves (s : List Char) :
    (∃ written, SpellsUnits (s.flatMap Utf16.units) written) ∧
      ∀ written, SpellsUnits (s.flatMap Utf16.units) written →
        decode written = s.flatMap Utf16.units ∧
        (decode written = s.map .char ↔ ∀ c ∈ s, c.toNat ≤ 0xFFFF) ∧
        ((decode written).any CodePoint.isSurrogate ↔ ∃ c ∈ s, 0xFFFF < c.toNat) ∧
        Utf16.joinPairs (decode written) = s.map .char := by
  constructor
  · apply exists_spellsUnits
    intro unit inside
    obtain ⟨c, -, inside⟩ := List.mem_flatMap.1 inside
    exact Utf16.toNat_le_of_mem_units inside
  · intro written spells
    rw [spells.decode_eq]
    exact ⟨rfl, Utf16.flatMap_units_eq_iff s, Utf16.any_isSurrogate_flatMap_units s, Utf16.joinPairs_flatMap_units s⟩

/-- A letter and an emoji, with the digits in small and capital letters. -/
theorem decode_sample_halves :
    SpellsUnits (['a', '😀'].flatMap Utf16.units) (.ofString r"\u0061\ud83d\uDE00") ∧
      decode (.ofString r"\u0061\ud83d\uDE00") ≠ ['a', '😀'].map .char := by
  have spells : SpellsUnits (['a', '😀'].flatMap Utf16.units) (.ofString r"\u0061\ud83d\uDE00") := by
    apply @SpellsUnits.cons _ (.ofString "0061") _ (.ofString r"\ud83d\uDE00") (by decide) rfl (by decide)
    apply @SpellsUnits.cons _ (.ofString "d83d") _ (.ofString r"\uDE00") (by decide) rfl (by decide)
    exact @SpellsUnits.cons _ (.ofString "DE00") _ [] (by decide) rfl (by decide) .nil
  refine ⟨spells, ?_⟩
  intro same
  have small := ((decode_keeps_halves ['a', '😀']).2 _ spells).2.1.1 same
  exact absurd (small '😀' (by decide)) (by decide)

end Escape
end SqlSurvey
