import Mathlib.Tactic.SplitIfs
import SqlSurvey.Proofs.RecursiveLowering

/-! # Literals as written

A string is written as a regular literal with escapes, as a verbatim one with doubled quotes, or, if it has no line
break and does not begin with a quote, as a raw one between two runs of quotes. The name of an encoding may follow.
Wherever a literal so written stands in a source, its node is lowered to the string. -/
namespace SqlSurvey

namespace Utf8

theorem encodeChar_eq (c : Char) : encodeChar c = String.utf8EncodeChar c := by
  have bound : c.toNat < 0x110000 := CodePoint.toNat_lt (.char c)
  have number : c.val.toNat = c.toNat := rfl
  simp only [encodeChar, String.utf8EncodeChar, number, Nat.add_comm 0xC0, Nat.add_comm 0xE0, Nat.add_comm 0xF0,
    Nat.add_comm 0x80]
  generalize c.toNat = n at bound
  -- The leading byte of an encoding has room for all that is left of the number.
  by_cases one : n < 0x80
  · rw [if_pos one, if_pos (by omega)]
  by_cases two : n < 0x800
  · have fits : n / 64 % 0x20 = n / 64 := by omega
    rw [if_neg one, if_pos two, if_neg (by omega), if_pos (by omega), fits]
  by_cases three : n < 0x10000
  · have fits : n / 4096 % 0x10 = n / 4096 := by omega
    rw [if_neg one, if_neg two, if_pos three, if_neg (by omega), if_neg (by omega), if_pos (by omega), fits]
  · have fits : n / 262144 % 0x08 = n / 262144 := by omega
    rw [if_neg one, if_neg two, if_neg three, if_neg (by omega), if_neg (by omega), if_neg (by omega), fits]

theorem decode_flatMap_utf8EncodeChar (chars : List Char) :
    decode (chars.flatMap String.utf8EncodeChar) = chars.map .char := by
  rw [← decode_encodeChars, encodeChars, funext encodeChar_eq]

end Utf8

theorem slice_between {α : Type} (front items back : List α) (h : back ≠ []) :
    slice (front ++ items ++ back) front.length (-(back.length : Int)) = items := by
  have positive := List.length_pos_iff.2 h
  have total : (front ++ items ++ back).length = front.length + items.length + back.length := by
    rw [List.length_append, List.length_append]
  have stop : boundAt (front ++ items ++ back).length (-(back.length : Int)) = (front ++ items).length := by
    rw [boundAt, if_pos (by omega), total, List.length_append]
    omega
  have start : boundAt (front ++ items ++ back).length front.length = front.length := by
    rw [boundAt_natCast, total]
    omega
  rw [slice, stop, start, List.take_left, List.drop_left]

namespace Text

theorem withoutEnd_append (ending text : Text) : withoutEnd ending (text ++ ending) = text := by
  have ends : ending.isSuffixOf (text ++ ending) := by simp
  rw [withoutEnd, if_pos ends, List.length_append, Nat.add_sub_cancel, List.take_left]

theorem withoutEnd_append_of_ne (start text : Text) {ending other : Text} (long : ending.length = other.length)
    (differ : ending ≠ other) : withoutEnd (start ++ ending) (text ++ other) = text ++ other := by
  rw [withoutEnd, if_neg]
  intro ends
  obtain ⟨before, same⟩ := List.isSuffixOf_iff_suffix.1 ends
  rw [← List.append_assoc] at same
  exact differ (List.append_inj_right' same long)

end Text

namespace Escape

/-- A character inside a regular literal. -/
def write (c : Char) : List Char :=
  if c = '\\' then ['\\', '\\']
  else if c = '"' then ['\\', '"']
  else if c = '\n' then ['\\', 'n']
  else if c = '\r' then ['\\', 'r']
  else [c]

private theorem decode_escape {letter c : Char} {rest : Text}
    (denotes : read (.char letter :: rest) = ⟨[.char c], 1⟩) :
    decode (.char '\\' :: .char letter :: rest) = .char c :: decode rest := by
  rw [decode_backslash, denotes]
  rfl

theorem decode_write (s : List Char) : decode ((s.flatMap write).map .char) = s.map .char := by
  induction s with
  | nil => exact decode_nil
  | cons c s ih =>
    rw [List.flatMap_cons, List.map_append, List.map_cons, ← ih, write]
    split_ifs with escape quote feed carriage
    · subst escape
      exact decode_escape rfl
    · subst quote
      exact decode_escape rfl
    · subst feed
      exact decode_escape rfl
    · subst carriage
      exact decode_escape rfl
    · apply decode_cons_of_ne
      intro same
      exact escape (CodePoint.char.inj same)

end Escape

namespace LiteralForm

/-- A character inside a verbatim literal. -/
def double (c : Char) : List Char := if c = '"' then ['"', '"'] else [c]

theorem singleQuotes_double (s : List Char) : singleQuotes ((s.flatMap double).map .char) = s.map .char := by
  induction s with
  | nil => rfl
  | cons c s ih =>
    rw [List.flatMap_cons, List.map_append, List.map_cons, ← ih, double]
    split_ifs with quote
    · subst quote
      rfl
    · rw [List.map_singleton, List.singleton_append, singleQuotes]
      rintro rest ⟨⟩
      exact absurd rfl quote

theorem rawValue_of_slice {text body : Text} (quotes : Nat)
    (run : (text.takeWhile (· == .char '"')).length = quotes) (inside : slice text quotes (-quotes) = body) :
    rawValue text =
      if body.contains (.char '\n') then
        rawLines ((Text.splitOn (.char '\n') body).map (Text.withoutEnd [.char '\r']))
      else body := by
  subst run inside
  rfl

/-- The quotes at the beginning are counted up to the body, which does not begin with another one. -/
theorem rawValue_quoted {quotes : Nat} (positive : 0 < quotes) {body : Text} (nonempty : body ≠ [])
    (first : body.head? ≠ some (.char '"')) :
    rawValue (List.replicate quotes (.char '"') ++ body ++ List.replicate quotes (.char '"')) =
      if body.contains (.char '\n') then
        rawLines ((Text.splitOn (.char '\n') body).map (Text.withoutEnd [.char '\r']))
      else body := by
  apply rawValue_of_slice quotes
  · obtain ⟨c, rest, rfl⟩ := List.exists_cons_of_ne_nil nonempty
    have other : c ≠ .char '"' := by
      intro same
      exact first (congrArg some same)
    simp [other]
  · have back : List.replicate quotes (CodePoint.char '"') ≠ [] := by
      rw [Ne, List.replicate_eq_nil_iff]
      omega
    have between := slice_between (List.replicate quotes (.char '"')) body _ back
    rwa [List.length_replicate] at between

theorem rawValue_between {body : Text} {quotes : Nat} (positive : 0 < quotes) (line : .char '\n' ∉ body)
    (first : body.head? ≠ some (.char '"')) :
    rawValue (List.replicate quotes (.char '"') ++ body ++ List.replicate quotes (.char '"')) = body := by
  have single : ¬ body.contains (.char '\n') := by rwa [List.contains_iff_mem]
  cases body with
  | nil =>
    -- The two runs are counted as one, which is all of the text.
    rw [List.append_nil, List.replicate_append_replicate]
    have stop : boundAt (quotes + quotes) (-((quotes + quotes : Nat) : Int)) = 0 := by
      rw [boundAt, if_pos (by omega)]
      omega
    have nothing : slice (List.replicate (quotes + quotes) (CodePoint.char '"')) (quotes + quotes : Nat)
        (-((quotes + quotes : Nat) : Int)) = [] := by
      rw [slice, List.length_replicate, stop, List.take_zero, List.drop_nil]
    rw [rawValue_of_slice (quotes + quotes) (by simp) nothing, if_neg single]
  | cons c body => rw [rawValue_quoted positive (List.cons_ne_nil c body) first, if_neg single]

def kind : LiteralForm → Text
  | regular => .ofString "string_literal"
  | verbatim => .ofString "verbatim_string_literal"
  | raw => .ofString "raw_string_literal"

/-- A way to write a string as a literal. -/
inductive Spells (s : List Char) : LiteralForm → List Char → Prop
  | regular : Spells s regular (['"'] ++ s.flatMap Escape.write ++ ['"'])
  | verbatim : Spells s verbatim (['@', '"'] ++ s.flatMap double ++ ['"'])
  | raw {quotes : Nat} (three : 3 ≤ quotes) (line : '\n' ∉ s) (first : s.head? ≠ some '"') :
      Spells s raw (List.replicate quotes '"' ++ s ++ List.replicate quotes '"')

/-- What may follow a literal. -/
def encodings : List String := ["", "u8", "U8"]

theorem Spells.ends_in_quote {s written : List Char} {form : LiteralForm} (h : Spells s form written) :
    ∃ before, written = before ++ ['"'] := by
  cases h with
  | regular => exact ⟨_, rfl⟩
  | verbatim => exact ⟨_, rfl⟩
  | @raw quotes three =>
    obtain ⟨fewer, rfl⟩ : ∃ fewer, quotes = fewer + 1 := ⟨quotes - 1, by omega⟩
    rw [List.replicate_succ' , ← List.append_assoc]
    exact ⟨_, rfl⟩

theorem withoutEncoding_append (before : Text) {encoding : String} (h : encoding ∈ encodings) :
    withoutEncoding (before ++ [.char '"'] ++ .ofString encoding) = before ++ [.char '"'] := by
  have small : Text.withoutEnd (.ofString "u8") (before ++ [.char '"']) = before ++ [.char '"'] :=
    Text.withoutEnd_append_of_ne [.char 'u'] before rfl (by decide)
  have large : Text.withoutEnd (.ofString "U8") (before ++ [.char '"']) = before ++ [.char '"'] :=
    Text.withoutEnd_append_of_ne [.char 'U'] before rfl (by decide)
  have apart : Text.withoutEnd (.ofString "u8") (before ++ [.char '"'] ++ .ofString "U8") =
      before ++ [.char '"'] ++ .ofString "U8" := Text.withoutEnd_append_of_ne [] _ rfl (by decide)
  simp only [encodings, List.mem_cons, List.not_mem_nil, or_false] at h
  unfold withoutEncoding
  rcases h with rfl | rfl | rfl
  · have none : Text.ofString "" = [] := rfl
    rw [none, List.append_nil, small, large]
  · rw [Text.withoutEnd_append, large]
  · rw [apart, Text.withoutEnd_append]

/-- Every way to write a string is read as that string, whatever encoding is named behind it. -/
theorem Spells.value {s written : List Char} {form : LiteralForm} (h : Spells s form written) {encoding : String}
    (named : encoding ∈ encodings) :
    form.value ((written ++ encoding.toList).map .char) = s.map .char := by
  have bare : withoutEncoding ((written ++ encoding.toList).map .char) = written.map .char := by
    obtain ⟨before, rfl⟩ := h.ends_in_quote
    simpa [Text.ofString] using withoutEncoding_append (before.map .char) named
  unfold LiteralForm.value
  rw [bare]
  cases h with
  | regular =>
    rw [List.map_append, List.map_append]
    have between := slice_between [.char '"'] ((s.flatMap Escape.write).map CodePoint.char) [.char '"'] (by simp)
    exact (congrArg Escape.decode between).trans (Escape.decode_write s)
  | verbatim =>
    rw [List.map_append, List.map_append]
    have between := slice_between [.char '@', .char '"'] ((s.flatMap double).map CodePoint.char) [.char '"'] (by simp)
    exact (congrArg singleQuotes between).trans (singleQuotes_double s)
  | raw three line first =>
    rw [List.map_append, List.map_append, List.map_replicate]
    apply rawValue_between (by omega)
    · simpa using line
    · rw [List.head?_map]
      intro same
      obtain ⟨c, head, quote⟩ := Option.map_eq_some_iff.1 same
      exact first (CodePoint.char.inj quote ▸ head)

end LiteralForm

namespace Concrete
open LiteralForm

theorem text_of_span {c : Concrete} (front back : Bytes) {bytes : Bytes}
    (span : c.span = ⟨front.length, front.length + bytes.length⟩) :
    c.text (front ++ bytes ++ back) = Utf8.decode bytes := by
  rw [text, span, ← Int.natCast_add, slice_natCast, ← List.length_append, List.take_left, List.drop_left]

/-- A node over a literal as written is lowered to the string that was written, and its text is what stands in the
source. -/
theorem lower_of_spells {c : Concrete} (front back : Bytes) {s written : List Char} {form : LiteralForm}
    {encoding : String} (spells : Spells s form written) (named : encoding ∈ encodings) (kind : c.kind = form.kind)
    (span : c.span =
      ⟨front.length, front.length + ((written ++ encoding.toList).flatMap String.utf8EncodeChar).length⟩) :
    c.lower (front ++ (written ++ encoding.toList).flatMap String.utf8EncodeChar ++ back) =
      .mk c.span ((written ++ encoding.toList).map .char) (.literal (s.map .char)) := by
  have text := text_of_span front back span
  rw [Utf8.decode_flatMap_utf8EncodeChar] at text
  have literal : Construct.ofKind form.kind = .literal form := by
    cases form <;> decide
  rw [lower_eq, text, outline, kind, literal]
  simp only [Shape.mapParts, text, spells.value named]

def sampleLiterals : Bytes := Utf8.encodeChars r#"("\\u8\""u8,"""q"""")"#.toList

/-- Inside the first literal stand what looks like the name of an encoding and a quote, and the second one ends in more
quotes than it begins with. -/
theorem lower_of_sampleLiterals :
    lower sampleLiterals (.node "string_literal" 1 11 true none []) =
        .mk ⟨1, 11⟩ (.ofString r#""\\u8\""u8"#) (.literal (.ofString r#"\u8""#)) ∧
      lower sampleLiterals (.node "raw_string_literal" 12 20 true none []) =
        .mk ⟨12, 20⟩ (.ofString r#""""q"""""#) (.literal (.ofString r#"q""#)) := by
  constructor
  · have lowered := lower_of_spells (c := .node "string_literal" 1 11 true none [])
      (Utf8.encodeChars ['(']) (Utf8.encodeChars r#","""q"""")"#.toList)
      (Spells.regular (s := r#"\u8""#.toList)) (show "u8" ∈ encodings by decide) rfl rfl
    exact lowered
  · have lowered := lower_of_spells (c := .node "raw_string_literal" 12 20 true none [])
      (Utf8.encodeChars r#"("\\u8\""u8,"#.toList) (Utf8.encodeChars [')'])
      (Spells.raw (s := r#"q""#.toList) (show 3 ≤ 3 by decide) (by decide) (by decide))
      (show "" ∈ encodings by decide) rfl rfl
    exact lowered

end Concrete
end SqlSurvey
