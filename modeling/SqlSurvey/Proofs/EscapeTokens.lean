import SqlSurvey.Proofs.WrittenNumbers
import SqlSurvey.StringLiterals

/-! # The tokens of a regular literal

Inside a regular literal stand characters, escapes of one letter, numbers in base sixteen and, where a backslash begins
none of these, the backslash with what follows it. Which token comes next depends on the text behind it, and so every
text is a sequence of tokens in one way only; decoding puts what they denote one behind the other. -/
namespace SqlSurvey.Escape

def simpleEscapes : List (Char × Char) :=
  [('\'', '\''), ('"', '"'), ('\\', '\\'), ('0', '\x00'), ('a', '\x07'), ('b', '\x08'), ('e', '\x1b'), ('f', '\x0c'),
   ('n', '\n'), ('r', '\r'), ('t', '\t'), ('v', '\x0b')]

inductive NumberForm where
  | varying
  | short
  | long

namespace NumberForm

def letter : NumberForm → Char
  | varying => 'x'
  | short => 'u'
  | long => 'U'

def least : NumberForm → Nat
  | varying => 1
  | short => 4
  | long => 8

def most : NumberForm → Nat
  | varying => 4
  | short => 4
  | long => 8

end NumberForm

def leadingDigits (text : Text) : Text := text.takeWhile CodePoint.isHex

/-- The digits of a number in front of a text. They are all that the form has room for, or all that there are. -/
structure TakesDigits (form : NumberForm) (digits after : Text) : Prop where
  hex : ∀ d ∈ digits, d.isHex
  enough : form.least ≤ digits.length
  few : digits.length ≤ form.most
  longest : digits.length < form.most → leadingDigits after = []

/-- A letter begins a number if as many digits follow it as its form needs. -/
def BeginsNumber (letter : CodePoint) (after : Text) : Prop :=
  ∃ form : NumberForm, letter = .char form.letter ∧ form.least ≤ (leadingDigits after).length

/-- The text `written`, where `after` stands behind it, is one token and denotes `value`. -/
inductive Token (after : Text) : (written value : Text) → Prop
  | plain {c : CodePoint} (other : c ≠ .char '\\') : Token after [c] [c]
  | number {form : NumberForm} {digits : Text} {c : CodePoint} (takes : TakesDigits form digits after)
      (denotes : c.toNat = Text.hexNumber digits) : Token after (.char '\\' :: .char form.letter :: digits) [c]
  | tooLarge {digits : Text} (takes : TakesDigits .long digits after) (large : 0x10FFFF < Text.hexNumber digits) :
      Token after (.char '\\' :: .char 'U' :: digits) (.char '\\' :: .char 'U' :: digits)
  | simple {letter c : Char} (known : (letter, c) ∈ simpleEscapes) : Token after [.char '\\', .char letter] [.char c]
  | unknown {letter : CodePoint} (unlisted : ∀ entry ∈ simpleEscapes, letter ≠ .char entry.1)
      (noNumber : ¬ BeginsNumber letter after) : Token after [.char '\\', letter] [.char '\\', letter]
  | last (nothing : after = []) : Token after [.char '\\'] [.char '\\']

/-- A text as a sequence of tokens, each with what it denotes. -/
inductive Splits : Text → List (Text × Text) → Prop
  | nil : Splits [] []
  | cons {written value after : Text} {pieces : List (Text × Text)} (token : Token after written value)
      (rest : Splits after pieces) : Splits (written ++ after) ((written, value) :: pieces)

/-! ### Reading one escape -/

private theorem simple?_of_mem {letter c : Char} (known : (letter, c) ∈ simpleEscapes) :
    simple? (.char letter) = some c := by
  have all : ∀ entry ∈ simpleEscapes, simple? (.char entry.1) = some entry.2 := by decide
  exact all _ known

private theorem mem_of_simple? {letter : CodePoint} {c : Char} (found : simple? letter = some c) :
    ∃ l, letter = .char l ∧ (l, c) ∈ simpleEscapes := by
  unfold simple? at found
  split at found <;> cases found <;> exact ⟨_, rfl, by decide⟩

private theorem ofLetter_of_unlisted {letter : CodePoint}
    (unlisted : ∀ entry ∈ simpleEscapes, letter ≠ .char entry.1) : ofLetter letter = ⟨[.char '\\', letter], 1⟩ := by
  rw [ofLetter]
  cases found : simple? letter with
  | none => rfl
  | some c =>
    obtain ⟨l, rfl, listed⟩ := mem_of_simple? found
    exact absurd rfl (unlisted (l, c) listed)

private theorem ofDigits_eq (count : Nat) (letter : CodePoint) (rest : Text) :
    ofDigits count letter rest =
      if count ≤ (leadingDigits rest).length then ofNumber letter ((leadingDigits rest).take count)
      else ofLetter letter := by
  have full : ((leadingDigits rest).take count).length = count ↔ count ≤ (leadingDigits rest).length := by
    rw [List.length_take]
    omega
  rw [ofDigits, ← List.take_takeWhile]
  by_cases enough : count ≤ (leadingDigits rest).length
  · rw [if_pos enough]
    exact if_pos (full.2 enough)
  · rw [if_neg enough]
    exact if_neg (mt full.1 enough)

/-- The forms of numbers differ only in how many digits they take. -/
private theorem read_of_form (form : NumberForm) (rest : Text) :
    read (.char form.letter :: rest) =
      if form.least ≤ (leadingDigits rest).length then
        ofNumber (.char form.letter) ((leadingDigits rest).take form.most)
      else ofLetter (.char form.letter) := by
  cases form with
  | varying =>
    have empty : ((leadingDigits rest).take 4).isEmpty ↔ ¬ 1 ≤ (leadingDigits rest).length := by
      rw [List.isEmpty_iff, List.take_eq_nil_iff, ← List.length_eq_zero_iff]
      omega
    rw [NumberForm.letter, read, ← List.take_takeWhile]
    by_cases enough : 1 ≤ (leadingDigits rest).length
    · rw [NumberForm.least, if_pos enough]
      exact if_neg fun isEmpty => empty.1 isEmpty enough
    · rw [NumberForm.least, if_neg enough]
      exact if_pos (empty.2 enough)
  | short => exact ofDigits_eq 4 _ rest
  | long => exact ofDigits_eq 8 _ rest

private theorem read_of_letter {letter : CodePoint} (rest : Text)
    (other : ∀ form : NumberForm, letter ≠ .char form.letter) : read (letter :: rest) = ofLetter letter := by
  rw [read]
  · exact other .varying
  · exact other .short
  · exact other .long

private theorem read_of_noNumber {letter : CodePoint} {after : Text} (noNumber : ¬ BeginsNumber letter after) :
    read (letter :: after) = ofLetter letter := by
  by_cases number : ∃ form : NumberForm, letter = .char form.letter
  · obtain ⟨form, rfl⟩ := number
    rw [read_of_form, if_neg]
    intro enough
    exact noNumber ⟨form, rfl, enough⟩
  · apply read_of_letter
    intro form same
    exact number ⟨form, same⟩

private theorem leadingDigits_append {digits : Text} (hex : ∀ d ∈ digits, d.isHex) (after : Text) :
    leadingDigits (digits ++ after) = digits ++ leadingDigits after :=
  List.takeWhile_append_of_pos hex

private theorem TakesDigits.read_eq {form : NumberForm} {digits after : Text} (takes : TakesDigits form digits after) :
    read (.char form.letter :: digits ++ after) = ofNumber (.char form.letter) digits := by
  have found : form.least ≤ (leadingDigits (digits ++ after)).length := by
    rw [leadingDigits_append takes.hex, List.length_append]
    exact Nat.le_add_right_of_le takes.enough
  have taken : (leadingDigits (digits ++ after)).take form.most = digits := by
    rw [leadingDigits_append takes.hex]
    rcases Nat.lt_or_eq_of_le takes.few with fewer | all
    · rw [takes.longest fewer, List.append_nil, List.take_of_length_le takes.few]
    · exact List.take_left' all
  rw [List.cons_append, read_of_form, if_pos found, taken]

/-- A token that begins with a backslash is the escape that is read behind the backslash. -/
theorem Token.read_eq {after escape value : Text} (token : Token after (.char '\\' :: escape) value) :
    read (escape ++ after) = ⟨value, escape.length⟩ := by
  cases token with
  | plain other => exact absurd rfl other
  | number takes denotes =>
    rw [takes.read_eq, ofNumber, CodePoint.ofNat?_eq_some_iff.2 denotes, List.length_cons, Nat.add_comm]
  | @tooLarge digits takes large =>
    have read : read (.char 'U' :: digits ++ after) = ofNumber (.char 'U') digits := takes.read_eq
    rw [read, ofNumber, CodePoint.ofNat?_eq_none_iff.2 large, List.length_cons, Nat.add_comm]
    rfl
  | @simple letter c known =>
    have apart : ∀ form : NumberForm, CodePoint.char letter ≠ .char form.letter := by
      intro form same
      have letters : ∀ entry ∈ simpleEscapes, entry.1 ≠ form.letter := by cases form <;> decide
      exact letters _ known (CodePoint.char.inj same)
    rw [List.singleton_append, read_of_letter _ apart, ofLetter, simple?_of_mem known]
    rfl
  | unknown unlisted noNumber =>
    rw [List.singleton_append, read_of_noNumber noNumber, ofLetter_of_unlisted unlisted]
    rfl
  | last nothing =>
    rw [nothing]
    rfl

/-! ### One token at the start of a text -/

private theorem exists_digits (form : NumberForm) {rest : Text} (enough : form.least ≤ (leadingDigits rest).length) :
    ∃ digits after, rest = digits ++ after ∧ TakesDigits form digits after := by
  obtain ⟨after, split⟩ : (leadingDigits rest).take form.most <+: rest :=
    (List.take_prefix ..).trans (List.takeWhile_prefix _)
  have hex : ∀ d ∈ (leadingDigits rest).take form.most, d.isHex := by
    intro d inside
    exact List.all_eq_true.1 List.all_takeWhile d (List.mem_of_mem_take inside)
  refine ⟨_, after, split.symm, hex, ?_, ?_, ?_⟩
  · have ordered : form.least ≤ form.most := by cases form <;> decide
    rw [List.length_take]
    omega
  · exact List.length_take_le ..
  · -- With room left, all the leading digits are taken, and none can be left behind them.
    intro fewer
    rw [List.length_take] at fewer
    have all : (leadingDigits rest).take form.most = leadingDigits rest := List.take_of_length_le (by omega)
    have again := leadingDigits_append hex after
    rw [split, all] at again
    exact List.append_right_eq_self.1 again.symm

/-- Four digits cannot spell a number beyond the last code point. -/
private theorem TakesDigits.long_of_large {form : NumberForm} {digits after : Text}
    (takes : TakesDigits form digits after) (large : 0x10FFFF < Text.hexNumber digits) : form = .long := by
  have short : ¬ digits.length ≤ 4 := by
    intro four
    have bound : Text.hexNumber digits < 16 ^ 4 :=
      Nat.lt_of_lt_of_le digits.hexNumber_lt (Nat.pow_le_pow_right (by decide) four)
    omega
  cases form with
  | varying => exact absurd takes.few short
  | short => exact absurd takes.few short
  | long => rfl

private theorem TakesDigits.exists_token {form : NumberForm} {digits after : Text}
    (takes : TakesDigits form digits after) :
    ∃ value, Token after (.char '\\' :: .char form.letter :: digits) value := by
  cases found : CodePoint.ofNat? (Text.hexNumber digits) with
  | some c => exact ⟨[c], .number takes (CodePoint.ofNat?_eq_some_iff.1 found)⟩
  | none =>
    have large := CodePoint.ofNat?_eq_none_iff.1 found
    obtain rfl := takes.long_of_large large
    exact ⟨_, .tooLarge takes large⟩

private theorem exists_escape (rest : Text) :
    ∃ escape after value, rest = escape ++ after ∧ Token after (.char '\\' :: escape) value := by
  cases rest with
  | nil => exact ⟨[], [], _, rfl, .last rfl⟩
  | cons letter rest =>
    by_cases number : BeginsNumber letter rest
    · obtain ⟨form, rfl, enough⟩ := number
      obtain ⟨digits, after, rfl, takes⟩ := exists_digits form enough
      obtain ⟨value, token⟩ := takes.exists_token
      exact ⟨_, after, value, rfl, token⟩
    · by_cases simple : ∃ entry ∈ simpleEscapes, letter = .char entry.1
      · obtain ⟨⟨l, c⟩, known, rfl⟩ := simple
        exact ⟨[_], rest, _, rfl, .simple known⟩
      · refine ⟨[letter], rest, _, rfl, .unknown ?_ number⟩
        intro entry listed same
        exact simple ⟨entry, listed, same⟩

/-- Every text that is not empty begins with a token. -/
theorem exists_token {text : Text} (nonempty : text ≠ []) :
    ∃ written after value, text = written ++ after ∧ Token after written value := by
  obtain ⟨c, rest, rfl⟩ := List.exists_cons_of_ne_nil nonempty
  by_cases backslash : c = .char '\\'
  · obtain ⟨escape, after, value, rfl, token⟩ := exists_escape rest
    subst backslash
    exact ⟨_, after, value, rfl, token⟩
  · exact ⟨[c], rest, [c], rfl, .plain backslash⟩

theorem Token.ne_nil {after written value : Text} (token : Token after written value) : written ≠ [] := by
  cases token <;> exact List.cons_ne_nil _ _

private theorem Token.plain_or_escape {after written value : Text} (token : Token after written value) :
    (∃ c, c ≠ .char '\\' ∧ written = [c] ∧ value = [c]) ∨ ∃ escape, written = .char '\\' :: escape := by
  cases token with
  | plain other => exact .inl ⟨_, other, rfl, rfl⟩
  | _ => exact .inr ⟨_, rfl⟩

/-- Decoding takes the first token off and goes on behind it. -/
theorem Token.decode_append {after written value : Text} (token : Token after written value) :
    decode (written ++ after) = value ++ decode after := by
  rcases token.plain_or_escape with ⟨c, other, rfl, rfl⟩ | ⟨escape, rfl⟩
  · exact decode_cons_of_ne other after
  · rw [List.cons_append, decode_backslash, token.read_eq, List.drop_left]

/-- Two tokens at the start of the same text are the same token. -/
theorem Token.unique {after after' written written' value value' : Text} (token : Token after written value)
    (token' : Token after' written' value') (same : written ++ after = written' ++ after') :
    written = written' ∧ value = value' ∧ after = after' := by
  rcases token.plain_or_escape with ⟨c, other, rfl, rfl⟩ | ⟨escape, rfl⟩ <;>
    rcases token'.plain_or_escape with ⟨c', other', rfl, rfl⟩ | ⟨escape', rfl⟩
  · obtain ⟨rfl, rfl⟩ := List.cons.inj same
    exact ⟨rfl, rfl, rfl⟩
  · exact absurd (List.cons.inj same).1 other
  · exact absurd (List.cons.inj same).1.symm other'
  · have behind : escape ++ after = escape' ++ after' := (List.cons.inj same).2
    have read := token.read_eq
    rw [behind, token'.read_eq, Escape.mk.injEq] at read
    obtain ⟨rfl, rfl⟩ := List.append_inj behind read.2.symm
    exact ⟨rfl, read.1.symm, rfl⟩

/-! ### The tokens of a text -/

theorem exists_splits (text : Text) : ∃ pieces, Splits text pieces := by
  by_cases empty : text = []
  · rw [empty]
    exact ⟨[], .nil⟩
  · obtain ⟨written, after, value, split, token⟩ := exists_token empty
    have shorter : after.length < text.length := by
      have := List.length_pos_iff.2 token.ne_nil
      rw [split, List.length_append]
      omega
    obtain ⟨pieces, splits⟩ := exists_splits after
    rw [split]
    exact ⟨_, .cons token splits⟩
termination_by text.length

/-- No text can be taken apart in two ways: at every place one token fits, so no reading is a choice. -/
theorem Splits.unique {text : Text} {pieces others : List (Text × Text)} (splits : Splits text pieces)
    (splits' : Splits text others) : others = pieces := by
  induction splits generalizing others with
  | nil =>
    generalize same : ([] : Text) = text at splits'
    cases splits' with
    | nil => rfl
    | cons token _ => exact absurd (List.append_eq_nil_iff.1 same.symm).1 token.ne_nil
  | @cons written value after pieces token rest ih =>
    generalize same : written ++ after = text at splits'
    cases splits' with
    | nil => exact absurd (List.append_eq_nil_iff.1 same).1 token.ne_nil
    | cons token' rest' =>
      obtain ⟨rfl, rfl, rfl⟩ := token.unique token' same
      rw [ih rest']

/-- The decoded text is what the tokens denote, one after the other. -/
theorem Splits.decode_eq {text : Text} {pieces : List (Text × Text)} (splits : Splits text pieces) :
    decode text = pieces.flatMap Prod.snd := by
  induction splits with
  | nil => exact decode_nil
  | cons token _ ih => rw [token.decode_append, ih, List.flatMap_cons]

/-- Every text is a sequence of tokens in exactly one way, and is decoded to what they denote. -/
theorem decode_eq_token_values (text : Text) :
    ∃ pieces, Splits text pieces ∧ (∀ others, Splits text others → others = pieces) ∧
      decode text = pieces.flatMap Prod.snd := by
  obtain ⟨pieces, splits⟩ := exists_splits text
  refine ⟨pieces, splits, ?_, splits.decode_eq⟩
  intro others
  exact splits.unique

end SqlSurvey.Escape
