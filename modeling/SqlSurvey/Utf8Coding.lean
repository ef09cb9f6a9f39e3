import SqlSurvey.CodePoints

/-! # UTF-8

Bytes are decoded one at a time by a machine that either stands between characters or has begun one. What
cannot become a character gives one replacement character for each longest beginning of a well-formed
character. The main statement is that decoding undoes encoding. -/
namespace SqlSurvey

abbrev Bytes := List UInt8

namespace Utf8

/-- A character that has begun: the number its bytes give so far, how many bytes follow the next one, and
the range in which the next byte lies. -/
structure Begun where
  value : Nat
  more : Nat
  low : Nat
  high : Nat

inductive State where
  | between
  | inside (begun : Begun)

def first (byte : UInt8) : Text × State :=
  let b := byte.toNat
  if b < 0x80 then ([.char (Char.ofNat b)], .between)
  else if b < 0xC2 then ([CodePoint.replacement], .between)
  else if b < 0xE0 then ([], .inside ⟨b - 0xC0, 0, 0x80, 0xBF⟩)
  else if b = 0xE0 then ([], .inside ⟨0, 1, 0xA0, 0xBF⟩)
  else if b = 0xED then ([], .inside ⟨0xD, 1, 0x80, 0x9F⟩)
  else if b < 0xF0 then ([], .inside ⟨b - 0xE0, 1, 0x80, 0xBF⟩)
  else if b = 0xF0 then ([], .inside ⟨0, 2, 0x90, 0xBF⟩)
  else if b < 0xF4 then ([], .inside ⟨b - 0xF0, 2, 0x80, 0xBF⟩)
  else if b = 0xF4 then ([], .inside ⟨4, 2, 0x80, 0x8F⟩)
  else ([CodePoint.replacement], .between)

/-- What one more byte adds to the text. A byte that cannot continue a character begins the next one. -/
def step : State → UInt8 → Text × State
  | .between, byte => first byte
  | .inside begun, byte =>
    let b := byte.toNat
    if begun.low ≤ b ∧ b ≤ begun.high then
      let value := begun.value * 64 + (b - 0x80)
      match begun.more with
      | 0 => ([.char (Char.ofNat value)], .between)
      | more + 1 => ([], .inside ⟨value, more, 0x80, 0xBF⟩)
    else
      let (text, state) := first byte
      (CodePoint.replacement :: text, state)

def decodeFrom : State → Bytes → Text
  | .between, [] => []
  | .inside _, [] => [CodePoint.replacement]
  | state, byte :: rest =>
    let (text, next) := step state byte
    text ++ decodeFrom next rest

def decode (bytes : Bytes) : Text := decodeFrom .between bytes

def encodeChar (c : Char) : Bytes :=
  let n := c.toNat
  if n < 0x80 then [.ofNat n]
  else if n < 0x800 then [.ofNat (0xC0 + n / 64), .ofNat (0x80 + n % 64)]
  else if n < 0x10000 then
    [.ofNat (0xE0 + n / 4096), .ofNat (0x80 + n / 64 % 64), .ofNat (0x80 + n % 64)]
  else
    [.ofNat (0xF0 + n / 262144), .ofNat (0x80 + n / 4096 % 64), .ofNat (0x80 + n / 64 % 64),
      .ofNat (0x80 + n % 64)]

def encodeChars (chars : List Char) : Bytes := chars.flatMap encodeChar

/-- The number of bytes of a code point; a surrogate counts as three. -/
def pointSize : CodePoint → Nat
  | .char c => (encodeChar c).length
  | .surrogate _ => 3

def size (text : Text) : Nat := text.foldl (fun bytes c => bytes + pointSize c) 0

/-- The longest beginning of a text that has at most the given number of bytes. -/
def takeSize (bytes : Nat) : Text → Text
  | [] => []
  | c :: rest => if pointSize c ≤ bytes then c :: takeSize (bytes - pointSize c) rest else []

/-- What follows the shortest beginning of a text that has at least the given number of bytes. -/
def dropSize : Nat → Text → Text
  | 0, text => text
  | _ + 1, [] => []
  | bytes + 1, c :: rest => dropSize (bytes + 1 - pointSize c) rest

/-- A run of neighbouring surrogates in a text: where it starts, how long it is, and its head. -/
structure SurrogateRun where
  start : Nat
  length : Nat
  head : CodePoint
deriving DecidableEq

/-- The surrogates from the first that starts a run on, with positions counted from `position`. -/
def surrogateRun? (starts : CodePoint → Bool) (position : Nat) : Text → Option SurrogateRun
  | [] => none
  | c :: rest =>
    if starts c then some ⟨position, 1 + (rest.takeWhile CodePoint.isSurrogate).length, c⟩
    else surrogateRun? starts (position + 1) rest

private def scalars : Text → List Char
  | [] => []
  | .char c :: rest => c :: scalars rest
  | .surrogate _ :: rest => scalars rest

/-- The bytes of a text, or the first run of surrogates, which have none. -/
def encode (text : Text) : Except SurrogateRun Bytes :=
  match surrogateRun? CodePoint.isSurrogate 0 text with
  | some run => .error run
  | none => .ok (encodeChars (scalars text))

@[simp] private theorem scalars_char (chars : List Char) : scalars (chars.map .char) = chars := by
  induction chars with
  | nil => rfl
  | cons c rest ih => simp [scalars, ih]

theorem surrogateRun?_eq_none_iff {starts : CodePoint → Bool} {position : Nat} {text : Text} :
    surrogateRun? starts position text = none ↔ ∀ c ∈ text, starts c = false := by
  induction text generalizing position with
  | nil => simp [surrogateRun?]
  | cons c text ih =>
    rw [surrogateRun?, List.forall_mem_cons]
    cases starts c with
    | true => simp
    | false => simpa using ih

/-- A text of scalar values has bytes. -/
@[simp] theorem encode_char (chars : List Char) :
    encode (chars.map .char) = .ok (encodeChars chars) := by
  have plain : surrogateRun? CodePoint.isSurrogate 0 (chars.map .char) = none :=
    surrogateRun?_eq_none_iff.2 (by simp)
  simp [encode, plain]

private theorem toNat_ofNat_byte {n : Nat} (h : n < 256) : (UInt8.ofNat n).toNat = n := by
  simpa using Nat.mod_eq_of_lt h

private theorem decodeFrom_more {b low high : Nat} (value more : Nat) (rest : Bytes) (byte : b < 256)
    (range : low ≤ b ∧ b ≤ high) :
    decodeFrom (.inside ⟨value, more + 1, low, high⟩) (.ofNat b :: rest) =
      decodeFrom (.inside ⟨value * 64 + (b - 0x80), more, 0x80, 0xBF⟩) rest := by
  simp [decodeFrom, step, toNat_ofNat_byte byte, range]

private theorem decodeFrom_last {b low high value n : Nat} (rest : Bytes) (byte : b < 256)
    (range : low ≤ b ∧ b ≤ high) (number : value * 64 + (b - 0x80) = n) :
    decodeFrom (.inside ⟨value, 0, low, high⟩) (.ofNat b :: rest) =
      .char (Char.ofNat n) :: decodeFrom .between rest := by
  simp [decodeFrom, step, toNat_ofNat_byte byte, range, number]

private theorem decodeFrom_first {b : Nat} {begun : Begun} (rest : Bytes)
    (h : first (.ofNat b) = ([], .inside begun)) :
    decodeFrom .between (.ofNat b :: rest) = decodeFrom (.inside begun) rest := by
  simp [decodeFrom, step, h]

private theorem first_two {b : Nat} (low : 0xC2 ≤ b) (high : b < 0xE0) :
    first (.ofNat b) = ([], .inside ⟨b - 0xC0, 0, 0x80, 0xBF⟩) := by
  simp only [first, toNat_ofNat_byte (show b < 256 by omega)]
  rw [if_neg (by omega), if_neg (by omega), if_pos high]

/-- The range of the second byte of a character of three bytes. -/
private theorem first_three {b : Nat} (low : 0xE0 ≤ b) (high : b < 0xF0) :
    first (.ofNat b) = ([], .inside ⟨b - 0xE0, 1, if b = 0xE0 then 0xA0 else 0x80,
      if b = 0xED then 0x9F else 0xBF⟩) := by
  simp only [first, toNat_ofNat_byte (show b < 256 by omega)]
  rw [if_neg (by omega), if_neg (by omega), if_neg (by omega)]
  split
  · rename_i h; subst h; rfl
  · split
    · rename_i h; subst h; rfl
    · rfl

/-- The range of the second byte of a character of four bytes. -/
private theorem first_four {b : Nat} (low : 0xF0 ≤ b) (high : b < 0xF5) :
    first (.ofNat b) = ([], .inside ⟨b - 0xF0, 2, if b = 0xF0 then 0x90 else 0x80,
      if b = 0xF4 then 0x8F else 0xBF⟩) := by
  simp only [first, toNat_ofNat_byte (show b < 256 by omega)]
  rw [if_neg (by omega), if_neg (by omega), if_neg (by omega), if_neg (by omega), if_neg (by omega),
    if_neg (by omega)]
  split
  · rename_i h; subst h; rfl
  · split
    · rw [if_neg (show b ≠ 0xF4 by omega)]
    · have h : b = 0xF4 := by omega
      subst h
      rfl

/-- The bytes of a character decode to it, whatever follows. -/
theorem decodeFrom_encodeChar (c : Char) (rest : Bytes) :
    decodeFrom .between (encodeChar c ++ rest) = .char c :: decodeFrom .between rest := by
  have valid : c.toNat < 0xD800 ∨ 0xDFFF < c.toNat ∧ c.toNat < 0x110000 := c.valid
  have back : Char.ofNat c.toNat = c := Char.ofNat_toNat c
  simp only [encodeChar]
  generalize c.toNat = n at valid back
  split
  · rename_i one
    simp only [List.singleton_append, decodeFrom, step, first, toNat_ofNat_byte (show n < 256 by omega),
      if_pos one, back]
  · split
    · rw [List.cons_append, List.singleton_append, decodeFrom_first _ (first_two (by omega) (by omega)),
        decodeFrom_last (n := n) _ (by omega) (by omega) (by omega), back]
    · split
      · rw [List.cons_append, List.cons_append, List.singleton_append,
          decodeFrom_first _ (first_three (by omega) (by omega)),
          decodeFrom_more _ _ _ (by omega) (by split <;> split <;> omega),
          decodeFrom_last (n := n) _ (by omega) (by omega) (by omega), back]
      · rw [List.cons_append, List.cons_append, List.cons_append, List.singleton_append,
          decodeFrom_first _ (first_four (by omega) (by omega)),
          decodeFrom_more _ _ _ (by omega) (by split <;> split <;> omega),
          decodeFrom_more _ _ _ (by omega) (by omega),
          decodeFrom_last (n := n) _ (by omega) (by omega) (by omega), back]

/-- Decoding undoes encoding, whatever bytes follow. -/
theorem decodeFrom_encodeChars (chars : List Char) (rest : Bytes) :
    decodeFrom .between (encodeChars chars ++ rest) = chars.map .char ++ decodeFrom .between rest := by
  induction chars with
  | nil => rfl
  | cons c chars ih =>
    simp only [encodeChars, List.flatMap_cons, List.append_assoc, List.map_cons, List.cons_append] at ih ⊢
    rw [decodeFrom_encodeChar, ih]

/-- Encoded characters are decoded to themselves, without a replacement. -/
theorem decode_encodeChars (chars : List Char) : decode (encodeChars chars) = chars.map .char := by
  simpa [decode, decodeFrom] using decodeFrom_encodeChars chars []

end Utf8
end SqlSurvey
