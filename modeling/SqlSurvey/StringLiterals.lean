import SqlSurvey.BlankCharacters
import SqlSurvey.DigitTexts

/-! # The values of string literals

A regular literal has escapes, a verbatim one has doubled quotes, and a raw one has a run of quotes on each
side and, over several lines, an indentation that is not part of its value. -/
namespace SqlSurvey

/-- What a backslash begins: the text it denotes, and how many code points after the backslash belong to it. -/
structure Escape where
  value : Text
  length : Nat
deriving DecidableEq

namespace Escape

private def backslash : CodePoint := .char '\\'

def simple? : CodePoint → Option Char
  | .char '\'' => some '\''
  | .char '"' => some '"'
  | .char '\\' => some '\\'
  | .char '0' => some '\x00'
  | .char 'a' => some '\x07'
  | .char 'b' => some '\x08'
  | .char 'e' => some '\x1b'
  | .char 'f' => some '\x0c'
  | .char 'n' => some '\n'
  | .char 'r' => some '\r'
  | .char 't' => some '\t'
  | .char 'v' => some '\x0b'
  | _ => none

/-- The escape of one letter; an unknown one denotes itself, backslash included. -/
def ofLetter (letter : CodePoint) : Escape :=
  match simple? letter with
  | some c => ⟨[.char c], 1⟩
  | none => ⟨[backslash, letter], 1⟩

/-- The escape of a letter and digits. A number that is no code point denotes the escape as written. -/
def ofNumber (letter : CodePoint) (digits : Text) : Escape :=
  match CodePoint.ofNat? (Text.hexNumber digits) with
  | some c => ⟨[c], 1 + digits.length⟩
  | none => ⟨backslash :: letter :: digits, 1 + digits.length⟩

/-- The escape of a letter and exactly `count` digits, or of the letter alone where there are fewer. -/
def ofDigits (count : Nat) (letter : CodePoint) (rest : Text) : Escape :=
  let digits := (rest.take count).takeWhile CodePoint.isHex
  if digits.length = count then ofNumber letter digits else ofLetter letter

/-- Reads the escape whose backslash stands before the text. A backslash at the end denotes itself. -/
def read : Text → Escape
  | [] => ⟨[backslash], 0⟩
  | .char 'x' :: rest =>
    let digits := (rest.take 4).takeWhile CodePoint.isHex
    if digits.isEmpty then ofLetter (.char 'x') else ofNumber (.char 'x') digits
  | .char 'u' :: rest => ofDigits 4 (.char 'u') rest
  | .char 'U' :: rest => ofDigits 8 (.char 'U') rest
  | letter :: _ => ofLetter letter

/-- The text with every escape replaced by what it denotes. Numbers stay single code points: two surrogates
side by side are not joined. -/
def decode : Text → Text
  | [] => []
  | c :: rest =>
    if c = backslash then
      let escape := read rest
      escape.value ++ decode (rest.drop escape.length)
    else c :: decode rest
termination_by text => text.length
decreasing_by all_goals simp only [List.length_drop, List.length_cons]; omega

@[simp] theorem decode_nil : decode [] = [] := by rw [decode]

theorem decode_cons_of_ne {c : CodePoint} (other : c ≠ .char '\\') (rest : Text) :
    decode (c :: rest) = c :: decode rest := by
  rw [decode]
  exact if_neg other

theorem decode_backslash (rest : Text) :
    decode (.char '\\' :: rest) = (read rest).value ++ decode (rest.drop (read rest).length) := by
  rw [decode]
  exact if_pos rfl

end Escape

inductive LiteralForm where
  | regular
  | verbatim
  | raw
deriving DecidableEq

namespace LiteralForm

private def quote : CodePoint := .char '"'

/-- Two quotes side by side stand for one. -/
def singleQuotes : Text → Text
  | .char '"' :: .char '"' :: rest => quote :: singleQuotes rest
  | c :: rest => c :: singleQuotes rest
  | [] => []

/-- A line of a raw literal without the indentation; a blank line is empty. -/
def rawLine (indentation line : Text) : Text :=
  if line.isBlank then [] else Text.withoutStart indentation line

/-- The lines of a raw literal between its first and its last, whose text is the indentation. -/
def rawLines (lines : List Text) : Text :=
  let indentation := lines.getLastD []
  Text.joinWith [.char '\n'] ((lines.drop 1).dropLast.map (rawLine indentation))

/-- The value of a raw literal as written. Without quotes around it there is nothing inside it. -/
def rawValue (text : Text) : Text :=
  let quotes := (text.takeWhile (· == quote)).length
  let body := slice text quotes (-quotes)
  if body.contains (.char '\n') then
    rawLines ((Text.splitOn (.char '\n') body).map (Text.withoutEnd [.char '\r']))
  else body

/-- A literal as written, without the suffixes that name its encoding. -/
def withoutEncoding (text : Text) : Text :=
  Text.withoutEnd (Text.ofString "U8") (Text.withoutEnd (Text.ofString "u8") text)

def value (form : LiteralForm) (text : Text) : Text :=
  let text := withoutEncoding text
  match form with
  | .regular => Escape.decode (slice text 1 (-1))
  | .verbatim => singleQuotes (slice text 2 (-1))
  | .raw => rawValue text

end LiteralForm
end SqlSurvey
