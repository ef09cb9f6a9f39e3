import SqlSurvey.BlankCharacters
import SqlSurvey.DigitTexts
import SqlSurvey.TextPieces

/-! # Integers in texts

A plain integer is a minus sign or nothing, then a zero alone or digits that begin with none. Other spellings
are read through the plain one they stand for: blanks around the number, a plus sign, leading zeros, single
underscores between digits, and a point with zeros after it. -/
namespace SqlSurvey

inductive IntegerProblem where
  | unreadable
  | oversized
deriving DecidableEq

namespace Text

/-- A natural number to the end of the text. Too many digits in front are a fault of their own, whatever follows
them. -/
def plainNatural : Text → Except IntegerProblem Nat
  | [.char '0'] => .ok 0
  | .char '0' :: _ => .error .unreadable
  | text =>
    let digits := text.takeWhile CodePoint.isDigit
    if maxDigits < digits.length then .error .oversized
    else if digits.isEmpty || digits.length < text.length then .error .unreadable
    else .ok (decimalNumber digits)

def plainInteger : Text → Except IntegerProblem Int
  | .char '-' :: rest => (plainNatural rest).map fun n => -(n : Int)
  | text => (plainNatural text).map fun n => (n : Int)

/-- What follows leading zeros and the underscores among them. The last of these stays where a point or nothing
follows; a minus sign counts as the beginning of what follows. -/
def afterZeros? (last : CodePoint) : Text → Option Text
  | [] => some [last]
  | c :: rest =>
    if c = .char '0' ∨ c = .char '_' then afterZeros? c rest
    else if c = .char '.' then some (last :: c :: rest)
    else if c.isDigit || c = .char '-' then some (c :: rest)
    else none

def withoutZeros? : Text → Option Text
  | [] => none
  | c :: rest =>
    if c = .char '0' then afterZeros? c rest
    else if c.isDigit then some (c :: rest)
    else none

/-- The text before a point, which only zeros may follow. -/
def withoutPlaces? (text : Text) : Option Text :=
  match text.dropWhile (· != .char '.') with
  | [] => some text
  | _ :: places =>
    if !places.isEmpty && places.all (· == .char '0') then some (text.takeWhile (· != .char '.')) else none

/-- The text without its underscores, if each of them stands alone between two other characters. -/
def withoutUnderscores (text : Text) : Text :=
  let groups := splitOn (.char '_') text
  if groups.all fun group => !group.isEmpty then groups.flatten else text

/-- The digits that an unsigned spelling stands for. -/
def plainDigits? (text : Text) : Option Text := do
  return withoutUnderscores (← withoutPlaces? (← withoutZeros? text))

def plainSpelling? (text : Text) : Option Text :=
  match text.trim isWhiteSpace with
  | .char '+' :: rest => plainDigits? rest
  | .char '-' :: rest => (plainDigits? rest).map (.char '-' :: ·)
  | rest => plainDigits? rest

/-- The integer that a text spells. Only a text with too many digits as it stands counts as oversized. -/
def integer (text : Text) : Except IntegerProblem Int :=
  match plainInteger text with
  | .ok n => .ok n
  | .error .oversized => .error .oversized
  | .error .unreadable =>
    match (plainSpelling? text).map plainInteger with
    | some (.ok n) => .ok n
    | _ => .error .unreadable

end Text
end SqlSurvey
