import SqlSurvey.DataValues
import SqlSurvey.DigitTexts

/-! # Values from JSON text

A reader of JSON documents. Two escapes that name the halves of a surrogate pair give one character; a lone
half stays a surrogate. -/
namespace SqlSurvey.Json

def isSpace (c : CodePoint) : Bool :=
  c == .char ' ' || c == .char '\n' || c == .char '\r' || c == .char '\t'

def skipSpace (text : Text) : Text := text.dropWhile isSpace

def fourDigits? (digits : Text) : Option Nat :=
  if digits.length = 4 ∧ digits.all CodePoint.isHex then some (Text.hexNumber digits) else none

def joinPair (high low : Nat) : Nat := 0x10000 + (high - 0xD800) * 0x400 + (low - 0xDC00)

private def codePoint (n : Nat) : CodePoint := (CodePoint.ofNat? n).getD CodePoint.replacement

/-- The low half that an escape at the start of the text names. -/
def lowHalf? : Text → Option Nat
  | .char '\\' :: .char 'u' :: rest =>
    (fourDigits? (rest.take 4)).filter fun n => 0xDC00 ≤ n ∧ n < 0xE000
  | _ => none

/-- The rest of a string after its opening quote: its characters, onto those already read in reverse, and
the text after its closing quote. The first argument counts code points that are already read. -/
def readString : Nat → Text → Text → Option (Text × Text)
  | _, _, [] => none
  | skip + 1, done, _ :: rest => readString skip done rest
  | 0, done, .char '"' :: rest => some (done.reverse, rest)
  | 0, done, .char '\\' :: rest =>
    match rest with
    | .char '"' :: _ => readString 1 (.char '"' :: done) rest
    | .char '\\' :: _ => readString 1 (.char '\\' :: done) rest
    | .char '/' :: _ => readString 1 (.char '/' :: done) rest
    | .char 'b' :: _ => readString 1 (.char '\x08' :: done) rest
    | .char 'f' :: _ => readString 1 (.char '\x0c' :: done) rest
    | .char 'n' :: _ => readString 1 (.char '\n' :: done) rest
    | .char 'r' :: _ => readString 1 (.char '\r' :: done) rest
    | .char 't' :: _ => readString 1 (.char '\t' :: done) rest
    | .char 'u' :: digits =>
      match fourDigits? (digits.take 4) with
      | none => none
      | some n =>
        match if 0xD800 ≤ n ∧ n < 0xDC00 then lowHalf? (digits.drop 4) else none with
        | some low => readString 11 (codePoint (joinPair n low) :: done) rest
        | none => readString 5 (codePoint n :: done) rest
    | _ => none
  | 0, done, c :: rest => if c.toNat < 0x20 then none else readString 0 (c :: done) rest

/-- An exponent at the start of the text, with the text after it. -/
def readExponent (text : Text) : Option (Int × Text) :=
  match text with
  | .char 'e' :: rest | .char 'E' :: rest =>
    let (negative, rest) := match rest with
      | .char '-' :: rest => (true, rest)
      | .char '+' :: rest => (false, rest)
      | rest => (false, rest)
    let digits := rest.takeWhile CodePoint.isDigit
    if digits.isEmpty then none
    else
      let n : Int := Text.decimalNumber digits
      some (if negative then -n else n, rest.dropWhile CodePoint.isDigit)
  | _ => none

/-- A number without its sign: an integer unless it has a fraction or an exponent. -/
def readUnsigned (text : Text) : Option (Value × Text) :=
  let whole := text.takeWhile CodePoint.isDigit
  let rest := text.dropWhile CodePoint.isDigit
  if whole.isEmpty ∨ (whole.head? = some (.char '0') ∧ whole.length ≠ 1) then none
  else match rest with
    | .char '.' :: rest =>
      let places := rest.takeWhile CodePoint.isDigit
      if places.isEmpty then none
      else
        let rest := rest.dropWhile CodePoint.isDigit
        let (exponent, rest) := (readExponent rest).getD (0, rest)
        some (.decimal (Text.decimalNumber (whole ++ places)) (exponent - places.length), rest)
    | rest => match readExponent rest with
      | some (exponent, rest) => some (.decimal (Text.decimalNumber whole) exponent, rest)
      | none => some (.int (Text.decimalNumber whole), rest)

def negate : Value → Value
  | .int n => .int (-n)
  | .decimal mantissa exponent => .decimal (-mantissa) exponent
  | value => value

def readNumber : Text → Option (Value × Text)
  | .char '-' :: rest => (readUnsigned rest).map fun (value, rest) => (negate value, rest)
  | text => readUnsigned text

def words : List (Text × Value) :=
  [(Text.ofString "null", .null), (Text.ofString "true", .bool true), (Text.ofString "false", .bool false)]

def readScalar (text : Text) : Option (Value × Text) :=
  match words.find? (·.1.isPrefixOf text) with
  | some (word, value) => some (value, text.drop word.length)
  | none => readNumber text

mutual
/-- A value at the start of the text, with the text after it. Each nested read uses up one unit of fuel. -/
def readValue : Nat → Text → Option (Value × Text)
  | 0, _ => none
  | fuel + 1, text =>
    match skipSpace text with
    | .char '"' :: rest => (readString 0 [] rest).map fun (t, rest) => (.text t, rest)
    | .char '[' :: rest =>
      match skipSpace rest with
      | .char ']' :: rest => some (.list [], rest)
      | rest => (readItems fuel rest).map fun (items, rest) => (.list items, rest)
    | .char '\x7b' :: rest =>
      match skipSpace rest with
      | .char '\x7d' :: rest => some (.record [], rest)
      | rest => (readFields fuel rest).map fun (fields, rest) => (.record fields, rest)
    | rest => readScalar rest

def readItems : Nat → Text → Option (List Value × Text)
  | 0, _ => none
  | fuel + 1, text =>
    match readValue fuel text with
    | none => none
    | some (item, rest) =>
      match skipSpace rest with
      | .char ',' :: rest => (readItems fuel rest).map fun (items, rest) => (item :: items, rest)
      | .char ']' :: rest => some ([item], rest)
      | _ => none

def readFields : Nat → Text → Option (List (Text × Value) × Text)
  | 0, _ => none
  | fuel + 1, text =>
    match skipSpace text with
    | .char '"' :: rest =>
      match readString 0 [] rest with
      | none => none
      | some (name, rest) =>
        match skipSpace rest with
        | .char ':' :: rest =>
          match readValue fuel rest with
          | none => none
          | some (value, rest) =>
            match skipSpace rest with
            | .char ',' :: rest =>
              (readFields fuel rest).map fun (fields, rest) => ((name, value) :: fields, rest)
            | .char '\x7d' :: rest => some ([(name, value)], rest)
            | _ => none
        | _ => none
    | _ => none
end

/-- The value of a whole document. Every nested read begins at a character of its own, so twice the length
of the text is fuel enough. -/
def parse (text : Text) : Option Value :=
  match readValue (2 * text.length + 2) text with
  | some (value, rest) => if (skipSpace rest).isEmpty then some value else none
  | none => none

end SqlSurvey.Json
