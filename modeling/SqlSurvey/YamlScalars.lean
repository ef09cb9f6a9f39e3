import SqlSurvey.DigitTexts
import SqlSurvey.TextPatterns

/-! # Texts as YAML scalars

A text is written plain where a reader takes it for the same text, between single quotes where it has nothing
that needs an escape, and between double quotes otherwise. A text of several lines may be asked for as a
literal block. Long lines are folded at single spaces. -/
namespace SqlSurvey.Yaml

/-- A line is folded at the first chance behind this column. -/
def width : Nat := 4096

/-! ### Characters -/

def isBreak (c : CodePoint) : Bool :=
  c == .char '\n' || c == .char '\u0085' || c == .char '\u2028' || c == .char '\u2029'

def isSpace (c : CodePoint) : Bool := c == .char ' '

/-- What separates words for a reader: blanks, breaks and the null character. -/
def separates (c : CodePoint) : Bool :=
  isSpace c || isBreak c || c == .char '\t' || c == .char '\r' || c == .char '\x00'

/-- The characters that stand for themselves without quotes or between single ones, besides the line feed. -/
def ordinary : CodePointRanges :=
  [(0x20, 0x7E), (0x85, 0x85), (0xA0, 0xD7FF), (0xE000, 0xFEFE), (0xFF00, 0xFFFD), (0x10000, 0x10FFFE)]

/-- The characters that stand for themselves between double quotes, besides the quote and the backslash. -/
def unescaped : CodePointRanges :=
  [(0x20, 0x7E), (0xA0, 0x2027), (0x202A, 0xD7FF), (0xE000, 0xFEFE), (0xFF00, 0xFFFD)]

def isSpecial (c : CodePoint) : Bool := !(c == .char '\n' || ordinary.has c)

/-! ### What a reader would see in a plain text -/

def startsSeparated : Text → Bool
  | [] => true
  | c :: _ => separates c

/-- Whether a colon or a number sign inside the text reads as a mark; the first argument is the character
before. -/
def hasInnerMark : CodePoint → Text → Bool
  | _, [] => false
  | before, c :: rest =>
    c == .char ':' && startsSeparated rest || c == .char '#' && separates before || hasInnerMark c rest

/-- Whether a reader would take a part of the text for a mark. -/
def hasMark (text : Text) : Bool :=
  (Text.ofString "---").isPrefixOf text || (Text.ofString "...").isPrefixOf text ||
    match text with
    | [] => false
    | c :: rest =>
      (Text.ofString "#,[]\x7b\x7d&*!|>'\"%@`").contains c ||
        (Text.ofString "?:-").contains c && startsSeparated rest || hasInnerMark c rest

def hasNeighbours (first second : CodePoint → Bool) : Text → Bool
  | a :: b :: rest => first a && second b || hasNeighbours first second (b :: rest)
  | _ => false

def spaceAfterBreak (text : Text) : Bool := hasNeighbours isBreak isSpace text
def spaceBeforeBreak (text : Text) : Bool := hasNeighbours isSpace isBreak text

/-! ### Words that are not texts -/

section
open Pattern

private def digit : Pattern := range '0' '9'
private def sign : Pattern := optional (oneOf "-+")
private def digits : Pattern := many (oneOf "0123456789_")

/-- Groups of base sixty behind a colon. -/
private def sixties : Pattern := Pattern.some (all [word ":", optional (range '0' '5'), digit])

private def exponent : Pattern := optional (all [oneOf "eE", oneOf "-+", Pattern.some digit])

private def oneOrTwo : Pattern := all [digit, optional digit]

private def year : Pattern := all [digit, digit, digit, digit]

private def blanks : Pattern := oneOf " \t"

def booleanWord : Pattern :=
  any (["yes", "Yes", "YES", "no", "No", "NO", "true", "True", "TRUE", "false", "False", "FALSE", "on", "On",
    "ON", "off", "Off", "OFF"].map word)

def nullWord : Pattern := any ([ "", "~", "null", "Null", "NULL"].map word)

def integerWord : Pattern :=
  any [all [sign, word "0b", Pattern.some (oneOf "01_")],
    all [sign, word "0", Pattern.some (oneOf "01234567_")],
    all [sign, either (word "0") (all [range '1' '9', digits])],
    all [sign, word "0x", Pattern.some (oneOf "0123456789abcdefABCDEF_")],
    all [sign, range '1' '9', digits, sixties]]

def floatWord : Pattern :=
  any [all [sign, digit, digits, word ".", digits, exponent],
    all [word ".", digit, digits, exponent],
    all [sign, digit, digits, sixties, word ".", digits],
    all [sign, any ([".inf", ".Inf", ".INF"].map word)],
    any ([".nan", ".NaN", ".NAN"].map word)]

def timestampWord : Pattern :=
  any [all [year, word "-", digit, digit, word "-", digit, digit],
    all [year, word "-", oneOrTwo, word "-", oneOrTwo, either (oneOf "Tt") (Pattern.some blanks), oneOrTwo,
      word ":", digit, digit, word ":", digit, digit, optional (all [word ".", many digit]),
      optional (all [many blanks,
        either (word "Z") (all [oneOf "-+", oneOrTwo, optional (all [word ":", digit, digit])])])]]

/-- The texts that a reader takes for something other than a text. -/
def reservedWord : Pattern :=
  any [booleanWord, nullWord, integerWord, floatWord, timestampWord, word "<<", word "="]

end

/-! ### Styles -/

inductive Style where
  | plain
  | singleQuoted
  | doubleQuoted
  | literal
deriving DecidableEq

def allowsPlain (text : Text) : Bool :=
  !(text.isEmpty || text.any isBreak || text.any isSpecial ||
    (text.head?.any isSpace) || (text.getLast?.any isSpace) || hasMark text || reservedWord.fits text)

def allowsSingleQuotes (text : Text) : Bool :=
  !(spaceAfterBreak text || spaceBeforeBreak text || text.any isSpecial)

def allowsLiteral (text : Text) : Bool :=
  !(text.getLast?.any isSpace || spaceBeforeBreak text || text.any isSpecial)

/-- The style of a text; `block` asks for a literal block. -/
def styleOf (block : Bool) (text : Text) : Style :=
  if block then
    if allowsLiteral text then .literal else .doubleQuoted
  else if allowsPlain text then .plain
  else if allowsSingleQuotes text then .singleQuoted
  else .doubleQuoted

/-! ### Writing -/

def newLine (indent : Nat) : Text := .char '\n' :: List.replicate indent (.char ' ')

/-- The text in runs of spaces, of breaks and of other characters. -/
def runs (text : Text) : List Text := text.splitBy fun a b => isSpace a == isSpace b && isBreak a == isBreak b

/-- Whether the line is folded at a run: it is one space and the line is full. -/
def foldsAt (column : Nat) (run : Text) : Bool := run == [.char ' '] && width < column

def plainRuns (indent : Nat) : Nat → List Text → Text
  | _, [] => []
  | column, run :: rest =>
    if foldsAt column run then newLine indent ++ plainRuns indent indent rest
    else run ++ plainRuns indent (column + run.length) rest

/-- A run of breaks between single quotes: a first line feed is doubled, since one alone would be a fold. -/
def quotedBreaks (indent : Nat) (run : Text) : Text :=
  (if run.head? = some (.char '\n') then [.char '\n'] else []) ++ run ++ List.replicate indent (.char ' ')

/-- The runs of a text between single quotes from a column on; there is no fold at its first or last run. -/
def singleQuotedRuns (indent : Nat) (first : Bool) : Nat → List Text → Text
  | _, [] => []
  | column, run :: rest =>
    if run.any isBreak then quotedBreaks indent run ++ singleQuotedRuns indent false indent rest
    else if foldsAt column run && !first && !rest.isEmpty then
      newLine indent ++ singleQuotedRuns indent false indent rest
    else
      let doubled := run.flatMap fun c => if c = .char '\'' then [c, c] else [c]
      doubled ++ singleQuotedRuns indent false (column + doubled.length) rest

/-- The letter of a character that has one behind a backslash. -/
def escapeLetters : List (CodePoint × Char) :=
  [(.char '"', '"'), (.char '\\', '\\'), (.char '\x00', '0'), (.char '\x07', 'a'), (.char '\x08', 'b'),
   (.char '\t', 't'), (.char '\n', 'n'), (.char '\x0b', 'v'), (.char '\x0c', 'f'), (.char '\r', 'r'),
   (.char '\x1b', 'e'), (.char '\u0085', 'N'), (.char '\u00a0', '_'), (.char '\u2028', 'L'),
   (.char '\u2029', 'P')]

def upperHex (width n : Nat) : Text :=
  (Text.ofHex width n).map fun
    | .char c => .char c.toUpper
    | c => c

/-- The escape of a character, without its backslash. -/
def escapeBody (c : CodePoint) : Text :=
  match escapeLetters.lookup c with
  | some letter => [.char letter]
  | none =>
    if c.toNat ≤ 0xFF then .char 'x' :: upperHex 2 c.toNat
    else if c.toNat ≤ 0xFFFF then .char 'u' :: upperHex 4 c.toNat
    else .char 'U' :: upperHex 8 c.toNat

def needsEscape (c : CodePoint) : Bool := c == .char '"' || c == .char '\\' || !unescaped.has c

/-- A fold between double quotes before the given text: a space behind it is escaped. -/
def escapedFold (indent : Nat) (rest : Text) : Text :=
  .char '\\' :: newLine indent ++ if rest.head? = some (.char ' ') then [.char '\\'] else []

def columnAfterFold (indent : Nat) (rest : Text) : Nat :=
  if rest.head? = some (.char ' ') then indent + 1 else indent

/-- The characters of a text between double quotes from a column on. A fold is possible at a space and after
an escape; `fresh` says that an escape comes right before, and `first` that nothing does. -/
def doubleQuotedFrom (indent : Nat) (first fresh : Bool) (column : Nat) : Text → Text
  | [] => []
  | c :: rest =>
    let inside := !first && !rest.isEmpty
    if needsEscape c then
      let escape := .char '\\' :: escapeBody c
      if inside && width + 1 < column + escape.length then
        escape ++ escapedFold indent rest ++
          doubleQuotedFrom indent false true (columnAfterFold indent rest) rest
      else escape ++ doubleQuotedFrom indent false true (column + escape.length) rest
    else if inside && (isSpace c || fresh) && width < column then
      escapedFold indent (c :: rest) ++
        c :: doubleQuotedFrom indent false false (columnAfterFold indent (c :: rest) + 1) rest
    else c :: doubleQuotedFrom indent false false (column + 1) rest

/-- The hints behind the mark of a literal block: an indentation where the text starts with a space or a
break, and how many breaks it ends with. -/
def literalHints (step : Nat) (text : Text) : Text :=
  (if text.head?.any fun c => isSpace c || isBreak c then Text.ofNat step else []) ++
    match text.reverse with
    | [] => []
    | last :: before =>
      if !isBreak last then [.char '-']
      else if before.head?.all isBreak then [.char '+']
      else []

/-- The lines of a literal block; `start` says that a line starts here. -/
def literalLines (indent : Nat) (start : Bool) : Text → Text
  | [] => if start then [] else [.char '\n']
  | c :: rest =>
    if isBreak c then c :: literalLines indent true rest
    else (if start then List.replicate indent (.char ' ') else []) ++ c :: literalLines indent false rest

/-- A text from a column to the end of its line. `step` is the indentation of the document and `indent` the
indentation of lines that belong to the text. -/
def scalar (step indent column : Nat) (block : Bool) (text : Text) : Text :=
  match styleOf block text with
  | .plain => plainRuns indent column (runs text) ++ [.char '\n']
  | .singleQuoted =>
    .char '\'' :: singleQuotedRuns indent true (column + 1) (runs text) ++ Text.ofString "'\n"
  | .doubleQuoted => .char '"' :: doubleQuotedFrom indent true true (column + 1) text ++ Text.ofString "\"\n"
  | .literal => .char '|' :: literalHints step text ++ .char '\n' :: literalLines indent true text

end SqlSurvey.Yaml
