import SqlSurvey.Proofs.YamlCharacters

/-! # Reading YAML documents

A reader of the block style of YAML 1.1: block lists and records with simple names, empty lists and records in
brackets, and plain, quoted and literal scalars, with the meaning that the standard gives to their indentation, to
their line breaks and to plain words. Whatever else a document may hold is refused: comments, directives, markers of
documents, anchors, tags, other brackets, folded blocks, numbers that are not decimal integers, and dates. -/
namespace SqlSurvey.Yaml

/-! ### Lines -/

/-- The text with a line feed for each line break. The separators of lines and of paragraphs stay as they are. -/
def unifyBreaks : Text → Text
  | [] => []
  | .char '\r' :: .char '\n' :: rest => .char '\n' :: unifyBreaks rest
  | c :: rest => (if c = .char '\r' ∨ c = .char '\u0085' then .char '\n' else c) :: unifyBreaks rest

structure Place where
  column : Nat
  rest : Text

/-- The next character that is neither a space nor a break. -/
def skip (column : Nat) : Text → Place
  | [] => ⟨0, []⟩
  | c :: rest =>
    if isSpace c then skip (column + 1) rest
    else if isBreak c then skip 0 rest
    else ⟨column, c :: rest⟩

/-- What follows the end of a line on which nothing is left but spaces. -/
def lineEnd : Text → Option Text
  | [] => some []
  | c :: rest => if isSpace c then lineEnd rest else if isBreak c then some rest else none

def startsMarker (text : Text) : Bool :=
  ((Text.ofString "---").isPrefixOf text || (Text.ofString "...").isPrefixOf text) && startsSeparated (text.drop 3)

/-! ### Scalars over several lines -/

/-- What was read since the last character of a scalar: nothing, blanks, a break with the breaks after it, or the breaks
after an escaped one. -/
inductive Gap where
  | none
  | blanks (held : Text)
  | lines (first : CodePoint) (more : Text)
  | escaped (more : Text)

namespace Gap

/-- Blanks around a break mean nothing. -/
def addBlank (c : CodePoint) : Gap → Gap
  | none => blanks [c]
  | blanks held => blanks (held ++ [c])
  | lines first more => lines first more
  | escaped more => escaped more

def addBreak (c : CodePoint) : Gap → Gap
  | none | blanks _ => lines c []
  | lines first more => lines first (more ++ [c])
  | escaped more => escaped (more ++ [c])

/-- What a gap stands for. A line feed alone is a space, and the first of several breaks is dropped if it is one. -/
def text : Gap → Text
  | none => []
  | blanks held => held
  | lines first more =>
    if first ≠ .char '\n' then first :: more else if more.isEmpty then [.char ' '] else more
  | escaped more => more

def isNone : Gap → Bool
  | none => true
  | _ => false

def isLines : Gap → Bool
  | lines _ _ => true
  | _ => false

end Gap

def prepend {α : Type} (front : Text) (result : Option (Text × α)) : Option (Text × α) :=
  result.map fun (text, rest) => (front ++ text, rest)

/-! ### Plain scalars -/

def startsPlain : Text → Bool
  | [] => false
  | c :: rest =>
    if (Text.ofString "?:-").contains c then !startsSeparated rest
    else !separates c && !(Text.ofString "#,[]\x7b\x7d&*!|>'\"%@`").contains c

/-- Reads a plain scalar. It ends before a line that starts to the left of the least column; `column` is where the
next character stands if a break came before it. -/
def readPlain (least : Nat) (gap : Gap) (column : Nat) : Text → Option (Text × Place)
  | [] => some ([], ⟨0, []⟩)
  | c :: rest =>
    if isSpace c then readPlain least (gap.addBlank c) (column + 1) rest
    else if isBreak c then readPlain least (gap.addBreak c) 0 rest
    else if gap.isLines && column < least then some ([], ⟨column, c :: rest⟩)
    else if separates c || c == .char ':' && startsSeparated rest || c == .char '#' && !gap.isNone then none
    else prepend (gap.text ++ [c]) (readPlain least .none (column + 1) rest)

/-- The number of decimal digits without a zero in front. -/
def natural? (digits : Text) : Option Nat :=
  if digits.isEmpty || !digits.all CodePoint.isDigit || 1 < digits.length && digits.head? == some (.char '0') then none
  else some (Text.decimalNumber digits)

def decimal? : Text → Option Int
  | .char '-' :: digits => (natural? digits).map fun n => -Int.ofNat n
  | .char '+' :: digits => (natural? digits).map Int.ofNat
  | digits => (natural? digits).map Int.ofNat

def trueWord : Pattern :=
  .any (["yes", "Yes", "YES", "true", "True", "TRUE", "on", "On", "ON"].map .word)

def resolve (text : Text) : Option Value :=
  match decimal? text with
  | some n => some (.int n)
  | none =>
    if nullWord.fits text then some .null
    else if booleanWord.fits text then some (.bool (trueWord.fits text))
    else if reservedWord.fits text then none
    else some (.text text)

/-! ### Quoted scalars -/

def isBlank (c : CodePoint) : Bool := isSpace c || c == .char '\t'

def readSingle (gap : Gap) : Text → Option (Text × Text)
  | [] => none
  | c :: rest =>
    if c = .char '\'' then
      match rest with
      | .char '\'' :: rest => prepend (gap.text ++ [c]) (readSingle .none rest)
      | _ => some (gap.text, rest)
    else if isBlank c then readSingle (gap.addBlank c) rest
    else if isBreak c then if startsMarker rest then none else readSingle (gap.addBreak c) rest
    else prepend (gap.text ++ [c]) (readSingle .none rest)

def escapes : List (CodePoint × CodePoint) :=
  [(.char '0', .char '\x00'), (.char 'a', .char '\x07'), (.char 'b', .char '\x08'), (.char 't', .char '\t'),
   (.char '\t', .char '\t'), (.char 'n', .char '\n'), (.char 'v', .char '\x0b'), (.char 'f', .char '\x0c'),
   (.char 'r', .char '\r'), (.char 'e', .char '\x1b'), (.char ' ', .char ' '), (.char '"', .char '"'),
   (.char '/', .char '/'), (.char '\\', .char '\\'), (.char 'N', .char '\u0085'), (.char '_', .char '\u00a0'),
   (.char 'L', .char '\u2028'), (.char 'P', .char '\u2029')]

/-- The letters behind which the number of a character stands, with the count of its digits in base sixteen. -/
def codeLengths : List (CodePoint × Nat) := [(.char 'x', 2), (.char 'u', 4), (.char 'U', 8)]

/-- Between double quotes: in the text, behind a backslash, or in a number of which some digits are left. -/
inductive QuoteState where
  | within (gap : Gap)
  | escape
  | code (left : Nat) (value : Nat)

def readDouble : QuoteState → Text → Option (Text × Text)
  | _, [] => none
  | .within gap, c :: rest =>
    if c = .char '"' then some (gap.text, rest)
    else if c = .char '\\' then prepend gap.text (readDouble .escape rest)
    else if isBlank c then readDouble (.within (gap.addBlank c)) rest
    else if isBreak c then if startsMarker rest then none else readDouble (.within (gap.addBreak c)) rest
    else prepend (gap.text ++ [c]) (readDouble (.within .none) rest)
  | .escape, c :: rest =>
    if isBreak c then if startsMarker rest then none else readDouble (.within (.escaped [])) rest
    else match escapes.lookup c, codeLengths.lookup c with
      | some meant, _ => prepend [meant] (readDouble (.within .none) rest)
      | none, some length => readDouble (.code length 0) rest
      | none, none => none
  | .code left value, c :: rest =>
    match c.hexValue? with
    | none => none
    | some digit =>
      if left = 1 then
        match CodePoint.ofNat? (value * 16 + digit) with
        | some meant => prepend [meant] (readDouble (.within .none) rest)
        | none => none
      else readDouble (.code (left - 1) (value * 16 + digit)) rest

/-! ### Literal blocks -/

/-- What happens to the breaks at the end of a block: all are dropped, the first is kept, or all are. -/
inductive Chomping where
  | strip
  | clip
  | keep

def chomp : Chomping → Text → Text → Text
  | .strip, _, _ => []
  | .clip, ended, _ => ended
  | .keep, ended, empty => ended ++ empty

def takeSign : Text → Chomping × Text
  | .char '-' :: rest => (.strip, rest)
  | .char '+' :: rest => (.keep, rest)
  | text => (.clip, text)

def takeStep : Text → Option Nat × Text
  | [] => (none, [])
  | c :: rest => if c.isDigit && c != .char '0' then (some (c.toNat - 0x30), rest) else (none, c :: rest)

/-- The indentation and the ending that are asked for behind the mark of a block, in either order. -/
def readHints (text : Text) : Option Nat × Chomping × Text :=
  match takeStep text with
  | (some step, rest) => (some step, takeSign rest)
  | (none, _) =>
    let (chomping, rest) := takeSign text
    let (step, rest) := takeStep rest
    (step, chomping, rest)

/-- The greatest column of the spaces before the first line that has more than spaces. -/
def leadingColumn (column greatest : Nat) : Text → Nat
  | [] => greatest
  | c :: rest =>
    if isSpace c then leadingColumn (column + 1) (max greatest (column + 1)) rest
    else if isBreak c then leadingColumn 0 greatest rest
    else greatest

/-- In a block: in the indentation of a line, with the break that ended the last line of the text, if there was one,
and those of the empty lines after it; or in the text of a line. -/
inductive BlockState where
  | start (column : Nat) (ended empty : Text)
  | inside

/-- Reads the lines of a literal block. It ends before a line that starts to the left of its indentation. -/
def readLiteral (indent : Nat) (chomping : Chomping) : BlockState → Text → Text × Place
  | .start _ ended empty, [] => (chomp chomping ended empty, ⟨0, []⟩)
  | .inside, [] => ([], ⟨0, []⟩)
  | .start column ended empty, c :: rest =>
    if isBreak c then readLiteral indent chomping (.start 0 ended (empty ++ [c])) rest
    else if column < indent then
      if isSpace c then readLiteral indent chomping (.start (column + 1) ended empty) rest
      else (chomp chomping ended empty, ⟨column, c :: rest⟩)
    else
      let (text, place) := readLiteral indent chomping .inside rest
      (ended ++ empty ++ c :: text, place)
  | .inside, c :: rest =>
    if isBreak c then readLiteral indent chomping (.start 0 [c] []) rest
    else
      let (text, place) := readLiteral indent chomping .inside rest
      (c :: text, place)

def readBlock (least : Nat) (text : Text) : Option (Text × Place) :=
  let (step, chomping, rest) := readHints text
  (lineEnd rest).map fun body =>
    let indent := match step with
      | some step => max least 1 + step - 1
      | none => max (max least 1) (leadingColumn 0 0 body)
    readLiteral indent chomping (.start 0 [] []) body

/-! ### Documents -/

/-- A text that takes the rest of its line. -/
def closed (result : Option (Text × Text)) : Option (Value × Place) := do
  let (text, rest) ← result
  return (.text text, skip 0 (← lineEnd rest))

/-- Reads a scalar or an empty list or record, of which all lines but the first start at the least column. -/
def readInline (least : Nat) : Text → Option (Value × Place)
  | .char '[' :: .char ']' :: rest => (lineEnd rest).map fun rest => (.list [], skip 0 rest)
  | .char '\x7b' :: .char '\x7d' :: rest => (lineEnd rest).map fun rest => (.record [], skip 0 rest)
  | .char '\'' :: rest => closed (readSingle .none rest)
  | .char '"' :: rest => closed (readDouble (.within .none) rest)
  | .char '|' :: rest => (readBlock least rest).map fun (text, place) => (.text text, place)
  | text =>
    if startsPlain text then do
      let (text, place) ← readPlain least .none 0 text
      return (← resolve text, place)
    else none

def startsItem : Text → Bool
  | .char '-' :: rest => startsSeparated rest
  | _ => false

/-- The name of a field and what follows its colon. -/
def readName? (text : Text) : Option (Text × Text) :=
  let name := text.takeWhile nameCharacters.has
  match text.drop name.length with
  | .char ':' :: rest => if IsName name ∧ startsSeparated rest then some (name, rest) else none
  | _ => none

mutual
/-- Reads what starts at a place: a list, a record or a scalar. -/
def readNode : Nat → Nat → Place → Option (Value × Place)
  | 0, _, _ => none
  | fuel + 1, least, place =>
    if startsItem place.rest then
      (readItems fuel place.column place.rest).map fun (items, next) => (.list items, next)
    else if (readName? place.rest).isSome then
      (readFields fuel place.column [] place.rest).map fun (fields, next) => (.record fields, next)
    else readInline least place.rest

/-- Reads the items of a list whose dashes stand at a column. Without anything that starts to the right of the dash
an item is null. -/
def readItems : Nat → Nat → Text → Option (List Value × Place)
  | 0, _, _ => none
  | fuel + 1, column, text => do
    let start := skip (column + 1) (text.drop 1)
    let (item, next) ← if column < start.column then readNode fuel (column + 1) start else some (.null, start)
    if next.column = column && startsItem next.rest then
      let (items, last) ← readItems fuel column next.rest
      return (item :: items, last)
    else return ([item], next)

/-- Reads what a field at a column holds: on the line of its name a scalar, and below it whatever starts to the right
of the name, or a list at its column. -/
def readHeld : Nat → Nat → Text → Option (Value × Place)
  | 0, _, _ => none
  | fuel + 1, column, text =>
    match lineEnd text with
    | none => readInline (column + 1) (text.dropWhile isSpace)
    | some below =>
      let start := skip 0 below
      if column < start.column then readNode fuel (column + 1) start
      else if start.column = column && startsItem start.rest then
        (readItems fuel column start.rest).map fun (items, next) => (.list items, next)
      else some (.null, start)

/-- Reads the fields of a record whose names stand at a column; no name may come twice. -/
def readFields : Nat → Nat → List Text → Text → Option (List (Text × Value) × Place)
  | 0, _, _, _ => none
  | fuel + 1, column, seen, text => do
    let (name, rest) ← readName? text
    if seen.contains name then none
    else
      let (value, next) ← readHeld fuel column rest
      if next.column = column && !next.rest.isEmpty then
        let (fields, last) ← readFields fuel column (name :: seen) next.rest
        return ((name, value) :: fields, last)
      else return ([(name, value)], next)
end

def parse (text : Text) : Option Value :=
  let start := skip 0 (unifyBreaks text)
  if text.all printable.has && (startsItem start.rest || (readName? start.rest).isSome) then
    match readNode (3 * text.length + 3) 0 start with
    | some (value, last) => if last.rest.isEmpty then some value else none
    | none => none
  else none

end SqlSurvey.Yaml
