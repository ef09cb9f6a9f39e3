import SqlSurvey.CodePointRanges

/-! # Patterns of whole texts

Regular patterns and their matching by derivatives: what a pattern still asks for after one code point. -/
namespace SqlSurvey

inductive Pattern where
  | never
  | nothing
  | among (ranges : CodePointRanges)
  | sequence (first second : Pattern)
  | either (first second : Pattern)
  | many (item : Pattern)

namespace Pattern

def acceptsEmpty : Pattern → Bool
  | never | among _ => false
  | nothing | many _ => true
  | sequence first second => first.acceptsEmpty && second.acceptsEmpty
  | either first second => first.acceptsEmpty || second.acceptsEmpty

/-- One pattern after the other, shortened where one of them is trivial. -/
def append : Pattern → Pattern → Pattern
  | never, _ => never
  | nothing, second => second
  | first, second => sequence first second

/-- One of two patterns, shortened where one of them is trivial. -/
def union : Pattern → Pattern → Pattern
  | never, second => second
  | first, never => first
  | first, second => either first second

/-- What the pattern asks for after a code point. -/
def after (c : CodePoint) : Pattern → Pattern
  | never | nothing => never
  | among ranges => if ranges.has c then nothing else never
  | sequence first second =>
    let through := (first.after c).append second
    if first.acceptsEmpty then through.union (second.after c) else through
  | either first second => (first.after c).union (second.after c)
  | many item => (item.after c).append (many item)

def fits (pattern : Pattern) (text : Text) : Bool := (text.foldl (fun p c => p.after c) pattern).acceptsEmpty

def optional (pattern : Pattern) : Pattern := either nothing pattern

def some (item : Pattern) : Pattern := sequence item (many item)

def oneOf (chars : String) : Pattern := among (chars.toList.map fun c => (c.toNat, c.toNat))

def range (first last : Char) : Pattern := among [(first.toNat, last.toNat)]

def word (chars : String) : Pattern :=
  chars.toList.foldr (fun c rest => sequence (range c c) rest) nothing

def all (patterns : List Pattern) : Pattern := patterns.foldr sequence nothing

def any (patterns : List Pattern) : Pattern := patterns.foldr either never

end Pattern
end SqlSurvey
