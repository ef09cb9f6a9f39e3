import SqlSurvey.DigitTexts
import SqlSurvey.Utf8Coding

/-! # Text for a terminal

Messages are shown one to a line. Sequences that style the text of a terminal are taken out first, and a line
with surrogates cannot be shown: it ends the output, and the lines before it stay. -/
namespace SqlSurvey.Terminal

def escape : CodePoint := .char '\x1b'

/-- The code points between the bracket and the final letter of a styling sequence. -/
def isParameter (c : CodePoint) : Bool := c.isDigit || c == .char ';' || c == .char '?'

def isFinal : CodePoint → Bool
  | .char c => c.isAlpha
  | .surrogate _ => false

/-- Text without styling sequences. The part of a sequence that was read is held back, last code point first,
until it is known to be complete. -/
def unstyledAfter (held : Text) : Text → Text
  | [] => held.reverse
  | c :: rest =>
    match held with
    | [] => if c = escape then unstyledAfter [c] rest else c :: unstyledAfter [] rest
    | [_] =>
      if c = .char '[' then unstyledAfter (c :: held) rest
      else held.reverse ++ if c = escape then unstyledAfter [c] rest else c :: unstyledAfter [] rest
    | _ =>
      if isParameter c then unstyledAfter (c :: held) rest
      else if isFinal c then unstyledAfter [] rest
      else held.reverse ++ if c = escape then unstyledAfter [c] rest else c :: unstyledAfter [] rest

def unstyled (text : Text) : Text := unstyledAfter [] text

def line (message : Text) : Text := unstyled (message ++ [.char '\n'])

/-- What is shown of messages: the lines before the first with surrogates, and that line's first run of them. -/
def shown : List Text → Text × Option Utf8.SurrogateRun
  | [] => ([], none)
  | message :: messages =>
    match Utf8.surrogateRun? CodePoint.isSurrogate 0 (line message) with
    | some run => ([], some run)
    | none =>
      let (rest, run) := shown messages
      (line message ++ rest, run)

end SqlSurvey.Terminal
