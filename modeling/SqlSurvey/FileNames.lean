import SqlSurvey.DigitTexts
import SqlSurvey.Utf8Coding

/-! # Names as the file system has them

Files are named by bytes. In a text, a byte that belongs to no character is an escape, one of the surrogates U+DC80 to
U+DCFF; no other surrogate stands for bytes. Escapes that spell a character stand for the same bytes as the character,
and the file system gives its names without such spellings. -/
namespace SqlSurvey

namespace CodePoint

/-- The byte that an escape stands for. -/
def escapedByte? : CodePoint → Option UInt8
  | .char _ => none
  | .surrogate offset =>
    if 0x480 ≤ offset.val ∧ offset.val < 0x500 then some (.ofNat (offset.val - 0x400)) else none

def hasNoBytes (c : CodePoint) : Bool := c.isSurrogate && c.escapedByte?.isNone

def bytesInName : CodePoint → Nat
  | .char c => (Utf8.encodeChar c).length
  | .surrogate _ => 1

end CodePoint

def Utf8.SurrogateRun.message (run : SurrogateRun) : Text :=
  if run.length = 1 then
    Text.ofString "'utf-8' codec can't encode character '\\u" ++ Text.ofHex 4 run.head.toNat ++
      Text.ofString "' in position " ++ Text.ofNat run.start ++ Text.ofString ": surrogates not allowed"
  else
    Text.ofString "'utf-8' codec can't encode characters in position " ++ Text.ofNat run.start ++ .char '-' ::
      Text.ofNat (run.start + run.length - 1) ++ Text.ofString ": surrogates not allowed"

inductive NameFault where
  | surrogates (run : Utf8.SurrogateRun)
  | embeddedNull
deriving DecidableEq

def NameFault.message : NameFault → Text
  | surrogates run => run.message
  | embeddedNull => Text.ofString "embedded null byte"

namespace Text

/-- Surrogates are complained of before a null character. -/
def nameFault? (text : Text) : Option NameFault :=
  match Utf8.surrogateRun? CodePoint.hasNoBytes 0 text with
  | some run => some (.surrogates run)
  | none => if text.contains (.char '\x00') then some .embeddedNull else none

def bytesInName (text : Text) : Nat := text.foldl (fun bytes c => bytes + c.bytesInName) 0

/-- The character that escapes spell. -/
def spelledCharacter? (escapes : Text) : Option Char := do
  let bytes ← escapes.mapM CodePoint.escapedByte?
  match Utf8.decode bytes with
  | [.char c] => if Utf8.encodeChar c = bytes then some c else none
  | _ => none

/-- The character that the first escapes of a text spell, with their number. -/
def firstSpelled? (text : Text) : Option (Char × Nat) :=
  [2, 3, 4].findSome? fun count => (spelledCharacter? (text.take count)).map (·, count)

/-- The text with its spelled characters as themselves, after the rest of one that was met before. -/
def nameFrom : Nat → Text → Text
  | _, [] => []
  | skipped + 1, _ :: rest => nameFrom skipped rest
  | 0, c :: rest =>
    match firstSpelled? (c :: rest) with
    | some (spelled, count) => .char spelled :: nameFrom (count - 1) rest
    | none => c :: nameFrom 0 rest

/-- The name that the file system gives to what a text names. -/
def asFileName (text : Text) : Text := nameFrom 0 text

end Text
end SqlSurvey
