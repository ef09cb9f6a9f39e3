import SqlSurvey.DigitTexts
import SqlSurvey.PrintableCharacters

/-! # Quoted text in messages

A message shows a text between quotes, with what cannot be printed as an escape. Double quotes are used only
where the text has a single quote and no double one. -/
namespace SqlSurvey

namespace Text

private def escapeWith (letter : Char) (width n : Nat) : Text :=
  .char '\\' :: .char letter :: ofHex width n

/-- A character between the given quotes. -/
def quoteCharacter (quote : CodePoint) (c : CodePoint) : Text :=
  if c = quote ∨ c = .char '\\' then [.char '\\', c]
  else if c = .char '\t' then [.char '\\', .char 't']
  else if c = .char '\n' then [.char '\\', .char 'n']
  else if c = .char '\r' then [.char '\\', .char 'r']
  else if isPrintable c then [c]
  else if c.toNat ≤ 0xFF then escapeWith 'x' 2 c.toNat
  else if c.toNat ≤ 0xFFFF then escapeWith 'u' 4 c.toNat
  else escapeWith 'U' 8 c.toNat

def quoted (text : Text) : Text :=
  let quote : CodePoint :=
    if text.contains (.char '\'') && !text.contains (.char '"') then .char '"' else .char '\''
  quote :: text.flatMap (quoteCharacter quote) ++ [quote]

end Text
end SqlSurvey
