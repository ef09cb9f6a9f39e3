import SqlSurvey.CasedLetters
import SqlSurvey.UppercaseTable

/-! # Upper and lower case of a text

The full mappings: a letter may become several, and a capital sigma takes its final form where a cased
letter comes before it and none after it. -/
namespace SqlSurvey

/-- A number known to name a character; the tables hold no other. -/
private def codePointAt (n : Nat) : CodePoint := (CodePoint.ofNat? n).getD CodePoint.replacement

private def capitalSigma : CodePoint := .char 'Σ'

/-- Whether the nearest character that is not passed over is a cased letter. -/
def Text.startsCased (text : Text) : Bool :=
  match text.dropWhile caseIgnorable.has with
  | [] => false
  | c :: _ => casedLetters.has c

/-- The lower case of one letter, between the reversed text before it and the text after it. -/
def CodePoint.toLower (c : CodePoint) (before after : Text) : Text :=
  if c = capitalSigma then
    if before.startsCased && !after.startsCased then [.char 'ς'] else [.char 'σ']
  else if c = .char 'İ' then [.char 'i', codePointAt 0x307]
  else match CaseRun.find? lowercaseRuns c.toNat with
    | some n => [codePointAt n]
    | none => [c]

def Text.toLowerAfter (before : Text) : Text → Text
  | [] => []
  | c :: after => c.toLower before after ++ toLowerAfter (c :: before) after

def Text.toLower (text : Text) : Text := toLowerAfter [] text

def CodePoint.toUpper (c : CodePoint) : Text :=
  match uppercaseExpansions.lookup c.toNat with
  | some letters => letters.map codePointAt
  | none => match CaseRun.find? uppercaseRuns c.toNat with
    | some n => [codePointAt n]
    | none => [c]

def Text.toUpper (text : Text) : Text := text.flatMap CodePoint.toUpper

end SqlSurvey
