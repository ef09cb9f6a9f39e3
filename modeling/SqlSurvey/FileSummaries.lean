import SqlSurvey.LetterCase
import SqlSurvey.SurveyFindings
import SqlSurvey.SurveySettings

/-! # Summaries of one file

The findings of a file as a report shows them: sorted dependencies, the calls made most often, and every
query text with a preview and what it seems to do. -/
namespace SqlSurvey

/-- The beginning of a text and whether something was cut. A negative length leaves that many characters
off the end. -/
def Text.preview (length : Int) (text : Text) : Text × Bool :=
  if length < text.length then (sliceTo text length ++ Text.ofString "...", true) else (text, false)

def Text.mentionsExec (text : Text) : Bool :=
  Text.hasInfix (Text.ofString "exec") (text.map CodePoint.asciiLower)

/-- The procedure that a text names if it starts with `sp_` in any case: all up to a space or a
parenthesis. -/
def Text.storedProcedure? (text : Text) : Option Text :=
  if Text.toLower (text.take 3) = Text.ofString "sp_" then
    some (text.takeWhile fun c => c != .char ' ' && c != .char '(')
  else none

structure CallTally where
  name : Text
  count : Positive
deriving DecidableEq

structure QueryEntry where
  line : Positive
  kind : FindingKind
  tag : Text
  text : Text
  preview : Text
  truncated : Bool
  mentionsExec : Bool
  storedProcedure : Option Text
deriving DecidableEq

structure FileSummary where
  fileName : Text
  filePath : Text
  dependencies : List Text
  callCount : Nat
  topCalls : List CallTally
  queries : List QueryEntry
deriving DecidableEq

namespace CallTally

/-- One more call of a name: its tally grows, or a new one starts behind the others. -/
def add (name : Text) : List CallTally → List CallTally
  | [] => [⟨name, .one⟩]
  | tally :: tallies =>
    if tally.name = name then ⟨name, tally.count.succ⟩ :: tallies else tally :: add name tallies

def ofNames (names : List Text) : List CallTally := names.foldl (fun tallies name => add name tallies) []

/-- The tallies by falling count; equal counts stay in order. -/
def ranked (tallies : List CallTally) : List CallTally := tallies.mergeSort fun a b => b.count.val ≤ a.count.val

def read (fields : Fields) : Checked CallTally := do
  let (name, count) ←
    Checked.both (fields.required "name" Value.readText) (fields.required "count" Value.readPositive)
  return ⟨name, count⟩

def toValue (tally : CallTally) : Value := .record [("name", .text tally.name), ("count", .int tally.count.val)]

end CallTally

namespace QueryEntry

def ofFinding (previewLength : Int) (finding : QueryFinding) : QueryEntry where
  line := finding.line
  kind := finding.kind
  tag := finding.tag
  text := finding.text
  preview := (Text.preview previewLength finding.text).1
  truncated := (Text.preview previewLength finding.text).2
  mentionsExec := Text.mentionsExec finding.text
  storedProcedure := Text.storedProcedure? finding.text

def read (fields : Fields) : Checked QueryEntry := do
  let (line, kind, tag, text, preview, truncated, mentionsExec, storedProcedure) ←
    Checked.both (fields.required "line_number" Value.readPositive) <|
    Checked.both (fields.required "kind" FindingKind.read) <|
    Checked.both (fields.required "tag" Value.readText) <|
    Checked.both (fields.required "text" Value.readText) <|
    Checked.both (fields.required "preview" Value.readText) <|
    Checked.both (fields.optional "truncated" (.ok false) Value.readBool) <|
    Checked.both (fields.optional "contains_exec" (.ok false) Value.readBool) <|
    fields.optional "stored_procedure" (.ok none) Value.readOptionalText
  return ⟨line, kind, tag, text, preview, truncated, mentionsExec, storedProcedure⟩

def toValue (entry : QueryEntry) : Value :=
  .record [("line_number", .int entry.line.val), ("kind", .text entry.kind.name), ("tag", .text entry.tag),
    ("text", .text entry.text), ("preview", .text entry.preview), ("truncated", .bool entry.truncated),
    ("contains_exec", .bool entry.mentionsExec),
    ("stored_procedure", (entry.storedProcedure.map Value.text).getD .null)]

end QueryEntry

namespace FileSummary

def ofFindings (settings : Settings) (findings : FileFindings) : FileSummary where
  fileName := findings.fileName
  filePath := findings.filePath
  dependencies := findings.dependencies.toList
  callCount := findings.callSites.length
  topCalls := (CallTally.ranked (CallTally.ofNames (findings.callSites.map CallSite.name))).take
    settings.fileTopCalls
  queries := findings.queries.map (QueryEntry.ofFinding settings.previewLength)

def read (fields : Fields) : Checked FileSummary := do
  let (fileName, filePath, dependencies, callCount, topCalls, queries) ←
    Checked.both (fields.required "file_name" Value.readText) <|
    Checked.both (fields.required "file_path" Value.readText) <|
    Checked.both (fields.optional "dependencies" (.ok []) (Value.readItems .notList Value.readText)) <|
    Checked.both (fields.optional "call_count" (.ok 0) (Value.readAtLeast 0)) <|
    Checked.both (fields.optional "top_calls" (.ok [])
      (Value.readItems .notList (Value.readRecord "CallGroup" CallTally.read))) <|
    fields.optional "queries" (.ok [])
      (Value.readItems .notList (Value.readRecord "FlaggedQuery" QueryEntry.read))
  return ⟨fileName, filePath, dependencies, callCount, topCalls, queries⟩

def toValue (summary : FileSummary) : Value :=
  .record [("file_name", .text summary.fileName), ("file_path", .text summary.filePath),
    ("dependencies", .list (summary.dependencies.map .text)),
    ("call_count", .int summary.callCount),
    ("top_calls", .list (summary.topCalls.map CallTally.toValue)),
    ("queries", .list (summary.queries.map QueryEntry.toValue))]

end FileSummary
end SqlSurvey
