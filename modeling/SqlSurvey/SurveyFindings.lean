import SqlSurvey.FieldChecks
import SqlSurvey.TextSets

/-! # Findings of one file

The call sites, the query texts and the dependencies found in one file, with their readers from data values
and their data values. Lines are counted from one. -/
namespace SqlSurvey

structure CallSite where
  name : Text
  fileName : Text
  filePath : Text
  line : Positive
deriving DecidableEq

/-- The places at which a query text is looked for. -/
inductive FindingKind where
  | callArgument
  | fieldAssignment
  | constructorArgument
deriving DecidableEq

/-- A constant text found at such a place. -/
structure QueryFinding where
  kind : FindingKind
  tag : Text
  text : Text
  line : Positive
deriving DecidableEq

structure FileFindings where
  fileName : Text
  filePath : Text
  dependencies : TextSet
  callSites : List CallSite
  queries : List QueryFinding

/-- The name and the path under which a file is recorded, as they were given. -/
structure FileLabel where
  name : Checked Text
  path : Checked Text

namespace FileLabel

def ofTexts (name path : Text) : FileLabel := ⟨.ok name, .ok path⟩

def ofValues (name path : Value) : FileLabel := ⟨name.readText, path.readText⟩

/-- The name and the path as fields of a record, or the faults of both. -/
def check (label : FileLabel) : Checked (Text × Text) :=
  Checked.both (Checked.within (.field "file_name") label.name) (Checked.within (.field "file_path") label.path)

@[simp] theorem check_ofTexts (name path : Text) : (ofTexts name path).check = .ok (name, path) := rfl

end FileLabel

namespace CallSite

/-- A call site of a labelled file; a line before the first is refused. -/
def check (label : FileLabel) (name : Text) (line : Int) : Checked CallSite := do
  let ((fileName, filePath), line) ←
    Checked.both label.check (Checked.within (.field "line_number") (Value.positive line))
  return ⟨name, fileName, filePath, line⟩

def read (fields : Fields) : Checked CallSite := do
  let (name, fileName, filePath, line) ←
    Checked.both (fields.required "name" Value.readText) <|
    Checked.both (fields.required "file_name" Value.readText) <|
    Checked.both (fields.required "file_path" Value.readText) <|
    fields.required "line_number" Value.readPositive
  return ⟨name, fileName, filePath, line⟩

def toValue (site : CallSite) : Value :=
  .record [("name", .text site.name), ("file_name", .text site.fileName), ("file_path", .text site.filePath),
    ("line_number", .int site.line.val)]

end CallSite

namespace FindingKind

def name : FindingKind → Text
  | callArgument => "explicit-call-argument"
  | fieldAssignment => "field-assignment"
  | constructorArgument => "constructor-argument"

def read : Value → Checked FindingKind
  | .text t =>
    match [callArgument, fieldAssignment, constructorArgument].find? fun kind => kind.name == t with
    | some kind => .ok kind
    | none => Checked.refuse .notFindingKind
  | _ => Checked.refuse .notFindingKind

end FindingKind

namespace QueryFinding

def check (kind : FindingKind) (tag text : Text) (line : Int) : Checked QueryFinding := do
  let line ← Checked.within (.field "line_number") (Value.positive line)
  return ⟨kind, tag, text, line⟩

def read (fields : Fields) : Checked QueryFinding := do
  let (kind, tag, text, line) ←
    Checked.both (fields.required "kind" FindingKind.read) <|
    Checked.both (fields.required "tag" Value.readText) <|
    Checked.both (fields.required "text" Value.readText) <|
    fields.required "line_number" Value.readPositive
  return ⟨kind, tag, text, line⟩

def toValue (finding : QueryFinding) : Value :=
  .record [("kind", .text finding.kind.name), ("tag", .text finding.tag), ("text", .text finding.text),
    ("line_number", .int finding.line.val)]

end QueryFinding

namespace FileFindings

def read (fields : Fields) : Checked FileFindings := do
  let (fileName, filePath, dependencies, callSites, queries) ←
    Checked.both (fields.required "file_name" Value.readText) <|
    Checked.both (fields.required "file_path" Value.readText) <|
    Checked.both (fields.optional "dependencies" (.ok []) (Value.readItems .notSet Value.readText)) <|
    Checked.both (fields.optional "call_sites" (.ok [])
      (Value.readItems .notList (Value.readRecord "CallSite" CallSite.read))) <|
    fields.optional "query_texts" (.ok [])
      (Value.readItems .notList (Value.readRecord "QueryTextFinding" QueryFinding.read))
  return ⟨fileName, filePath, TextSet.ofList dependencies, callSites, queries⟩

def toValue (findings : FileFindings) : Value :=
  .record [("file_name", .text findings.fileName), ("file_path", .text findings.filePath),
    ("dependencies", .list (findings.dependencies.toList.map .text)),
    ("call_sites", .list (findings.callSites.map CallSite.toValue)),
    ("query_texts", .list (findings.queries.map QueryFinding.toValue))]

end FileFindings
end SqlSurvey
