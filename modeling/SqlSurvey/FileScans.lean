import SqlSurvey.CallHeuristics
import SqlSurvey.ConstantTexts
import SqlSurvey.LineTables
import SqlSurvey.SurveyFindings

/-! # The scan of one file

One walk over a tree visits every node once, and each node contributes what its own shape shows. Query texts
are listed by rule: arguments of calls, then assignments, then constructions, each in document order. -/
namespace SqlSurvey

/-- What one node contributes. -/
structure Sightings where
  dependencies : List Text := []
  callSites : List CallSite := []
  callTexts : List QueryFinding := []
  assignmentTexts : List QueryFinding := []
  constructorTexts : List QueryFinding := []

namespace FileScan

/-- The query text of an expression, unless it has nothing but blanks. -/
def queryText (kind : FindingKind) (tag : Text) (line : Int) (expression : Node) :
    Checked (List QueryFinding) :=
  if Text.isBlank expression.constantText then .ok []
  else (QueryFinding.check kind tag expression.constantText line).map ([·])

def importedNames (clauses : List ImportClause) : List Text :=
  clauses.filterMap fun
    | .simple name => some name
    | .other => none

def commandTextTag : Text := "CommandText"
def constructorTag : Text := "SqlCommand Constructor"

def visit (settings : Settings) (tree : SourceTree) (label : FileLabel) (node : Node) : Checked Sightings :=
  let line := tree.lineOf node + 1
  match node.shape with
  | .imports clauses => .ok { dependencies := importedNames clauses }
  | .invocation callee arguments => do
    let site ← CallSite.check label callee.callName line
    let texts ←
      if settings.runsQuery callee.callName then
        arguments.mapM (queryText .callArgument callee.callName line)
      else .ok []
    return { callSites := [site], callTexts := texts.flatten }
  | .assignment left right =>
    if settings.setsCommandText left.text then do
      let texts ← queryText .fieldAssignment commandTextTag line right
      return { assignmentTexts := texts }
    else .ok {}
  | .construction typeName arguments _ =>
    if settings.isCommandType typeName then do
      let texts ←
        match arguments.getD [] with
        | [] => .ok []
        | first :: _ => queryText .constructorArgument constructorTag line first
      return { dependencies := [settings.impliedDependency], constructorTexts := texts }
    else .ok {}
  | _ => .ok {}

/-- Scans a tree. The first record that cannot be made ends the scan with its faults. -/
def scan (settings : Settings) (tree : SourceTree) (label : FileLabel) : Checked FileFindings := do
  let sightings ← tree.root.walk.mapM (visit settings tree label)
  let (fileName, filePath) ← label.check
  return {
    fileName, filePath
    dependencies := TextSet.ofList (sightings.flatMap Sightings.dependencies)
    callSites := sightings.flatMap Sightings.callSites
    queries := sightings.flatMap Sightings.callTexts ++ sightings.flatMap Sightings.assignmentTexts ++
      sightings.flatMap Sightings.constructorTexts }

end FileScan
end SqlSurvey
