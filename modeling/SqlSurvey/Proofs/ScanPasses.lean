import Mathlib.Data.List.Infix
import SqlSurvey.FileScans

/-! # One scan, four passes

The scan visits every node once and lets each node contribute to all lists. The same lists come from passes of
their own over the nodes in their recursive order: one for the call sites, and one for each rule about query
texts. A pass lists its records with any line, also with one before the first. The scan succeeds exactly if no
pass lists such a line. -/
namespace SqlSurvey

/-- A call site with any line. -/
structure ListedSite where
  name : Text
  fileName : Text
  filePath : Text
  line : Int

/-- A query text with any line. -/
structure ListedText where
  kind : FindingKind
  tag : Text
  text : Text
  line : Int

def CallSite.listed (site : CallSite) : ListedSite := ⟨site.name, site.fileName, site.filePath, site.line.val⟩

def QueryFinding.listed (finding : QueryFinding) : ListedText :=
  ⟨finding.kind, finding.tag, finding.text, finding.line.val⟩

namespace Node

/-- The nodes whose shape has a part of interest, each with that part. -/
def records {α : Type} (part? : Shape Node → Option α) (nodes : List Node) : List (Node × α) :=
  nodes.filterMap fun node => (part? node.shape).map (node, ·)

def invocations : List Node → List (Node × Node × List Node) :=
  records fun
    | .invocation callee arguments => some (callee, arguments)
    | _ => none

def assignments : List Node → List (Node × Node × Node) :=
  records fun
    | .assignment left right => some (left, right)
    | _ => none

def constructions : List Node → List (Node × Text × List Node) :=
  records fun
    | .construction typeName arguments _ => some (typeName, arguments.getD [])
    | _ => none

def importClauses (nodes : List Node) : List ImportClause :=
  nodes.flatMap fun node =>
    match node.shape with
    | .imports clauses => clauses
    | _ => []

/-- Whether the constant text of an expression has something but blanks. -/
def hasQueryText (expression : Node) : Bool := !Text.isBlank expression.constantText

section Records

variable {α : Type} (part? : Shape Node → Option α)

@[simp] theorem records_nil : records part? [] = [] := rfl

@[simp] theorem records_singleton (node : Node) :
    records part? [node] = ((part? node.shape).map (node, ·)).toList := by
  cases found : part? node.shape with
  | none => simp [records, found]
  | some part => simp [records, found]

@[simp] theorem records_append (nodes more : List Node) :
    records part? (nodes ++ more) = records part? nodes ++ records part? more :=
  List.filterMap_append

variable {part?}

theorem mem_of_mem_records {nodes : List Node} {record : Node × α} (h : record ∈ records part? nodes) :
    record.1 ∈ nodes := by
  obtain ⟨node, inside, found⟩ := List.mem_filterMap.1 h
  obtain ⟨part, -, rfl⟩ := Option.map_eq_some_iff.1 found
  exact inside

theorem pairwise_records {r : Node → Node → Prop} {nodes : List Node} (h : nodes.Pairwise r) :
    (records part? nodes).Pairwise fun a b => r a.1 b.1 := by
  rw [records, List.pairwise_filterMap]
  refine h.imp ?_
  intro a b related record made record' made'
  obtain ⟨part, -, rfl⟩ := Option.map_eq_some_iff.1 made
  obtain ⟨part', -, rfl⟩ := Option.map_eq_some_iff.1 made'
  exact related

end Records

end Node

namespace FileScan

variable (settings : Settings) (tree : SourceTree)

def sitePass (fileName filePath : Text) (nodes : List Node) : List ListedSite :=
  (Node.invocations nodes).map fun (node, callee, _) =>
    ⟨callee.callName, fileName, filePath, tree.lineOf node + 1⟩

def argumentPass (nodes : List Node) : List ListedText :=
  ((Node.invocations nodes).filter fun (_, callee, _) =>
    settings.executionFragments.any fun fragment => fragment <:+: callee.callName).flatMap
      fun (node, callee, arguments) => (arguments.filter Node.hasQueryText).map fun argument =>
        ⟨.callArgument, callee.callName, argument.constantText, tree.lineOf node + 1⟩

def assignmentPass (nodes : List Node) : List ListedText :=
  ((Node.assignments nodes).filter fun (_, left, right) =>
    settings.commandTextMarker <:+: left.text && right.hasQueryText).map fun (node, _, right) =>
      ⟨.fieldAssignment, Text.ofString "CommandText", right.constantText, tree.lineOf node + 1⟩

def constructionPass (nodes : List Node) : List ListedText :=
  ((Node.constructions nodes).filter fun (_, typeName, _) =>
    settings.commandTypeMarkers.any fun marker => marker <:+: typeName).flatMap
      fun (node, _, arguments) => ((arguments.take 1).filter Node.hasQueryText).map fun first =>
        ⟨.constructorArgument, Text.ofString "SqlCommand Constructor", first.constantText, tree.lineOf node + 1⟩

def textPasses (nodes : List Node) : List ListedText :=
  argumentPass settings tree nodes ++ assignmentPass settings tree nodes ++ constructionPass settings tree nodes

/-- No pass lists a line before the first. -/
def LinesKnown (fileName filePath : Text) (nodes : List Node) : Prop :=
  (∀ site ∈ sitePass tree fileName filePath nodes, 1 ≤ site.line) ∧
    ∀ text ∈ textPasses settings tree nodes, 1 ≤ text.line

/-- A name that a plain import brings, or the one that a constructed command implies. -/
def DependsOn (nodes : List Node) (name : Text) : Prop :=
  .simple name ∈ Node.importClauses nodes ∨
    name = settings.impliedDependency ∧
      ∃ construction ∈ Node.constructions nodes, ∃ marker ∈ settings.commandTypeMarkers,
        marker <:+: construction.2.1

structure FollowsPasses (fileName filePath : Text) (nodes : List Node) (findings : FileFindings) : Prop where
  named : findings.fileName = fileName
  placed : findings.filePath = filePath
  callSites : findings.callSites.map CallSite.listed = sitePass tree fileName filePath nodes
  queries : findings.queries.map QueryFinding.listed = textPasses settings tree nodes
  dependencies : ∀ name, name ∈ findings.dependencies ↔ DependsOn settings nodes name

def lineFaults : List Fault := [⟨[.field (Text.ofString "line_number")], .below 1⟩]

private theorem check_site_of_known (fileName filePath name : Text) {line : Int} (known : 1 ≤ line) :
    ∃ site, CallSite.check (.ofTexts fileName filePath) name line = .ok site ∧
      site.listed = ⟨name, fileName, filePath, line⟩ := by
  refine ⟨⟨name, fileName, filePath, ⟨line.toNat, by omega⟩⟩, ?_, ?_⟩
  · simp only [CallSite.check, FileLabel.check_ofTexts, Value.positive, dif_pos known, Checked.within_ok,
      Checked.both_ok]
    rfl
  · simp only [CallSite.listed, ListedSite.mk.injEq, true_and]
    omega

private theorem check_site_of_unknown (fileName filePath name : Text) {line : Int} (unknown : ¬ 1 ≤ line) :
    CallSite.check (.ofTexts fileName filePath) name line = .error lineFaults := by
  simp only [CallSite.check, FileLabel.check_ofTexts, Value.positive, dif_neg unknown]
  rfl

private theorem queryText_of_known (kind : FindingKind) (tag : Text) {line : Int} (known : 1 ≤ line)
    (expression : Node) : ∃ texts, queryText kind tag line expression = .ok texts ∧
      texts.map QueryFinding.listed = ([expression].filter Node.hasQueryText).map fun expression =>
        ⟨kind, tag, expression.constantText, line⟩ := by
  unfold queryText
  by_cases blank : Text.isBlank expression.constantText
  · exact ⟨[], if_pos blank, by simp [Node.hasQueryText, blank]⟩
  · rw [if_neg blank]
    refine ⟨[⟨kind, tag, expression.constantText, ⟨line.toNat, by omega⟩⟩], ?_, ?_⟩
    · simp only [QueryFinding.check, Value.positive, dif_pos known, Checked.within_ok]
      rfl
    · simp [Node.hasQueryText, blank, QueryFinding.listed]
      omega

private theorem queryText_of_unknown (kind : FindingKind) (tag : Text) {line : Int} (unknown : ¬ 1 ≤ line)
    (expression : Node) : queryText kind tag line expression =
      if expression.hasQueryText then .error lineFaults else .ok [] := by
  unfold queryText
  by_cases blank : Text.isBlank expression.constantText
  · simp [Node.hasQueryText, blank]
  · simp only [Node.hasQueryText, blank, QueryFinding.check, Value.positive, dif_neg unknown]
    rfl

private theorem mapM_queryText_of_known (kind : FindingKind) (tag : Text) {line : Int} (known : 1 ≤ line)
    (expressions : List Node) : ∃ texts, expressions.mapM (queryText kind tag line) = .ok texts ∧
      texts.flatten.map QueryFinding.listed = (expressions.filter Node.hasQueryText).map fun expression =>
        ⟨kind, tag, expression.constantText, line⟩ := by
  induction expressions with
  | nil => exact ⟨[], rfl, rfl⟩
  | cons expression expressions ih =>
    obtain ⟨first, checked, same⟩ := queryText_of_known kind tag known expression
    obtain ⟨texts, rest, sameRest⟩ := ih
    refine ⟨first :: texts, ?_, ?_⟩
    · rw [List.mapM_cons, checked, rest]
      rfl
    · rw [List.flatten_cons, List.map_append, same, sameRest, ← List.map_append, ← List.filter_append]
      rfl

private def listing (kind : FindingKind) (tag : Text) (line : Int) (expressions : List Node) : List ListedText :=
  (expressions.filter Node.hasQueryText).map fun expression => ⟨kind, tag, expression.constantText, line⟩

/-- Checked texts are what is listed, unless a listed line is before the first. -/
private def Lists (listed : List ListedText) : Checked (List QueryFinding) → Prop
  | .ok texts => (∀ text ∈ listed, 1 ≤ text.line) ∧ texts.map QueryFinding.listed = listed
  | .error faults => ¬ (∀ text ∈ listed, 1 ≤ text.line) ∧ faults = lineFaults

private theorem queryText_lists (kind : FindingKind) (tag : Text) (line : Int) (expression : Node) :
    Lists (listing kind tag line [expression]) (queryText kind tag line expression) := by
  by_cases known : 1 ≤ line
  · obtain ⟨texts, checked, same⟩ := queryText_of_known kind tag known expression
    rw [checked]
    refine ⟨?_, same⟩
    intro text listed
    obtain ⟨_, -, rfl⟩ := List.mem_map.1 listed
    exact known
  · rw [queryText_of_unknown kind tag known]
    by_cases query : expression.hasQueryText
    · rw [if_pos query]
      refine ⟨?_, rfl⟩
      intro lines
      exact known (lines ⟨kind, tag, expression.constantText, line⟩ (by simp [listing, query]))
    · rw [if_neg query]
      constructor <;> simp [listing, query]

/-- Sightings that are what the passes list for some nodes. -/
private structure Seen (fileName filePath : Text) (nodes : List Node) (seen : Sightings) : Prop where
  sites : seen.callSites.map CallSite.listed = sitePass tree fileName filePath nodes
  arguments : seen.callTexts.map QueryFinding.listed = argumentPass settings tree nodes
  assignments : seen.assignmentTexts.map QueryFinding.listed = assignmentPass settings tree nodes
  constructions : seen.constructorTexts.map QueryFinding.listed = constructionPass settings tree nodes
  dependencies : ∀ name, name ∈ seen.dependencies ↔ DependsOn settings nodes name

/-- What a visit of some nodes comes to: the sightings that the passes list, or a fault because of a line. -/
private def Outcome (fileName filePath : Text) (nodes : List Node) : Checked Sightings → Prop
  | .ok seen => LinesKnown settings tree fileName filePath nodes ∧ Seen settings tree fileName filePath nodes seen
  | .error faults => ¬ LinesKnown settings tree fileName filePath nodes ∧ faults = lineFaults

private def append (first second : Sightings) : Sightings where
  dependencies := first.dependencies ++ second.dependencies
  callSites := first.callSites ++ second.callSites
  callTexts := first.callTexts ++ second.callTexts
  assignmentTexts := first.assignmentTexts ++ second.assignmentTexts
  constructorTexts := first.constructorTexts ++ second.constructorTexts

variable {settings tree} {fileName filePath : Text}

private theorem linesKnown_append {first second : List Node} :
    LinesKnown settings tree fileName filePath (first ++ second) ↔
      LinesKnown settings tree fileName filePath first ∧ LinesKnown settings tree fileName filePath second := by
  simp only [LinesKnown, sitePass, textPasses, argumentPass, assignmentPass, constructionPass, Node.invocations,
    Node.assignments, Node.constructions, Node.records_append, List.filter_append, List.map_append,
    List.flatMap_append, List.forall_mem_append]
  tauto

/-- Every record is listed with the line of a node, so nodes on known lines give records on known lines. -/
theorem linesKnown_of_forall {nodes : List Node} (known : ∀ node ∈ nodes, 1 ≤ tree.lineOf node + 1) :
    LinesKnown settings tree fileName filePath nodes := by
  constructor
  · intro site listed
    obtain ⟨call, inside, rfl⟩ := List.mem_map.1 listed
    exact known _ (Node.mem_of_mem_records inside)
  · intro text listed
    rcases List.mem_append.1 listed with listed | listed
    · rcases List.mem_append.1 listed with listed | listed
      · obtain ⟨call, inside, listed⟩ := List.mem_flatMap.1 listed
        obtain ⟨argument, -, rfl⟩ := List.mem_map.1 listed
        exact known _ (Node.mem_of_mem_records (List.mem_of_mem_filter inside))
      · obtain ⟨assignment, inside, rfl⟩ := List.mem_map.1 listed
        exact known _ (Node.mem_of_mem_records (List.mem_of_mem_filter inside))
    · obtain ⟨construction, inside, listed⟩ := List.mem_flatMap.1 listed
      obtain ⟨first, -, rfl⟩ := List.mem_map.1 listed
      exact known _ (Node.mem_of_mem_records (List.mem_of_mem_filter inside))

private theorem Seen.append {first second : List Node} {seen more : Sightings}
    (here : Seen settings tree fileName filePath first seen)
    (there : Seen settings tree fileName filePath second more) :
    Seen settings tree fileName filePath (first ++ second) (FileScan.append seen more) where
  sites := by
    simp only [FileScan.append, List.map_append, here.sites, there.sites]
    simp [sitePass, Node.invocations]
  arguments := by
    simp only [FileScan.append, List.map_append, here.arguments, there.arguments]
    simp [argumentPass, Node.invocations]
  assignments := by
    simp only [FileScan.append, List.map_append, here.assignments, there.assignments]
    simp [assignmentPass, Node.assignments]
  constructions := by
    simp only [FileScan.append, List.map_append, here.constructions, there.constructions]
    simp [constructionPass, Node.constructions]
  dependencies name := by
    simp only [FileScan.append, List.mem_append, here.dependencies, there.dependencies, DependsOn,
      Node.importClauses, Node.constructions, List.flatMap_append, Node.records_append]
    constructor
    · rintro ((h | ⟨same, c, inside, h⟩) | (h | ⟨same, c, inside, h⟩))
      · exact Or.inl (Or.inl h)
      · exact Or.inr ⟨same, c, Or.inl inside, h⟩
      · exact Or.inl (Or.inr h)
      · exact Or.inr ⟨same, c, Or.inr inside, h⟩
    · rintro ((h | h) | ⟨same, c, inside | inside, h⟩)
      · exact Or.inl (Or.inl h)
      · exact Or.inr (Or.inl h)
      · exact Or.inl (Or.inr ⟨same, c, inside, h⟩)
      · exact Or.inr (Or.inr ⟨same, c, inside, h⟩)

private theorem hasInfix_eq (pattern text : Text) : Text.hasInfix pattern text = decide (pattern <:+: text) := by
  rw [Bool.eq_iff_iff, Text.hasInfix_iff, decide_eq_true_iff]

private theorem runsQuery_eq (name : Text) : settings.runsQuery name =
    settings.executionFragments.any fun fragment => decide (fragment <:+: name) := by
  simp only [Settings.runsQuery, hasInfix_eq]

private theorem isCommandType_eq (name : Text) : settings.isCommandType name =
    settings.commandTypeMarkers.any fun marker => decide (marker <:+: name) := by
  simp only [Settings.isCommandType, hasInfix_eq]

/-- Nodes for which the passes list nothing contribute nothing. -/
private theorem outcome_of_nothing {nodes : List Node} (sites : sitePass tree fileName filePath nodes = [])
    (arguments : argumentPass settings tree nodes = []) (assignments : assignmentPass settings tree nodes = [])
    (constructions : constructionPass settings tree nodes = [])
    (dependencies : ∀ name, ¬ DependsOn settings nodes name) :
    Outcome settings tree fileName filePath nodes (.ok {}) := by
  refine ⟨?_, sites.symm, arguments.symm, assignments.symm, constructions.symm, ?_⟩
  · simp [LinesKnown, textPasses, sites, arguments, assignments, constructions]
  · intro name
    simp [dependencies name]

variable {node : Node}

private theorem linesKnown_singleton (known : 1 ≤ tree.lineOf node + 1) :
    LinesKnown settings tree fileName filePath [node] := by
  apply linesKnown_of_forall
  intro other inside
  rw [List.mem_singleton.1 inside]
  exact known

private theorem visit_imports {clauses : List ImportClause} (shape : node.shape = .imports clauses) :
    Outcome settings tree fileName filePath [node]
      (visit settings tree (.ofTexts fileName filePath) node) := by
  have noInvocation : Node.invocations [node] = [] := by simp [Node.invocations, shape]
  have noAssignment : Node.assignments [node] = [] := by simp [Node.assignments, shape]
  have noConstruction : Node.constructions [node] = [] := by simp [Node.constructions, shape]
  have listed : Node.importClauses [node] = clauses := by simp [Node.importClauses, shape]
  have visited : visit settings tree (.ofTexts fileName filePath) node =
      .ok { dependencies := importedNames clauses } := by simp only [visit, shape]
  rw [visited]
  refine ⟨?_, ?_, ?_, ?_, ?_, ?_⟩
  · simp [LinesKnown, sitePass, textPasses, argumentPass, assignmentPass, constructionPass, noInvocation,
      noAssignment, noConstruction]
  · simp [sitePass, noInvocation]
  · simp [argumentPass, noInvocation]
  · simp [assignmentPass, noAssignment]
  · simp [constructionPass, noConstruction]
  · intro name
    simp only [DependsOn, listed, noConstruction, List.not_mem_nil, false_and, exists_false, and_false, or_false,
      importedNames, List.mem_filterMap]
    constructor
    · rintro ⟨clause, inside, same⟩
      cases clause with
      | simple other =>
        cases same
        exact inside
      | other => cases same
    · intro inside
      exact ⟨.simple name, inside, rfl⟩

private theorem visit_invocation {callee : Node} {arguments : List Node}
    (shape : node.shape = .invocation callee arguments) :
    Outcome settings tree fileName filePath [node]
      (visit settings tree (.ofTexts fileName filePath) node) := by
  have listed : Node.invocations [node] = [(node, callee, arguments)] := by simp [Node.invocations, shape]
  have sites : sitePass tree fileName filePath [node] =
      [⟨callee.callName, fileName, filePath, tree.lineOf node + 1⟩] := by simp [sitePass, listed]
  -- The call site and the texts of its arguments have one line, which decides about all of them.
  by_cases known : 1 ≤ tree.lineOf node + 1
  · obtain ⟨site, checked, sameSite⟩ := check_site_of_known fileName filePath callee.callName known
    obtain ⟨texts, visited, sameTexts⟩ : ∃ texts, visit settings tree (.ofTexts fileName filePath) node =
          .ok { callSites := [site], callTexts := texts } ∧
        texts.map QueryFinding.listed = argumentPass settings tree [node] := by
      by_cases runs : settings.runsQuery callee.callName
      · obtain ⟨texts, checkedTexts, sameTexts⟩ :=
          mapM_queryText_of_known .callArgument callee.callName known arguments
        refine ⟨texts.flatten, ?_, ?_⟩
        · simp only [visit, shape, checked, if_pos runs, checkedTexts, bind, Except.bind, pure, Except.pure]
        · rw [runsQuery_eq] at runs
          simp [argumentPass, listed, runs, sameTexts]
      · refine ⟨[], ?_, ?_⟩
        · simp only [visit, shape, checked, if_neg runs, bind, Except.bind, pure, Except.pure, List.flatten_nil]
        · rw [runsQuery_eq] at runs
          simp [argumentPass, listed, runs]
    rw [visited]
    refine ⟨linesKnown_singleton known, ?_, sameTexts, ?_, ?_, ?_⟩
    · rw [List.map_singleton, sameSite, sites]
    · simp [assignmentPass, Node.assignments, shape]
    · simp [constructionPass, Node.constructions, shape]
    · simp [DependsOn, Node.importClauses, Node.constructions, shape]
  · have refused := check_site_of_unknown fileName filePath callee.callName known
    have visited : visit settings tree (.ofTexts fileName filePath) node = .error lineFaults := by
      simp only [visit, shape, refused]
      rfl
    rw [visited]
    refine ⟨?_, rfl⟩
    intro lines
    exact known (lines.1 _ (by rw [sites]; exact List.mem_singleton_self _))

/-- A node with texts at one place contributes them, or stops the scan if its line is before the first. -/
private theorem outcome_of_lists {listed : List ListedText} {checked : Checked (List QueryFinding)}
    {make : List QueryFinding → Sightings} (lists : Lists listed checked)
    (lines : LinesKnown settings tree fileName filePath [node] ↔ ∀ text ∈ listed, 1 ≤ text.line)
    (seen : ∀ texts, texts.map QueryFinding.listed = listed →
      Seen settings tree fileName filePath [node] (make texts)) :
    Outcome settings tree fileName filePath [node] (checked.map make) := by
  cases checked with
  | error faults =>
    refine ⟨?_, lists.2⟩
    intro known
    exact lists.1 (lines.1 known)
  | ok texts => exact ⟨lines.2 lists.1, seen texts lists.2⟩

private theorem visit_assignment {left right : Node} (shape : node.shape = .assignment left right) :
    Outcome settings tree fileName filePath [node]
      (visit settings tree (.ofTexts fileName filePath) node) := by
  have noInvocation : Node.invocations [node] = [] := by simp [Node.invocations, shape]
  have listed : Node.assignments [node] = [(node, left, right)] := by simp [Node.assignments, shape]
  have noConstruction : Node.constructions [node] = [] := by simp [Node.constructions, shape]
  have noImport : Node.importClauses [node] = [] := by simp [Node.importClauses, shape]
  by_cases marked : settings.setsCommandText left.text
  · have visited : visit settings tree (.ofTexts fileName filePath) node =
        (queryText .fieldAssignment commandTextTag (tree.lineOf node + 1) right).map
          fun texts => { assignmentTexts := texts } := by
      simp only [visit, shape, if_pos marked]
      rfl
    rw [Settings.setsCommandText, hasInfix_eq, decide_eq_true_iff] at marked
    have texts : assignmentPass settings tree [node] =
        listing .fieldAssignment commandTextTag (tree.lineOf node + 1) [right] := by
      by_cases query : right.hasQueryText
      · simp [assignmentPass, listing, listed, marked, query, commandTextTag]
      · simp [assignmentPass, listing, listed, query]
    rw [visited]
    refine outcome_of_lists (queryText_lists ..) ?_ ?_
    · simp [LinesKnown, textPasses, sitePass, argumentPass, constructionPass, texts, noInvocation, noConstruction]
    · intro found same
      constructor
      · simp [sitePass, noInvocation]
      · simp [argumentPass, noInvocation]
      · exact same.trans texts.symm
      · simp [constructionPass, noConstruction]
      · simp [DependsOn, noImport, noConstruction]
  · have visited : visit settings tree (.ofTexts fileName filePath) node = .ok {} := by
      simp only [visit, shape, if_neg marked]
    rw [Settings.setsCommandText, hasInfix_eq, decide_eq_true_iff] at marked
    rw [visited]
    apply outcome_of_nothing
    · simp [sitePass, noInvocation]
    · simp [argumentPass, noInvocation]
    · simp [assignmentPass, listed, marked]
    · simp [constructionPass, noConstruction]
    · simp [DependsOn, noImport, noConstruction]

private def firstText (line : Int) : List Node → Checked (List QueryFinding)
  | [] => .ok []
  | first :: _ => queryText .constructorArgument constructorTag line first

private theorem firstText_lists (line : Int) (arguments : List Node) :
    Lists (listing .constructorArgument constructorTag line (arguments.take 1)) (firstText line arguments) := by
  cases arguments with
  | nil => exact ⟨fun _ h => absurd h List.not_mem_nil, rfl⟩
  | cons first rest => exact queryText_lists ..

private theorem visit_construction {typeName : Text} {arguments : Option (List Node)} {initializer : Option Node}
    (shape : node.shape = .construction typeName arguments initializer) :
    Outcome settings tree fileName filePath [node]
      (visit settings tree (.ofTexts fileName filePath) node) := by
  have noInvocation : Node.invocations [node] = [] := by simp [Node.invocations, shape]
  have noAssignment : Node.assignments [node] = [] := by simp [Node.assignments, shape]
  have listed : Node.constructions [node] = [(node, typeName, arguments.getD [])] := by
    simp [Node.constructions, shape]
  have noImport : Node.importClauses [node] = [] := by simp [Node.importClauses, shape]
  -- The dependency is implied also where the first argument is no query text.
  by_cases command : settings.isCommandType typeName
  · have visited : visit settings tree (.ofTexts fileName filePath) node =
        (firstText (tree.lineOf node + 1) (arguments.getD [])).map
          fun texts => { dependencies := [settings.impliedDependency], constructorTexts := texts } := by
      simp only [visit, shape, if_pos command]
      cases arguments.getD [] <;> rfl
    rw [isCommandType_eq] at command
    have texts : constructionPass settings tree [node] =
        listing .constructorArgument constructorTag (tree.lineOf node + 1) ((arguments.getD []).take 1) := by
      simp [constructionPass, listing, listed, command, constructorTag]
    rw [visited]
    refine outcome_of_lists (firstText_lists ..) ?_ ?_
    · simp [LinesKnown, textPasses, sitePass, argumentPass, assignmentPass, texts, noInvocation, noAssignment]
    · intro found same
      constructor
      · simp [sitePass, noInvocation]
      · simp [argumentPass, noInvocation]
      · simp [assignmentPass, noAssignment]
      · exact same.trans texts.symm
      · intro name
        simpa [DependsOn, noImport, listed] using fun _ => by simpa using command
  · have visited : visit settings tree (.ofTexts fileName filePath) node = .ok {} := by
      simp only [visit, shape, if_neg command]
    rw [isCommandType_eq] at command
    rw [visited]
    apply outcome_of_nothing
    · simp [sitePass, noInvocation]
    · simp [argumentPass, noInvocation]
    · simp [assignmentPass, noAssignment]
    · simp [constructionPass, listed, command]
    · intro name
      simpa [DependsOn, noImport, listed] using fun _ => by simpa using command

/-- One node contributes what the passes list for it, or stops the scan for its line. -/
private theorem visit_outcome (node : Node) : Outcome settings tree fileName filePath [node]
    (visit settings tree (.ofTexts fileName filePath) node) := by
  cases shape : node.shape with
  | imports clauses => exact visit_imports shape
  | invocation callee arguments => exact visit_invocation shape
  | assignment left right => exact visit_assignment shape
  | construction typeName arguments initializer => exact visit_construction shape
  | bare | group | literal | binary | member =>
    have visited : visit settings tree (.ofTexts fileName filePath) node = .ok {} := by simp only [visit, shape]
    rw [visited]
    apply outcome_of_nothing
    · simp [sitePass, Node.invocations, shape]
    · simp [argumentPass, Node.invocations, shape]
    · simp [assignmentPass, Node.assignments, shape]
    · simp [constructionPass, Node.constructions, shape]
    · simp [DependsOn, Node.importClauses, Node.constructions, shape]

private def appendAll (seen : List Sightings) : Sightings where
  dependencies := seen.flatMap Sightings.dependencies
  callSites := seen.flatMap Sightings.callSites
  callTexts := seen.flatMap Sightings.callTexts
  assignmentTexts := seen.flatMap Sightings.assignmentTexts
  constructorTexts := seen.flatMap Sightings.constructorTexts

/-- One more visited node: a fault of either part is the same fault. -/
private theorem outcome_cons {nodes : List Node} {first rest : Checked Sightings}
    (here : Outcome settings tree fileName filePath [node] first)
    (there : Outcome settings tree fileName filePath nodes rest) :
    Outcome settings tree fileName filePath (node :: nodes)
      (first.bind fun seen => rest.map fun more => FileScan.append seen more) := by
  have lines : LinesKnown settings tree fileName filePath ([node] ++ nodes) ↔ _ := linesKnown_append
  cases first with
  | error faults =>
    refine ⟨?_, here.2⟩
    intro known
    exact here.1 (lines.1 known).1
  | ok seen =>
    cases rest with
    | error faults =>
      refine ⟨?_, there.2⟩
      intro known
      exact there.1 (lines.1 known).2
    | ok more => exact ⟨lines.2 ⟨here.1, there.1⟩, here.2.append there.2⟩

/-- A visit of nodes one after the other comes to what the passes list for all of them. -/
private theorem visitAll_outcome (nodes : List Node) : Outcome settings tree fileName filePath nodes
    ((nodes.mapM (visit settings tree (.ofTexts fileName filePath))).map appendAll) := by
  induction nodes with
  | nil => exact outcome_of_nothing rfl rfl rfl rfl (by simp [DependsOn, Node.importClauses, Node.constructions])
  | cons node nodes ih =>
    -- The first fault ends the visits, and all faults are the same.
    have joined := outcome_cons (visit_outcome node) ih
    rw [List.mapM_cons]
    cases first : visit settings tree (.ofTexts fileName filePath) node with
    | error faults =>
      rw [first] at joined
      exact joined
    | ok seen =>
      rw [first] at joined
      cases rest : nodes.mapM (visit settings tree (.ofTexts fileName filePath)) with
      | error faults =>
        rw [rest] at joined
        exact joined
      | ok more =>
        rw [rest] at joined
        exact joined

theorem scan_of_linesKnown (lines : LinesKnown settings tree fileName filePath tree.root.preorder) :
    ∃ findings, scan settings tree (.ofTexts fileName filePath) = .ok findings ∧
      FollowsPasses settings tree fileName filePath tree.root.preorder findings := by
  have outcome : Outcome settings tree fileName filePath tree.root.preorder _ := visitAll_outcome _
  rw [scan, Node.walk_eq_preorder, FileLabel.check_ofTexts]
  cases visited : tree.root.preorder.mapM (visit settings tree (.ofTexts fileName filePath)) with
  | error faults =>
    rw [visited] at outcome
    exact absurd lines outcome.1
  | ok seen =>
    rw [visited] at outcome
    obtain ⟨-, all⟩ := outcome
    refine ⟨_, rfl, rfl, rfl, all.sites, ?_, ?_⟩
    · simp only [List.map_append, textPasses, ← all.arguments, ← all.assignments, ← all.constructions]
      rfl
    · intro name
      exact TextSet.mem_ofList.trans (all.dependencies name)

/-- A line before the first, wherever it is listed, fails the scan with one and the same fault. -/
private theorem scan_of_not_linesKnown (lines : ¬ LinesKnown settings tree fileName filePath tree.root.preorder) :
    scan settings tree (.ofTexts fileName filePath) = .error lineFaults := by
  have outcome : Outcome settings tree fileName filePath tree.root.preorder _ := visitAll_outcome _
  rw [scan, Node.walk_eq_preorder]
  cases visited : tree.root.preorder.mapM (visit settings tree (.ofTexts fileName filePath)) with
  | error faults =>
    rw [visited] at outcome
    exact congrArg Except.error outcome.2
  | ok seen =>
    rw [visited] at outcome
    exact absurd outcome.1 lines

theorem followsPasses_of_scan {findings : FileFindings}
    (scanned : scan settings tree (.ofTexts fileName filePath) = .ok findings) :
    FollowsPasses settings tree fileName filePath tree.root.preorder findings := by
  by_cases lines : LinesKnown settings tree fileName filePath tree.root.preorder
  · obtain ⟨others, found, follows⟩ := scan_of_linesKnown lines
    rw [scanned, Except.ok.injEq] at found
    exact found ▸ follows
  · rw [scan_of_not_linesKnown lines] at scanned
    cases scanned

/-- A scan that succeeds finds what the passes list, each pass on its own; a scan fails exactly if a pass lists a
line before the first, and then it says so. -/
theorem scan_eq_passes (settings : Settings) (tree : SourceTree) (fileName filePath : Text) :
    match scan settings tree (.ofTexts fileName filePath) with
    | .ok findings =>
      LinesKnown settings tree fileName filePath tree.root.preorder ∧
        FollowsPasses settings tree fileName filePath tree.root.preorder findings
    | .error faults =>
      ¬ LinesKnown settings tree fileName filePath tree.root.preorder ∧ faults = lineFaults := by
  by_cases lines : LinesKnown settings tree fileName filePath tree.root.preorder
  · obtain ⟨findings, scanned, follows⟩ := scan_of_linesKnown lines
    rw [scanned]
    exact ⟨lines, follows⟩
  · rw [scan_of_not_linesKnown lines]
    exact ⟨lines, rfl⟩

end FileScan
end SqlSurvey
