import SqlSurvey.Proofs.PlacedTrees

/-! # Findings in document order

In a tree that is laid out as a grammar does it, children lie one behind the other within their parent. Lowering
leaves out nodes and keeps the others in their order, so a walk never goes back in the source, and neither do the
lines of what a scan lists. -/
namespace SqlSurvey

/-- A kind of node and two of its fields, the first of which comes first. -/
structure FieldOrder where
  kind : String
  first : String
  second : String
deriving DecidableEq

def grammarOrders : List FieldOrder :=
  [⟨"invocation_expression", "function", "arguments"⟩, ⟨"member_access_expression", "expression", "name"⟩,
    ⟨"assignment_expression", "left", "right"⟩, ⟨"binary_expression", "left", "right"⟩,
    ⟨"object_creation_expression", "arguments", "initializer"⟩]

namespace Concrete

def place? (c : Concrete) (name : String) : Option Nat :=
  c.children.findIdx? fun child => child.field == some (Text.ofString name)

/-- The second node starts where the first has ended, or later. -/
def Before (d e : Concrete) : Prop := d.span.stop ≤ e.span.start

/-- The order of a node and its children in the source. -/
@[mk_iff] structure InOrder (c : Concrete) : Prop where
  start : 0 ≤ c.span.start
  forward : c.span.start ≤ c.span.stop
  within : ∀ d ∈ c.children, c.span.start ≤ d.span.start ∧ d.span.stop ≤ c.span.stop
  apart : c.children.IsChain Before
  fields : ∀ order ∈ grammarOrders, c.kind = Text.ofString order.kind →
    ∀ i ∈ c.place? order.first, ∀ j ∈ c.place? order.second, i < j

def Ordered (c : Concrete) : Prop := c.Everywhere InOrder

instance : DecidableRel Before := fun d e => inferInstanceAs (Decidable (d.span.stop ≤ e.span.start))

instance : DecidablePred InOrder := fun c => decidable_of_iff _ (inOrder_iff c).symm

instance : DecidablePred Ordered := decidableEverywhere InOrder

private theorem pairwise_of_isChain {nodes : List Concrete} (forward : ∀ d ∈ nodes, d.span.start ≤ d.span.stop)
    (chain : nodes.IsChain Before) : nodes.Pairwise Before := by
  induction nodes with
  | nil => exact .nil
  | cons d nodes ih =>
    have rest := ih (fun e inside => forward e (List.mem_cons_of_mem _ inside)) (List.isChain_of_isChain_cons chain)
    refine List.pairwise_cons.2 ⟨?_, rest⟩
    intro e inside
    cases nodes with
    | nil => exact absurd inside List.not_mem_nil
    | cons next nodes =>
      have near : Before d next := List.rel_of_isChain_cons_cons chain
      rcases List.mem_cons.1 inside with rfl | behind
      · exact near
      · have far : Before next e := (List.pairwise_cons.1 rest).1 e behind
        have through := forward next (by simp)
        unfold Before at near far ⊢
        omega

private theorem exists_place_of_child? {c d : Concrete} {name : String}
    (found : c.child? (Text.ofString name) = some d) : ∃ i, c.place? name = some i ∧ c.children[i]? = some d := by
  rw [child?, List.find?_eq_bind_findIdx?_getElem?, Option.bind_eq_some_iff] at found
  exact found

namespace Ordered

variable {c : Concrete} (ordered : c.Ordered)
include ordered

theorem placed : c.Placed := Everywhere.imp ordered fun _ laid => laid.start

theorem pairwise_children : c.children.Pairwise Before :=
  pairwise_of_isChain (fun d inside => (ordered.child d inside).here.forward) ordered.here.apart

theorem before_of_fields (order : FieldOrder) {d e : Concrete} (listed : order ∈ grammarOrders)
    (kind : c.kind = Text.ofString order.kind) (first : c.child? (Text.ofString order.first) = some d)
    (second : c.child? (Text.ofString order.second) = some e) : Before d e := by
  obtain ⟨i, placed, atI⟩ := exists_place_of_child? first
  obtain ⟨j, placed', atJ⟩ := exists_place_of_child? second
  obtain ⟨hi, rfl⟩ := List.getElem?_eq_some_iff.1 atI
  obtain ⟨hj, rfl⟩ := List.getElem?_eq_some_iff.1 atJ
  exact List.pairwise_iff_getElem.1 ordered.pairwise_children i j hi hj
    (ordered.here.fields order listed kind i placed j placed')

omit ordered

/-- A node of an ordered tree that does not leave the given node. -/
private def Inside (c d : Concrete) : Prop :=
  d.Ordered ∧ c.span.start ≤ d.span.start ∧ d.span.stop ≤ c.span.stop

private theorem Inside.child {d e : Concrete} (inside : Inside c d) (h : e ∈ d.children) : Inside c e := by
  obtain ⟨ordered, start, stop⟩ := inside
  have within := ordered.here.within e h
  exact ⟨Everywhere.child ordered e h, by omega, by omega⟩

include ordered

private theorem inside_self : Inside c c := ⟨ordered, Int.le_refl _, Int.le_refl _⟩

private theorem inside_of_mem_kept {d : Concrete} (h : d ∈ c.kept) : Inside c d :=
  of_mem_kept (fun _ inside _ => inside.child) ordered.inside_self h

private theorem exists_list_of_mem_keptArguments {d : Concrete} (h : d ∈ c.keptArguments) :
    ∃ list, c.child? (Text.ofString "arguments") = some list ∧ Inside list d := by
  obtain ⟨list, filler, h⟩ := List.mem_flatMap.1 h
  obtain ⟨wrapper, listed, last⟩ := List.mem_filterMap.1 h
  have found : c.child? (Text.ofString "arguments") = some list := by simpa [fillers] using filler
  have around : list.Ordered := Everywhere.child ordered list (mem_children_of_child? found)
  have wrapped := around.inside_self.child (mem_children_of_mem_namedChildren (List.mem_of_mem_filter listed))
  exact ⟨list, found, wrapped.child (mem_children_of_lastExpression? last)⟩

private theorem pairwise_keptArguments : c.keptArguments.Pairwise Before := by
  cases found : c.child? (Text.ofString "arguments") with
  | none => simp [keptArguments, fillers, found]
  | some list =>
    have list_ordered : list.Ordered := Everywhere.child ordered list (mem_children_of_child? found)
    have wrappers := (list_ordered.pairwise_children.filter (·.named)).filter
      fun child => child.kind == Text.ofString "argument"
    have kept : c.keptArguments = (list.namedChildren.filter fun child =>
        child.kind == Text.ofString "argument").filterMap lastExpression? := by
      simp [keptArguments, fillers, found]
    rw [kept, List.pairwise_filterMap]
    refine wrappers.imp_of_mem ?_
    intro a b insideA insideB apart d lastD e lastE
    -- The expressions of two arguments are apart because the arguments around them are.
    have around : ∀ wrapper ∈ (list.children.filter (·.named)).filter
        (fun child => child.kind == Text.ofString "argument"), wrapper.Ordered := by
      intro wrapper inside
      exact Everywhere.child list_ordered wrapper (List.mem_of_mem_filter (List.mem_of_mem_filter inside))
    have endsD := ((around a insideA).here.within d (mem_children_of_lastExpression? lastD)).2
    have startsE := ((around b insideB).here.within e (mem_children_of_lastExpression? lastE)).1
    unfold Before at apart ⊢
    omega

omit ordered

/-- The kind of the nodes of a form that has a rule about the order of its fields. -/
private def kindOf? : NodeForm → Option String
  | .invocation => some "invocation_expression"
  | .member => some "member_access_expression"
  | .assignment => some "assignment_expression"
  | .binary => some "binary_expression"
  | .construction => some "object_creation_expression"
  | .bare | .group | .imports | .literal => none

private theorem kind_of_form {kind : String} (h : kindOf? c.form = some kind) : c.kind = Text.ofString kind := by
  unfold Concrete.form at h
  split_ifs at h with imports literal invocation member assignment binary construction
  · cases h
  · cases h
  · cases h
    exact invocation.1
  · cases h
    exact member.1
  · cases h
    exact assignment.1
  · cases h
    exact binary.1
  · cases h
    exact construction.1
  · cases h

private theorem mem_fillers {name : String} {d : Concrete} :
    d ∈ c.fillers [name] ↔ c.child? (Text.ofString name) = some d := by
  simp [fillers]

private theorem pairwise_filler (name : String) : (c.fillers [name]).Pairwise Before := by
  cases found : c.child? (Text.ofString name) <;> simp [fillers, found]

/-- Two fields are visited in the order of their places, if both are filled. -/
private theorem pairwise_fillers {first second : String}
    (before : ∀ d e, c.child? (Text.ofString first) = some d → c.child? (Text.ofString second) = some e → Before d e) :
    (c.fillers [first, second]).Pairwise Before := by
  cases foundFirst : c.child? (Text.ofString first) with
  | none => cases foundSecond : c.child? (Text.ofString second) <;> simp [fillers, foundFirst, foundSecond]
  | some d =>
    cases foundSecond : c.child? (Text.ofString second) with
    | none => simp [fillers, foundFirst, foundSecond]
    | some e => simpa [fillers, foundFirst, foundSecond] using before d e foundFirst foundSecond

include ordered

/-- The nodes that stay below a node are in the order of the source, whatever rule the node has. -/
theorem pairwise_kept : c.kept.Pairwise Before := by
  have before : ∀ order ∈ grammarOrders, kindOf? c.form = some order.kind → ∀ d e,
      c.child? (Text.ofString order.first) = some d → c.child? (Text.ofString order.second) = some e → Before d e :=
    fun order listed form d e => ordered.before_of_fields order listed (kind_of_form form)
  unfold kept
  cases form : c.form with
  | imports | literal | bare => exact .nil
  | group => exact ordered.pairwise_children.filter _
  | member =>
    rw [form] at before
    exact pairwise_fillers (before ⟨_, "expression", "name"⟩ (by decide) rfl)
  | assignment =>
    rw [form] at before
    exact pairwise_fillers (before ⟨_, "left", "right"⟩ (by decide) rfl)
  | binary =>
    rw [form] at before
    exact pairwise_fillers (before ⟨_, "left", "right"⟩ (by decide) rfl)
  | invocation =>
    rw [form] at before
    refine List.pairwise_append.2 ⟨pairwise_filler _, ordered.pairwise_keptArguments, ?_⟩
    intro callee filler argument listed
    obtain ⟨list, found, inside⟩ := ordered.exists_list_of_mem_keptArguments listed
    have behind := before ⟨_, "function", "arguments"⟩ (by decide) rfl callee list (mem_fillers.1 filler) found
    exact Int.le_trans behind inside.2.1
  | construction =>
    rw [form] at before
    refine List.pairwise_append.2 ⟨ordered.pairwise_keptArguments, pairwise_filler _, ?_⟩
    intro argument listed initializer filler
    obtain ⟨list, found, inside⟩ := ordered.exists_list_of_mem_keptArguments listed
    have behind := before ⟨_, "arguments", "initializer"⟩ (by decide) rfl list initializer found (mem_fillers.1 filler)
    exact Int.le_trans inside.2.2 behind

private theorem inside_of_mem_keptPreorder {d : Concrete} (h : d ∈ c.keptPreorder) : Inside c d :=
  of_mem_keptPreorder (fun _ inside _ => inside.child) ordered.inside_self d h

/-- The nodes that stay never go back in the source. -/
theorem pairwise_keptPreorder : c.keptPreorder.Pairwise fun d e => d.span.start ≤ e.span.start := by
  induction c using induction_outline [] with
  | step c ih =>
    rw [parts_outline] at ih
    rw [keptPreorder_eq, List.pairwise_cons, List.pairwise_flatMap]
    refine ⟨?_, ?_, ?_⟩
    · intro d below
      have inside := ordered.inside_of_mem_keptPreorder (keptPreorder_eq c ▸ List.mem_cons_of_mem _ below)
      exact inside.2.1
    · intro d stays
      exact ih d stays (ordered.inside_of_mem_kept stays).1
    · -- All below the first of two nodes ends before the second starts.
      refine ordered.pairwise_kept.imp_of_mem ?_
      intro d e staysD staysE before x belowD y belowE
      have insideD := (ordered.inside_of_mem_kept staysD).1.inside_of_mem_keptPreorder belowD
      have insideE := (ordered.inside_of_mem_kept staysE).1.inside_of_mem_keptPreorder belowE
      have forward := (Everywhere.here insideD.1).forward
      have ends := insideD.2.2
      have starts := insideE.2.1
      unfold Before at before
      omega

end Ordered
end Concrete

namespace FileScan

variable {settings : Settings} {tree : SourceTree} {nodes : List Node}

/-- Texts that are listed with the lines of nodes in order are in order. -/
private theorem pairwise_flatMap_line {α : Type} {records : List (Node × α)} {list : Node × α → List ListedText}
    (line : ∀ record, ∀ text ∈ list record, text.line = tree.lineOf record.1 + 1)
    (lines : records.Pairwise fun a b => tree.lineOf a.1 ≤ tree.lineOf b.1) :
    (records.flatMap list).Pairwise fun a b => a.line ≤ b.line := by
  rw [List.pairwise_flatMap]
  constructor
  · intro record _
    refine List.pairwise_of_forall_mem_list ?_
    intro a insideA b insideB
    have same := (line record a insideA).trans (line record b insideB).symm
    exact Int.le_of_eq same
  · refine lines.imp ?_
    intro record record' le a insideA b insideB
    rw [line record a insideA, line record' b insideB]
    omega

section Lines

variable (lines : nodes.Pairwise fun a b => tree.lineOf a ≤ tree.lineOf b)
include lines

theorem pairwise_sitePass (fileName filePath : Text) :
    (sitePass tree fileName filePath nodes).Pairwise fun a b => a.line ≤ b.line := by
  rw [sitePass, List.pairwise_map]
  refine (Node.pairwise_records lines).imp ?_
  intro a b le
  exact Int.add_le_add_right le 1

theorem pairwise_argumentPass : (argumentPass settings tree nodes).Pairwise fun a b => a.line ≤ b.line := by
  refine pairwise_flatMap_line ?_ ((Node.pairwise_records lines).filter _)
  intro record text listed
  obtain ⟨argument, -, rfl⟩ := List.mem_map.1 listed
  rfl

theorem pairwise_assignmentPass : (assignmentPass settings tree nodes).Pairwise fun a b => a.line ≤ b.line := by
  rw [assignmentPass, List.pairwise_map]
  refine ((Node.pairwise_records lines).filter _).imp ?_
  intro a b le
  exact Int.add_le_add_right le 1

theorem pairwise_constructionPass : (constructionPass settings tree nodes).Pairwise fun a b => a.line ≤ b.line := by
  refine pairwise_flatMap_line ?_ ((Node.pairwise_records lines).filter _)
  intro record text listed
  obtain ⟨first, -, rfl⟩ := List.mem_map.1 listed
  rfl

end Lines

theorem kind_of_mem_argumentPass {text : ListedText} (h : text ∈ argumentPass settings tree nodes) :
    text.kind = .callArgument := by
  obtain ⟨call, -, h⟩ := List.mem_flatMap.1 h
  obtain ⟨argument, -, rfl⟩ := List.mem_map.1 h
  rfl

theorem kind_of_mem_assignmentPass {text : ListedText} (h : text ∈ assignmentPass settings tree nodes) :
    text.kind = .fieldAssignment := by
  obtain ⟨assignment, -, rfl⟩ := List.mem_map.1 h
  rfl

theorem kind_of_mem_constructionPass {text : ListedText} (h : text ∈ constructionPass settings tree nodes) :
    text.kind = .constructorArgument := by
  obtain ⟨construction, -, h⟩ := List.mem_flatMap.1 h
  obtain ⟨first, -, rfl⟩ := List.mem_map.1 h
  rfl

end FileScan

/-- Query texts of one kind whose lines never go back. -/
structure QueryFinding.Group (kind : FindingKind) (group : List QueryFinding) : Prop where
  kinds : ∀ finding ∈ group, finding.kind = kind
  lines : (group.map fun finding => finding.line.val).Pairwise (· ≤ ·)

private theorem QueryFinding.group_of_listed {kind : FindingKind} {group : List QueryFinding}
    {listed : List ListedText} (same : group.map QueryFinding.listed = listed)
    (kinds : ∀ text ∈ listed, text.kind = kind) (lines : listed.Pairwise fun a b => a.line ≤ b.line) :
    Group kind group := by
  subst same
  constructor
  · intro finding inside
    exact kinds _ (List.mem_map.2 ⟨finding, inside, rfl⟩)
  · rw [List.pairwise_map] at lines ⊢
    exact lines.imp fun le => Int.ofNat_le.1 le

namespace Concrete.Ordered

variable {c : Concrete} (ordered : c.Ordered) (source : Bytes)
include ordered

theorem pairwise_walk : ((c.lower source).walk.map fun node => node.span.start).Pairwise (· ≤ ·) := by
  rw [Node.walk_eq_preorder, preorder_lower, List.pairwise_map, List.pairwise_map]
  simpa only [span_lower] using ordered.pairwise_keptPreorder

/-- Along the walk of an ordered tree the lines never go back. -/
theorem pairwise_lines : (c.lower source).preorder.Pairwise fun a b =>
    (SourceTree.ofSource (c.lower source) source).lineOf a ≤
      (SourceTree.ofSource (c.lower source) source).lineOf b := by
  rw [preorder_lower, List.pairwise_map]
  refine ordered.pairwise_keptPreorder.imp_of_mem ?_
  intro d e insideD insideE le
  have start := (Everywhere.here (ordered.inside_of_mem_keptPreorder insideD).1).start
  simp only [SourceTree.lineOf, span_lower]
  exact SourceTree.lineAt_ofSource_mono _ _ start le

/-- A walk over an ordered tree never goes back in the source, and the scan lists call sites in the order of their
lines, and the query texts group by group, each group in the order of its lines. -/
theorem findings_in_document_order (settings : Settings) (fileName filePath : Text) :
    ((SourceTree.ofSource (c.lower source) source).root.walk.map fun node => node.span.start).Pairwise (· ≤ ·) ∧
    ∃ findings,
      FileScan.scan settings (.ofSource (c.lower source) source) (.ofTexts fileName filePath) = .ok findings ∧
      (findings.callSites.map fun site => site.line.val).Pairwise (· ≤ ·) ∧
      ∃ calls assignments constructions, findings.queries = calls ++ assignments ++ constructions ∧
        QueryFinding.Group .callArgument calls ∧ QueryFinding.Group .fieldAssignment assignments ∧
          QueryFinding.Group .constructorArgument constructions := by
  refine ⟨ordered.pairwise_walk source, ?_⟩
  have lines := ordered.pairwise_lines source
  obtain ⟨findings, scanned⟩ := ordered.placed.exists_scan settings source fileName filePath
  have follows := FileScan.followsPasses_of_scan scanned
  have sites := FileScan.pairwise_sitePass lines fileName filePath
  refine ⟨findings, scanned, ?_, ?_⟩
  · have listed := follows.callSites.symm ▸ sites
    rw [List.pairwise_map] at listed ⊢
    exact listed.imp fun le => Int.ofNat_le.1 le
  · obtain ⟨front, constructions, split, sameFront, sameConstructions⟩ := List.map_eq_append_iff.1 follows.queries
    obtain ⟨calls, assignments, rfl, sameCalls, sameAssignments⟩ := List.map_eq_append_iff.1 sameFront
    refine ⟨calls, assignments, constructions, split, ?_, ?_, ?_⟩
    · exact QueryFinding.group_of_listed sameCalls (fun _ => FileScan.kind_of_mem_argumentPass)
        (FileScan.pairwise_argumentPass lines)
    · exact QueryFinding.group_of_listed sameAssignments (fun _ => FileScan.kind_of_mem_assignmentPass)
        (FileScan.pairwise_assignmentPass lines)
    · exact QueryFinding.group_of_listed sameConstructions (fun _ => FileScan.kind_of_mem_constructionPass)
        (FileScan.pairwise_constructionPass lines)

omit ordered

theorem sampleCalls_in_document_order : sampleCalls.Ordered ∧
    ((SourceTree.ofSource (sampleCalls.lower sampleLines) sampleLines).root.walk.map
      fun node => node.span.start).Pairwise (· ≤ ·) ∧
    ∃ findings,
      FileScan.scan sampleSettings (.ofSource (sampleCalls.lower sampleLines) sampleLines) (.ofTexts "a.cs" "/a.cs") =
        .ok findings ∧
      findings.callSites.map (fun site => site.line.val) = [1, 2] ∧
      findings.queries.map (fun finding => (finding.text, finding.line.val)) =
        [(.ofString "q", 1), (.ofString "r", 2)] ∧
      ∃ calls assignments constructions, findings.queries = calls ++ assignments ++ constructions ∧
        QueryFinding.Group .callArgument calls ∧ QueryFinding.Group .fieldAssignment assignments ∧
          QueryFinding.Group .constructorArgument constructions := by
  have ordered : sampleCalls.Ordered := by decide +kernel
  obtain ⟨walked, findings, scanned, -, groups⟩ :=
    ordered.findings_in_document_order sampleLines sampleSettings "a.cs" "/a.cs"
  obtain ⟨sites, texts⟩ := findings_of_sampleCalls scanned
  exact ⟨ordered, walked, findings, scanned, sites, texts, groups⟩

end Concrete.Ordered
end SqlSurvey
