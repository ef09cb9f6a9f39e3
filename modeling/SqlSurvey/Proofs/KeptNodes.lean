import SqlSurvey.LineTables
import SqlSurvey.Proofs.RecursiveLowering

/-! # The concrete nodes that a walk meets

Lowering drops punctuation, the wrappers around arguments, comments beside an argument and all that lies below
imports and literals. `Concrete.kept` says what stays below a concrete node, by its kind and its fields alone.
The walk over a lowered tree meets the nodes that stay, each once, in the order of the recursion. -/
namespace SqlSurvey

/-- What a node is, whatever stands in it. -/
inductive NodeForm where
  | bare
  | group
  | imports
  | literal
  | binary
  | member
  | invocation
  | assignment
  | construction
deriving DecidableEq

def Shape.form {α : Type} : Shape α → NodeForm
  | .bare => .bare
  | .group _ _ => .group
  | .imports _ => .imports
  | .literal _ => .literal
  | .binary _ _ _ => .binary
  | .member _ _ => .member
  | .invocation _ _ => .invocation
  | .assignment _ _ => .assignment
  | .construction _ _ _ => .construction

@[simp] theorem Shape.form_mapParts {α β : Type} (shape : Shape α) (f : (part : α) → part ∈ shape.parts → β) :
    (shape.mapParts f).form = shape.form := by
  cases shape <;> rfl

namespace Concrete

def fills (c : Concrete) (name : String) : Bool := (c.child? (Text.ofString name)).isSome

def fillers (c : Concrete) (names : List String) : List Concrete :=
  names.filterMap fun name => c.child? (Text.ofString name)

def literalKinds : List Text :=
  ["string_literal", "verbatim_string_literal", "raw_string_literal"].map Text.ofString

/-- What a concrete node becomes. A kind with a rule needs the fields of its rule. -/
def form (c : Concrete) : NodeForm :=
  if c.kind = Text.ofString "using_directive" then .imports
  else if literalKinds.contains c.kind then .literal
  else if c.kind = Text.ofString "invocation_expression" ∧ c.fills "function" then .invocation
  else if c.kind = Text.ofString "member_access_expression" ∧ c.fills "expression" ∧ c.fills "name" then .member
  else if c.kind = Text.ofString "assignment_expression" ∧ c.fills "left" ∧ c.fills "right" then .assignment
  else if c.kind = Text.ofString "binary_expression" ∧ c.fills "left" ∧ c.fills "right" then .binary
  else if c.kind = Text.ofString "object_creation_expression" ∧ c.fills "type" then .construction
  else .group

def lastExpression? (argument : Concrete) : Option Concrete :=
  argument.children.reverse.find? fun child => child.named && child.kind != Text.ofString "comment"

/-- The last expressions of the named children of kind `argument` in the argument list. -/
def keptArguments (c : Concrete) : List Concrete :=
  (c.fillers ["arguments"]).flatMap fun list =>
    (list.namedChildren.filter fun child => child.kind == Text.ofString "argument").filterMap lastExpression?

def kept (c : Concrete) : List Concrete :=
  match c.form with
  | .imports | .literal | .bare => []
  | .invocation => c.fillers ["function"] ++ c.keptArguments
  | .member => c.fillers ["expression", "name"]
  | .assignment | .binary => c.fillers ["left", "right"]
  | .construction => c.keptArguments ++ c.fillers ["initializer"]
  | .group => c.namedChildren

private theorem argumentExpression?_eq (argument : Concrete) :
    argument.argumentExpression? = argument.lastExpression? := by
  rw [argumentExpression?, lastExpression?, namedChildren, List.filter_filter, List.getLast?_filter]
  congr 1
  funext child
  exact Bool.and_comm _ _

private theorem keptArguments_eq (c : Concrete) :
    c.keptArguments = ((c.child? (Text.ofString "arguments")).map argumentExpressions).getD [] := by
  have same : argumentExpression? = lastExpression? := funext argumentExpression?_eq
  cases found : c.child? (Text.ofString "arguments") with
  | none => simp [keptArguments, fillers, found]
  | some list => simp [keptArguments, fillers, found, argumentExpressions, same]

/-- The outline of a node has the form of the node, over the nodes that stay below it. -/
private def Agrees (source : Bytes) (c : Concrete) : Prop :=
  (c.outline source).form = c.form ∧ (c.outline source).parts = c.kept

private theorem agrees_of_imports (source : Bytes) {c : Concrete}
    (kind : c.kind = Text.ofString "using_directive") : Agrees source c := by
  have form : c.form = .imports := if_pos kind
  have rule : Construct.ofKind c.kind = .importDirective := by rw [kind]; rfl
  simp [Agrees, outline, kept, form, rule, Shape.form, Shape.parts]

private theorem agrees_of_literal (source : Bytes) {c : Concrete} (kind : c.kind ∈ literalKinds) :
    Agrees source c := by
  have different : c.kind ≠ Text.ofString "using_directive" := by
    intro equal
    rw [equal] at kind
    exact absurd kind (by decide)
  have form : c.form = .literal := by rw [Concrete.form, if_neg different, if_pos (List.contains_iff_mem.2 kind)]
  obtain ⟨literal, rule⟩ : ∃ literal, Construct.ofKind c.kind = .literal literal := by
    simp only [literalKinds, List.map_cons, List.map_nil, List.mem_cons, List.not_mem_nil, or_false] at kind
    rcases kind with kind | kind | kind
    · exact ⟨.regular, by rw [kind]; rfl⟩
    · exact ⟨.verbatim, by rw [kind]; rfl⟩
    · exact ⟨.raw, by rw [kind]; rfl⟩
  simp [Agrees, outline, kept, form, rule, Shape.form, Shape.parts]

private theorem agrees_of_invocation (source : Bytes) {c : Concrete}
    (kind : c.kind = Text.ofString "invocation_expression") : Agrees source c := by
  have rule : Construct.ofKind c.kind = .invocation := by rw [kind]; rfl
  cases callee : c.child? (Text.ofString "function") with
  | none =>
    have form : c.form = .group := by simp +decide [Concrete.form, kind, fills, callee, literalKinds]
    simp [Agrees, outline, kept, form, rule, callee, group, Shape.form, Shape.parts]
  | some callee' =>
    have form : c.form = .invocation := by simp +decide [Concrete.form, kind, fills, callee, literalKinds]
    simp [Agrees, outline, kept, form, rule, callee, fillers, keptArguments_eq, Shape.form, Shape.parts]

private theorem agrees_of_group (source : Bytes) {c : Concrete} (outlined : c.outline source = c.group)
    (form : c.form = .group) : Agrees source c := by
  simp [Agrees, outlined, kept, form, group, Shape.form, Shape.parts]

/-- The rules with two operands differ in the fields they need and in the shape they make. -/
private theorem agrees_of_pair (source : Bytes) (c : Concrete) (first second : String)
    (make : Concrete → Concrete → Shape Concrete) (form : NodeForm)
    (outlined : c.outline source = c.pairOrGroup first second make)
    (made : ∀ left right, (make left right).form = form ∧ (make left right).parts = [left, right])
    (formed : c.form = if c.fills first ∧ c.fills second then form else .group)
    (keeps : c.form = form → c.kept = c.fillers [first, second]) : Agrees source c := by
  unfold pairOrGroup at outlined
  split at outlined
  · rename_i left right foundLeft foundRight
    rw [if_pos ⟨by simp [fills, foundLeft], by simp [fills, foundRight]⟩] at formed
    rw [Agrees, outlined, formed, keeps formed]
    refine ⟨(made left right).1, (made left right).2.trans ?_⟩
    simp [fillers, foundLeft, foundRight]
  · rename_i missing
    refine agrees_of_group source outlined (formed.trans (if_neg ?_))
    rintro ⟨first, second⟩
    obtain ⟨left, foundLeft⟩ := Option.isSome_iff_exists.1 first
    obtain ⟨right, foundRight⟩ := Option.isSome_iff_exists.1 second
    exact missing left right foundLeft foundRight

private theorem agrees_of_member (source : Bytes) {c : Concrete}
    (kind : c.kind = Text.ofString "member_access_expression") : Agrees source c := by
  have rule : Construct.ofKind c.kind = .memberAccess := by rw [kind]; rfl
  refine agrees_of_pair source c "expression" "name" .member .member ?_ (fun _ _ => ⟨rfl, rfl⟩) ?_ ?_
  · rw [outline, rule]
    rfl
  · simp +decide [Concrete.form, kind, literalKinds]
  · intro form
    rw [kept, form]

private theorem agrees_of_assignment (source : Bytes) {c : Concrete}
    (kind : c.kind = Text.ofString "assignment_expression") : Agrees source c := by
  have rule : Construct.ofKind c.kind = .assignment := by rw [kind]; rfl
  refine agrees_of_pair source c "left" "right" .assignment .assignment ?_ (fun _ _ => ⟨rfl, rfl⟩) ?_ ?_
  · rw [outline, rule]
    rfl
  · simp +decide [Concrete.form, kind, literalKinds]
  · intro form
    rw [kept, form]

private theorem agrees_of_binary (source : Bytes) {c : Concrete}
    (kind : c.kind = Text.ofString "binary_expression") : Agrees source c := by
  refine agrees_of_pair source c "left" "right" (.binary c.operator) .binary ?_ (fun _ _ => ⟨rfl, rfl⟩) ?_ ?_
  · exact outline_of_binary source kind
  · simp +decide [Concrete.form, kind, literalKinds]
  · intro form
    rw [kept, form]

private theorem agrees_of_construction (source : Bytes) {c : Concrete}
    (kind : c.kind = Text.ofString "object_creation_expression") : Agrees source c := by
  have rule : Construct.ofKind c.kind = .construction := by rw [kind]; rfl
  cases typeNode : c.child? (Text.ofString "type") with
  | none =>
    refine agrees_of_group source ?_ ?_
    · simp [outline, rule, typeNode]
    · simp +decide [Concrete.form, kind, fills, typeNode, literalKinds]
  | some typeNode' =>
    have form : c.form = .construction := by simp +decide [Concrete.form, kind, fills, typeNode, literalKinds]
    refine ⟨by simp [outline, form, rule, typeNode, Shape.form], ?_⟩
    simp only [outline, rule, typeNode, kept, form, Shape.parts, keptArguments_eq]
    cases initializer : c.child? (Text.ofString "initializer") <;> simp [fillers, initializer]

private theorem agrees_of_other (source : Bytes) {c : Concrete}
    (imports : c.kind ≠ Text.ofString "using_directive") (literal : c.kind ∉ literalKinds)
    (invocation : c.kind ≠ Text.ofString "invocation_expression")
    (member : c.kind ≠ Text.ofString "member_access_expression")
    (assignment : c.kind ≠ Text.ofString "assignment_expression")
    (binary : c.kind ≠ Text.ofString "binary_expression")
    (construction : c.kind ≠ Text.ofString "object_creation_expression") : Agrees source c := by
  have form : c.form = .group := by
    simp [Concrete.form, imports, literal, invocation, member, assignment, binary, construction]
  refine agrees_of_group source ?_ form
  have rule : Construct.ofKind c.kind = .other := by
    simp only [literalKinds, List.map_cons, List.map_nil, List.mem_cons, List.not_mem_nil, or_false, not_or]
      at literal
    simp [Construct.ofKind, Construct.kinds, List.lookup_cons, imports, literal, invocation, member, assignment,
      binary, construction, beq_false_of_ne]
  rw [outline, rule]

/-- Every rule agrees with the table of forms, one case for each construct. -/
private theorem agrees (source : Bytes) (c : Concrete) : Agrees source c := by
  by_cases imports : c.kind = Text.ofString "using_directive"
  · exact agrees_of_imports source imports
  by_cases literal : c.kind ∈ literalKinds
  · exact agrees_of_literal source literal
  by_cases invocation : c.kind = Text.ofString "invocation_expression"
  · exact agrees_of_invocation source invocation
  by_cases member : c.kind = Text.ofString "member_access_expression"
  · exact agrees_of_member source member
  by_cases assignment : c.kind = Text.ofString "assignment_expression"
  · exact agrees_of_assignment source assignment
  by_cases binary : c.kind = Text.ofString "binary_expression"
  · exact agrees_of_binary source binary
  by_cases construction : c.kind = Text.ofString "object_creation_expression"
  · exact agrees_of_construction source construction
  exact agrees_of_other source imports literal invocation member assignment binary construction

/-- The form of an outline can be read off the concrete node. -/
theorem form_outline (source : Bytes) (c : Concrete) : (c.outline source).form = c.form := (agrees source c).1

/-- The parts of an outline are the nodes that stay, and the source has no say in it. -/
theorem parts_outline (source : Bytes) (c : Concrete) : (c.outline source).parts = c.kept := (agrees source c).2

theorem sizeOf_lt_of_mem_kept {c d : Concrete} (h : d ∈ c.kept) : sizeOf d < sizeOf c :=
  sizeOf_lt_of_mem_outline [] (by rw [parts_outline]; exact h)

/-- The node and all that stays below it, a node before what stays below it. -/
def keptPreorder (c : Concrete) : List Concrete :=
  c :: c.kept.attach.flatMap fun d => keptPreorder d.1
termination_by sizeOf c
decreasing_by exact sizeOf_lt_of_mem_kept d.2

theorem keptPreorder_eq (c : Concrete) : c.keptPreorder = c :: c.kept.flatMap keptPreorder := by
  rw [keptPreorder]
  congr 1
  exact List.flatMap_subtype (fun _ _ => rfl) |>.trans (by simp)

/-- The lowered tree is laid out as the concrete nodes that stay. -/
theorem preorder_lower (source : Bytes) (c : Concrete) :
    (c.lower source).preorder = c.keptPreorder.map (lower source) := by
  induction c using induction_outline source with
  | step c ih =>
    rw [Node.preorder_eq, keptPreorder_eq, children_lower, parts_outline, List.map_cons, List.flatMap_map,
      List.map_flatMap]
    rw [parts_outline] at ih
    rw [List.flatMap_def, List.flatMap_def, List.map_congr_left ih]

/-- The walk over the tree of a source meets the lowered nodes that stay, one for each and in their order; each
has the form, the span and the text of its concrete node. -/
theorem walk_ofSource_lower (source : Bytes) (c : Concrete) :
    (SourceTree.ofSource (c.lower source) source).root.walk = c.keptPreorder.map (lower source) ∧
    (SourceTree.ofSource (c.lower source) source).root.walk.map
        (fun node => (node.shape.form, node.span, node.text)) =
      c.keptPreorder.map fun d => (d.form, d.span, d.text source) := by
  have walked : (SourceTree.ofSource (c.lower source) source).root.walk = c.keptPreorder.map (lower source) := by
    rw [SourceTree.ofSource, Node.walk_eq_preorder, preorder_lower]
  refine ⟨walked, ?_⟩
  rw [walked, List.map_map]
  apply List.map_congr_left
  intro d _
  simp [shape_lower, form_outline]

end Concrete
end SqlSurvey
