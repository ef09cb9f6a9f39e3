import SqlSurvey.ConcreteTrees
import SqlSurvey.StringLiterals

/-! # From concrete trees to the shapes that matter

`Concrete.outline` gives the shape of one concrete node over the concrete nodes below it; everything without
a rule is a group of its named children. Lowering turns a whole tree. A chain of binary operators nests to
the left as deep as it is long, so its links wait on a list while the chain is followed down. -/
namespace SqlSurvey

inductive Construct where
  | importDirective
  | invocation
  | memberAccess
  | assignment
  | construction
  | binary
  | literal (form : LiteralForm)
  | other
deriving DecidableEq

namespace Construct

def kinds : List (Text × Construct) :=
  [(Text.ofString "using_directive", importDirective),
   (Text.ofString "invocation_expression", invocation),
   (Text.ofString "member_access_expression", memberAccess),
   (Text.ofString "assignment_expression", assignment),
   (Text.ofString "object_creation_expression", construction),
   (Text.ofString "binary_expression", binary),
   (Text.ofString "string_literal", literal .regular),
   (Text.ofString "verbatim_string_literal", literal .verbatim),
   (Text.ofString "raw_string_literal", literal .raw)]

def ofKind (kind : Text) : Construct := (kinds.lookup kind).getD other

end Construct

namespace Concrete

def importNameKinds : List Text :=
  ["identifier", "qualified_name", "generic_name", "alias_qualified_name"].map Text.ofString

/-- The kinds of nodes that make an import something other than a plain one. -/
def importMarkerKinds : List Text := ["static", "=", "name_equals"].map Text.ofString

/-- What an import directive brings: the last name in it, unless a marker stands in it. -/
def importClause (source : Bytes) (c : Concrete) : ImportClause :=
  if c.children.any fun child => importMarkerKinds.contains child.kind then .other
  else match (c.namedChildren.filter fun child => importNameKinds.contains child.kind).getLast? with
    | some name => .simple (name.text source)
    | none => .other

/-- The expression of an argument is the last thing in it but comments. -/
def argumentExpression? (argument : Concrete) : Option Concrete :=
  (argument.namedChildren.filter fun child => child.kind != Text.ofString "comment").getLast?

def argumentExpressions (argumentList : Concrete) : List Concrete :=
  (argumentList.namedChildren.filter fun child => child.kind == Text.ofString "argument").filterMap
    argumentExpression?

def operator (c : Concrete) : Operator :=
  match c.child? (Text.ofString "operator") with
  | some operator => if operator.kind = Text.ofString "+" then .concatenate else .other
  | none => .other

/-- A node without a rule keeps its named children. -/
def group (c : Concrete) : Shape Concrete := .group c.kind c.namedChildren

/-- The shape of a node. A node that lacks a part its rule needs is a group. -/
def outline (source : Bytes) (c : Concrete) : Shape Concrete :=
  match Construct.ofKind c.kind with
  | .importDirective => .imports [c.importClause source]
  | .literal form => .literal (form.value (c.text source))
  | .invocation =>
    match c.child? (Text.ofString "function") with
    | some callee =>
      .invocation callee (((c.child? (Text.ofString "arguments")).map argumentExpressions).getD [])
    | none => c.group
  | .memberAccess =>
    match c.child? (Text.ofString "expression"), c.child? (Text.ofString "name") with
    | some receiver, some name => .member receiver name
    | _, _ => c.group
  | .assignment =>
    match c.child? (Text.ofString "left"), c.child? (Text.ofString "right") with
    | some left, some right => .assignment left right
    | _, _ => c.group
  | .construction =>
    match c.child? (Text.ofString "type") with
    | some typeNode =>
      .construction (typeNode.text source) ((c.child? (Text.ofString "arguments")).map argumentExpressions)
        (c.child? (Text.ofString "initializer"))
    | none => c.group
  | .binary =>
    match c.child? (Text.ofString "left"), c.child? (Text.ofString "right") with
    | some left, some right => .binary c.operator left right
    | _, _ => c.group
  | .other => c.group

private theorem sizeOf_lt_of_mem_group {c d : Concrete} (h : d ∈ c.group.parts) : sizeOf d < sizeOf c :=
  sizeOf_lt_of_mem_children (mem_children_of_mem_namedChildren h)

private theorem sizeOf_lt_of_child? {c d : Concrete} {name : Text} (h : c.child? name = some d) :
    sizeOf d < sizeOf c :=
  sizeOf_lt_of_mem_children (mem_children_of_child? h)

private theorem sizeOf_lt_of_mem_argumentExpressions {c d : Concrete} (h : d ∈ c.argumentExpressions) :
    sizeOf d < sizeOf c := by
  simp only [argumentExpressions, List.mem_filterMap, List.mem_filter] at h
  obtain ⟨argument, ⟨below, -⟩, last⟩ := h
  have inside : d ∈ argument.namedChildren := (List.mem_filter.1 (List.mem_of_getLast? last)).1
  have outer := sizeOf_lt_of_mem_children (mem_children_of_mem_namedChildren below)
  have inner := sizeOf_lt_of_mem_children (mem_children_of_mem_namedChildren inside)
  omega

private theorem sizeOf_lt_of_mem_arguments {c d : Concrete} {name : Text}
    (h : d ∈ ((c.child? name).map argumentExpressions).getD []) : sizeOf d < sizeOf c := by
  cases found : c.child? name with
  | none => simp [found] at h
  | some argumentList =>
    have outer := sizeOf_lt_of_child? found
    have inner : sizeOf d < sizeOf argumentList :=
      sizeOf_lt_of_mem_argumentExpressions (by simpa [found] using h)
    omega

/-- The parts of the shape of a node lie below the node. -/
theorem sizeOf_lt_of_mem_outline (source : Bytes) {c d : Concrete} (h : d ∈ (c.outline source).parts) :
    sizeOf d < sizeOf c := by
  unfold outline at h
  split at h
  · simp [Shape.parts] at h
  · simp [Shape.parts] at h
  · split at h
    · rename_i callee found
      simp only [Shape.parts, List.mem_cons] at h
      rcases h with rfl | h
      · exact sizeOf_lt_of_child? found
      · exact sizeOf_lt_of_mem_arguments h
    · exact sizeOf_lt_of_mem_group h
  · split at h
    · rename_i receiver name foundReceiver foundName
      simp only [Shape.parts, List.mem_cons, List.not_mem_nil, or_false] at h
      rcases h with rfl | rfl
      · exact sizeOf_lt_of_child? foundReceiver
      · exact sizeOf_lt_of_child? foundName
    · exact sizeOf_lt_of_mem_group h
  · split at h
    · rename_i left right foundLeft foundRight
      simp only [Shape.parts, List.mem_cons, List.not_mem_nil, or_false] at h
      rcases h with rfl | rfl
      · exact sizeOf_lt_of_child? foundLeft
      · exact sizeOf_lt_of_child? foundRight
    · exact sizeOf_lt_of_mem_group h
  · split at h
    · simp only [Shape.parts, List.mem_append] at h
      rcases h with h | h
      · exact sizeOf_lt_of_mem_arguments h
      · exact sizeOf_lt_of_child? (Option.mem_toList.1 h)
    · exact sizeOf_lt_of_mem_group h
  · split at h
    · rename_i left right foundLeft foundRight
      simp only [Shape.parts, List.mem_cons, List.not_mem_nil, or_false] at h
      rcases h with rfl | rfl
      · exact sizeOf_lt_of_child? foundLeft
      · exact sizeOf_lt_of_child? foundRight
    · exact sizeOf_lt_of_mem_group h
  · exact sizeOf_lt_of_mem_group h

end Concrete

/-- A binary expression that waits for its left operand. -/
structure ChainLink where
  span : Span
  text : Text
  operator : Operator
  right : Node

namespace ChainLink

def close (left : Node) (link : ChainLink) : Node :=
  .mk link.span link.text (.binary link.operator left link.right)

end ChainLink

namespace Concrete

/-- Lowers a node and closes the links that wait for it, the innermost first. -/
def lowerInto (source : Bytes) (links : List ChainLink) (c : Concrete) : Node :=
  match outlined : c.outline source with
  | .binary operator left right =>
    have _ : sizeOf left < sizeOf c := sizeOf_lt_of_mem_outline source (by simp [outlined, Shape.parts])
    have _ : sizeOf right < sizeOf c := sizeOf_lt_of_mem_outline source (by simp [outlined, Shape.parts])
    lowerInto source (⟨c.span, c.text source, operator, lowerInto source [] right⟩ :: links) left
  | shape =>
    links.foldl ChainLink.close (.mk c.span (c.text source) (shape.mapParts fun part inside =>
      have _ : sizeOf part < sizeOf c := sizeOf_lt_of_mem_outline source (by rw [outlined]; exact inside)
      lowerInto source [] part))
termination_by sizeOf c

def lower (source : Bytes) (c : Concrete) : Node := lowerInto source [] c

end Concrete
end SqlSurvey
