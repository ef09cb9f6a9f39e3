import SqlSurvey.CodePoints

/-! # Trees of the shapes that matter to a survey

A node keeps its span, the source text it covers and one of a few shapes. The walk visits a tree with a list
of the nodes that still wait; `Node.preorder` is the same order by recursion. -/
namespace SqlSurvey

/-- Byte offsets of the first byte and of the byte after the last. -/
structure Span where
  start : Int
  stop : Int
deriving DecidableEq

/-- Of the binary operators, only the one that joins strings matters. -/
inductive Operator where
  | concatenate
  | other
deriving DecidableEq

/-- What an import brings: a plain name, or something else (an alias, a static import). -/
inductive ImportClause where
  | simple (name : Text)
  | other
deriving DecidableEq

/-- The shape of a node over its parts. A construction without an argument list is not one with an empty
list. -/
inductive Shape (α : Type) where
  | bare
  | group (kind : Text) (nodes : List α)
  | imports (clauses : List ImportClause)
  | literal (value : Text)
  | binary (operator : Operator) (left right : α)
  | member (receiver name : α)
  | invocation (callee : α) (arguments : List α)
  | assignment (left right : α)
  | construction (typeName : Text) (arguments : Option (List α)) (initializer : Option α)

namespace Shape

variable {α β : Type}

/-- The parts of a shape in source order. -/
def parts : Shape α → List α
  | .bare | .imports _ | .literal _ => []
  | .group _ nodes => nodes
  | .binary _ left right | .assignment left right => [left, right]
  | .member receiver name => [receiver, name]
  | .invocation callee arguments => callee :: arguments
  | .construction _ arguments initializer => arguments.getD [] ++ initializer.toList

/-- The same shape over other parts, each made from a part that is known to belong to the shape. -/
def mapParts (shape : Shape α) (f : (part : α) → part ∈ shape.parts → β) : Shape β :=
  match shape, f with
  | .bare, _ => .bare
  | .imports clauses, _ => .imports clauses
  | .literal value, _ => .literal value
  | .group kind nodes, f => .group kind (nodes.attach.map fun node => f node.1 node.2)
  | .binary operator left right, f => .binary operator (f left (by simp [parts])) (f right (by simp [parts]))
  | .assignment left right, f => .assignment (f left (by simp [parts])) (f right (by simp [parts]))
  | .member receiver name, f => .member (f receiver (by simp [parts])) (f name (by simp [parts]))
  | .invocation callee arguments, f =>
    .invocation (f callee (by simp [parts]))
      (arguments.attach.map fun argument => f argument.1 (by simp [parts, argument.2]))
  | .construction typeName arguments initializer, f =>
    .construction typeName
      (match arguments, f with
        | none, _ => none
        | some arguments, f =>
          some (arguments.attach.map fun argument => f argument.1 (by simp [parts, argument.2])))
      (match initializer, f with
        | none, _ => none
        | some initializer, f => some (f initializer (by simp [parts])))

theorem mapParts_congr {shape : Shape α} {f g : (part : α) → part ∈ shape.parts → β}
    (same : ∀ part inside, f part inside = g part inside) : shape.mapParts f = shape.mapParts g :=
  congrArg shape.mapParts (funext fun part => funext (same part))

/-- The parts of the same shape over other parts are the other parts. -/
theorem parts_mapParts (shape : Shape α) (f : α → β) :
    (shape.mapParts fun part _ => f part).parts = shape.parts.map f := by
  cases shape with
  | construction typeName arguments initializer =>
    cases arguments <;> cases initializer <;> simp [mapParts, parts]
  | _ => simp [mapParts, parts]

theorem sizeOf_lt_of_mem_parts {shape : Shape α} [SizeOf α] {part : α} (h : part ∈ shape.parts) :
    sizeOf part < sizeOf shape := by
  cases shape with
  | bare | imports | literal => simp [parts] at h
  | group kind nodes =>
    have := List.sizeOf_lt_of_mem (show part ∈ nodes from h)
    simp only [group.sizeOf_spec]
    omega
  | binary operator left right =>
    simp only [parts, List.mem_cons, List.not_mem_nil, or_false] at h
    simp only [binary.sizeOf_spec]
    rcases h with rfl | rfl <;> omega
  | member receiver name =>
    simp only [parts, List.mem_cons, List.not_mem_nil, or_false] at h
    simp only [member.sizeOf_spec]
    rcases h with rfl | rfl <;> omega
  | assignment left right =>
    simp only [parts, List.mem_cons, List.not_mem_nil, or_false] at h
    simp only [assignment.sizeOf_spec]
    rcases h with rfl | rfl <;> omega
  | invocation callee arguments =>
    simp only [parts, List.mem_cons] at h
    simp only [invocation.sizeOf_spec]
    rcases h with rfl | h
    · omega
    · have := List.sizeOf_lt_of_mem h
      omega
  | construction typeName arguments initializer =>
    simp only [parts, List.mem_append] at h
    simp only [construction.sizeOf_spec]
    rcases h with h | h
    · cases arguments with
      | none => simp at h
      | some arguments =>
        have := List.sizeOf_lt_of_mem (show part ∈ arguments by simpa using h)
        simp only [Option.some.sizeOf_spec]
        omega
    · cases initializer with
      | none => simp at h
      | some initializer =>
        obtain rfl : part = initializer := by simpa using h
        simp only [Option.some.sizeOf_spec]
        omega

end Shape

inductive Node where
  | mk (span : Span) (text : Text) (shape : Shape Node)

namespace Node

instance : Inhabited Node := ⟨.mk ⟨0, 0⟩ [] .bare⟩

def span : Node → Span
  | .mk span _ _ => span

def text : Node → Text
  | .mk _ text _ => text

def shape : Node → Shape Node
  | .mk _ _ shape => shape

def children (node : Node) : List Node := node.shape.parts

theorem sizeOf_lt_of_mem_children {node child : Node} (h : child ∈ node.children) :
    sizeOf child < sizeOf node := by
  cases node with
  | mk span text shape =>
    have := Shape.sizeOf_lt_of_mem_parts h
    simp only [Node.mk.sizeOf_spec, Node.shape] at this ⊢
    omega

/-- A property holds of every node if it holds of a node whenever it holds of the children. -/
theorem induction_children {p : Node → Prop} (step : ∀ node, (∀ child ∈ node.children, p child) → p node)
    (node : Node) : p node :=
  step node fun child h =>
    have := sizeOf_lt_of_mem_children h
    induction_children step child
termination_by sizeOf node

/-- The node and all below it, a node before its children and these in source order. -/
def preorder (node : Node) : List Node :=
  node :: node.children.attach.flatMap fun child => preorder child.1
termination_by sizeOf node
decreasing_by exact sizeOf_lt_of_mem_children child.2

theorem preorder_eq (node : Node) : node.preorder = node :: node.children.flatMap preorder := by
  rw [preorder]
  congr 1
  exact List.flatMap_subtype (fun _ _ => rfl) |>.trans (by simp)

/-- Visits the waiting nodes, the first of them next; its children go in front of the others. -/
def visit : List Node → List Node
  | [] => []
  | node :: waiting => node :: visit (node.children ++ waiting)
termination_by waiting => (waiting.flatMap preorder).length
decreasing_by
  rw [List.flatMap_append, List.flatMap_cons, preorder_eq node, List.cons_append]
  exact Nat.lt_succ_self _

/-- Every node of the tree in document order. -/
def walk (node : Node) : List Node := visit [node]

/-- The work list of the walk stands for the recursive order of its nodes. -/
theorem visit_eq (waiting : List Node) : visit waiting = waiting.flatMap preorder := by
  fun_induction visit waiting with
  | case1 => rfl
  | case2 node waiting ih => simp [ih, preorder_eq node]

/-- The walk is the recursive order. -/
theorem walk_eq_preorder (node : Node) : node.walk = node.preorder := by
  simp [walk, visit_eq]

end Node
end SqlSurvey
