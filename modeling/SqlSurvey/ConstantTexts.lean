import SqlSurvey.TreeNodes

/-! # Constant texts

The text that an expression denotes as far as its literals tell: a literal has its value, a concatenation
both of its sides, and anything else nothing. A long concatenation nests to the left, so its left side is followed
down in a loop, and the right operands wait on a list until the leftmost operand is known. -/
namespace SqlSurvey.Node

/-- The leftmost operand of a concatenation and the right operands beside the way to it, the outermost first. -/
structure Spine where
  head : Node
  waiting : Array Node

/-- Follows the left operands down, with right operands that wait already. -/
def followLeft (waiting : Array Node) : Node → Spine
  | .mk _ _ (.binary .concatenate left right) => left.followLeft (waiting.push right)
  | node => ⟨node, waiting⟩
termination_by structural node => node

/-- A right operand that waits in the end was waiting before or is a part of the node. -/
theorem mem_or_sizeOf_lt_of_followLeft {operand : Node} (waiting : Array Node) (node : Node)
    (h : operand ∈ (node.followLeft waiting).waiting) : operand ∈ waiting ∨ sizeOf operand < sizeOf node := by
  fun_induction followLeft waiting node with
  | case1 waiting span text left right ih =>
    simp only [mk.sizeOf_spec, Shape.binary.sizeOf_spec]
    rcases ih h with later | smaller
    · rcases Array.mem_push.1 later with before | rfl
      · exact .inl before
      · exact .inr (by omega)
    · exact .inr (by omega)
  | case2 waiting node other => exact .inl h

def literal? : Node → Option Text
  | .mk _ _ (.literal value) => some value
  | _ => none

/-- The constant text of a node; empty where it has none. -/
def constantText (node : Node) : Text :=
  ((node.followLeft #[]).head.literal?).getD [] ++
    (node.followLeft #[]).waiting.toList.reverse.attach.flatMap fun operand => constantText operand.1
termination_by sizeOf node
decreasing_by
  have inside := List.mem_reverse.1 operand.2
  exact (mem_or_sizeOf_lt_of_followLeft #[] node (Array.mem_toList_iff.1 inside)).resolve_left (by simp)

end SqlSurvey.Node
