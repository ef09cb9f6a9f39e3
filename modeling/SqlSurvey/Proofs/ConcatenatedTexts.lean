import SqlSurvey.ConstantTexts

/-! # Concatenations and their operands

A concatenation may nest to either side. Its operands are what is left when all the concatenations at its top are taken
apart, from left to right; the constant text of a node is made of the literals among them, and how they were grouped
does not show. -/
namespace SqlSurvey.Node

/-- The nodes that are reached through concatenations only and are none themselves, from left to right. -/
def operands : Node → List Node
  | .mk _ _ (.binary .concatenate left right) => left.operands ++ right.operands
  | node => [node]
termination_by structural node => node

/-- The constant text by recursion on the tree: a concatenation has the text of its left side and then that of its
right side. -/
def joinedText : Node → Text
  | .mk _ _ (.literal value) => value
  | .mk _ _ (.binary .concatenate left right) => left.joinedText ++ right.joinedText
  | _ => []
termination_by structural node => node

private theorem literal?_getD_eq_joinedText {node : Node}
    (noConcatenation : ∀ span text left right, node = .mk span text (.binary .concatenate left right) → False) :
    node.literal?.getD [] = node.joinedText := by
  fun_cases joinedText node with
  | case1 span text value => rfl
  | case2 span text left right => exact (noConcatenation span text left right rfl).elim
  | case3 node noLiteral _ => rw [literal?.eq_2 node noLiteral, Option.getD_none]

/-- The loop keeps the text: that of the node where it stands, then those of the right operands that wait, the last one
first. -/
theorem joinedText_followLeft (waiting : Array Node) (node : Node) :
    (node.followLeft waiting).head.literal?.getD [] ++
        (node.followLeft waiting).waiting.toList.reverse.flatMap joinedText =
      node.joinedText ++ waiting.toList.reverse.flatMap joinedText := by
  fun_induction followLeft waiting node with
  | case1 waiting span text left right ih =>
    -- The right operand that the step adds is the first of the reversed list, right behind the left operand.
    rw [ih, Array.toList_push, List.reverse_concat, List.flatMap_cons, joinedText, List.append_assoc]
  | case2 waiting node noConcatenation =>
    rw [literal?_getD_eq_joinedText noConcatenation]

/-- Following the left operands down gives the text that recursion on the tree gives. -/
theorem constantText_eq_joinedText (node : Node) : node.constantText = node.joinedText := by
  -- The recursion goes to the operands that wait, which need not stand directly below the node.
  induction node using constantText.induct with
  | case1 node ih =>
    have operands : (node.followLeft #[]).waiting.toList.reverse.map constantText =
        (node.followLeft #[]).waiting.toList.reverse.map joinedText :=
      List.map_congr_left fun operand inside => ih ⟨operand, inside⟩
    rw [constantText, List.flatMap_subtype fun operand _ => rfl, List.unattach_attach, List.flatMap_def, operands,
      ← List.flatMap_def, joinedText_followLeft]
    simp

/-- A constant text depends on the operands alone, not on how they are grouped. -/
theorem joinedText_eq_operands (node : Node) : node.joinedText = (node.operands.filterMap literal?).flatten := by
  fun_induction joinedText node with
  | case1 span text value => simp [operands, literal?]
  | case2 span text left right left_ih right_ih =>
    rw [operands, List.filterMap_append, List.flatten_append, left_ih, right_ih]
  | case3 node noLiteral noConcatenation =>
    have alone : node.operands = [node] := operands.eq_2 node noConcatenation
    have nothing : node.literal? = none := literal?.eq_2 node noLiteral
    rw [alone, List.filterMap_cons_none nothing]
    rfl

/-- The constant text of a node is that of the literals among its operands, one behind the other. It is the text by
recursion on the tree, and trees whose operands have the same literals in the same order have the same text, however
the operands are grouped. -/
theorem constantText_of_operands (node : Node) :
    node.constantText = (node.operands.filterMap literal?).flatten ∧
      node.constantText = node.joinedText ∧
      ∀ other : Node, other.operands.filterMap literal? = node.operands.filterMap literal? →
        other.constantText = node.constantText := by
  have text : ∀ node : Node, node.constantText = (node.operands.filterMap literal?).flatten := by
    intro node
    rw [constantText_eq_joinedText, joinedText_eq_operands]
  refine ⟨text node, constantText_eq_joinedText node, ?_⟩
  intro other same
  rw [text other, text node, same]

def sampleLiteral (value : String) : Node := .mk ⟨0, 0⟩ [] (.literal (.ofString value))

def sampleJoin (left right : Node) : Node := .mk ⟨0, 0⟩ [] (.binary .concatenate left right)

/-- A difference of two literals, which has no text. -/
def sampleDifference : Node := .mk ⟨0, 0⟩ [] (.binary .other (sampleLiteral "x") (sampleLiteral "y"))

/-- Four operands grouped to the left and in pairs, one of them without a text. -/
theorem sample_grouping_hidden :
    constantText (sampleJoin (sampleJoin (sampleJoin (sampleLiteral "ab") sampleDifference) (sampleLiteral "c"))
        (sampleLiteral "d")) =
      constantText (sampleJoin (sampleJoin (sampleLiteral "ab") sampleDifference)
        (sampleJoin (sampleLiteral "c") (sampleLiteral "d"))) ∧
    constantText (sampleJoin (sampleJoin (sampleLiteral "ab") sampleDifference)
        (sampleJoin (sampleLiteral "c") (sampleLiteral "d"))) = .ofString "abcd" := by
  constructor
  · apply (constantText_of_operands _).2.2
    simp [sampleJoin, sampleLiteral, sampleDifference, operands, literal?]
  · rw [(constantText_of_operands _).1]
    simp [sampleJoin, sampleLiteral, sampleDifference, operands, literal?, List.filterMap_cons, Text.ofString]

end SqlSurvey.Node
