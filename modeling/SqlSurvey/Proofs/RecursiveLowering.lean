import SqlSurvey.TreeLowering

/-! # Lowering by recursion

The links that wait while a chain is followed down do not show in the result: the lowered node has the span and
the text of the concrete node, and the outline of the concrete node over its lowered parts. So a chain of any length,
wherever it stands and however it ends, is lowered as `Concrete.lowerPlain` lowers it, one operator at a time. -/
namespace SqlSurvey.Concrete

/-- A property holds of every concrete node if it holds of a node whenever it holds of the parts of its outline. -/
theorem induction_outline (source : Bytes) {p : Concrete → Prop}
    (step : ∀ c, (∀ d ∈ (c.outline source).parts, p d) → p c) (c : Concrete) : p c :=
  step c fun d h =>
    have := sizeOf_lt_of_mem_outline source h
    induction_outline source step d
termination_by sizeOf c

/-- A chain that is entered with waiting links is the chain entered without them, closed by the links. -/
theorem lowerInto_eq_foldl (source : Bytes) (links : List ChainLink) (c : Concrete) :
    lowerInto source links c = links.foldl ChainLink.close (c.lower source) := by
  -- The recursion goes to the left operand with one more link, so the links have to be arbitrary.
  induction c using induction_outline source generalizing links with
  | step c ih =>
    unfold lower
    rw [lowerInto, lowerInto]
    split
    · rename_i operator left right outlined
      have below : left ∈ (c.outline source).parts := by simp [outlined, Shape.parts]
      rw [ih left below, ih left below]
      rfl
    · rfl

/-- Lowering keeps span and text and lowers the parts of the outline one by one. -/
theorem lower_eq (source : Bytes) (c : Concrete) :
    c.lower source =
      .mk c.span (c.text source) ((c.outline source).mapParts fun part _ => part.lower source) := by
  rw [lower, lowerInto]
  split
  · rename_i operator left right outlined
    rw [lowerInto_eq_foldl, outlined]
    rfl
  · rfl

@[simp] theorem span_lower (source : Bytes) (c : Concrete) : (c.lower source).span = c.span := by
  rw [lower_eq]
  rfl

@[simp] theorem text_lower (source : Bytes) (c : Concrete) : (c.lower source).text = c.text source := by
  rw [lower_eq]
  rfl

/-- The shape of a lowered node is its outline over the lowered parts. -/
theorem shape_lower (source : Bytes) (c : Concrete) :
    (c.lower source).shape = (c.outline source).mapParts fun part _ => part.lower source := by
  rw [lower_eq]
  rfl

theorem children_lower (source : Bytes) (c : Concrete) :
    (c.lower source).children = (c.outline source).parts.map (lower source) := by
  rw [Node.children, shape_lower, Shape.parts_mapParts]

/-- The shape over two fields, or the group where one of them is empty. -/
def pairOrGroup (c : Concrete) (first second : String) (make : Concrete → Concrete → Shape Concrete) :
    Shape Concrete :=
  match c.child? (Text.ofString first), c.child? (Text.ofString second) with
  | some left, some right => make left right
  | _, _ => c.group

theorem outline_of_binary (source : Bytes) {c : Concrete} (kind : c.kind = Text.ofString "binary_expression") :
    c.outline source = c.pairOrGroup "left" "right" (.binary c.operator) := by
  have rule : Construct.ofKind c.kind = .binary := by rw [kind]; rfl
  rw [outline, rule]
  rfl

def concatenates (c : Concrete) : Bool :=
  (c.child? (Text.ofString "operator")).any fun sign => sign.kind == Text.ofString "+"

/-- Lowering without links: a binary expression with both operands is lowered operand by operand, one that lacks an
operand keeps its named children, and the parts of any other node are lowered where they stand. -/
def lowerPlain (source : Bytes) (c : Concrete) : Node :=
  .mk c.span (c.text source) <|
    if c.kind = Text.ofString "binary_expression" then
      match foundLeft : c.child? (Text.ofString "left"), foundRight : c.child? (Text.ofString "right") with
      | some left, some right =>
        have _ : sizeOf left < sizeOf c := sizeOf_lt_of_mem_children (mem_children_of_child? foundLeft)
        have _ : sizeOf right < sizeOf c := sizeOf_lt_of_mem_children (mem_children_of_child? foundRight)
        .binary (if c.concatenates then .concatenate else .other) (lowerPlain source left) (lowerPlain source right)
      | _, _ =>
        .group c.kind (c.namedChildren.attach.map fun ⟨child, inside⟩ =>
          have _ : sizeOf child < sizeOf c := sizeOf_lt_of_mem_children (mem_children_of_mem_namedChildren inside)
          lowerPlain source child)
    else
      (c.outline source).mapParts fun part inside =>
        have _ : sizeOf part < sizeOf c := sizeOf_lt_of_mem_outline source inside
        lowerPlain source part
termination_by sizeOf c

private theorem operator_eq (c : Concrete) : c.operator = if c.concatenates then .concatenate else .other := by
  cases found : c.child? (Text.ofString "operator") with
  | none => simp [operator, concatenates, found]
  | some sign => simp [operator, concatenates, found]

private theorem outline_of_operands (source : Bytes) {c left right : Concrete}
    (kind : c.kind = Text.ofString "binary_expression") (foundLeft : c.child? (Text.ofString "left") = some left)
    (foundRight : c.child? (Text.ofString "right") = some right) :
    c.outline source = .binary (if c.concatenates then .concatenate else .other) left right := by
  rw [outline_of_binary source kind, pairOrGroup, ← operator_eq]
  simp only [foundLeft, foundRight]

private theorem outline_of_missing (source : Bytes) {c : Concrete} (kind : c.kind = Text.ofString "binary_expression")
    (missing : ∀ left right, c.child? (Text.ofString "left") = some left →
      c.child? (Text.ofString "right") = some right → False) :
    c.outline source = .group c.kind c.namedChildren := by
  rw [outline_of_binary source kind, pairOrGroup]
  split
  · rename_i left right foundLeft foundRight
    exact (missing left right foundLeft foundRight).elim
  · rfl

/-- Following chains down with links that wait and lowering each operand in its place give the same tree. -/
theorem lower_eq_lowerPlain (source : Bytes) (c : Concrete) : c.lower source = c.lowerPlain source := by
  induction c using induction_outline source with
  | step c ih =>
    rw [lower_eq, lowerPlain]
    congr 1
    by_cases kind : c.kind = Text.ofString "binary_expression"
    · rw [if_pos kind]
      split
      · rename_i left right foundLeft foundRight
        rw [outline_of_operands source kind foundLeft foundRight] at ih ⊢
        have first : left.lower source = left.lowerPlain source := ih left (by simp [Shape.parts])
        have second : right.lower source = right.lowerPlain source := ih right (by simp [Shape.parts])
        rw [← first, ← second]
        rfl
      · rename_i missing
        rw [outline_of_missing source kind missing] at ih ⊢
        apply congrArg (Shape.group c.kind)
        apply List.map_congr_left
        intro child _
        exact ih child.1 child.2
    · rw [if_neg kind]
      exact Shape.mapParts_congr ih

end SqlSurvey.Concrete
