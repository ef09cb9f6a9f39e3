import SqlSurvey.Proofs.ConcatenatedTexts
import SqlSurvey.Proofs.PlacedTrees

/-! # Sources that stand behind other bytes

Bytes in front of a source move every node of its tree by as many places. What the nodes cover stays the same, so
the scan finds the same, and each line is larger by the number of line breaks in front. -/
namespace SqlSurvey

theorem slice_append {α : Type} (front items : List α) {start stop : Int} (hstart : 0 ≤ start) (hstop : 0 ≤ stop) :
    slice (front ++ items) (start + front.length) (stop + front.length) = slice items start stop := by
  obtain ⟨n, rfl⟩ := Int.eq_ofNat_of_zero_le hstart
  obtain ⟨m, rfl⟩ := Int.eq_ofNat_of_zero_le hstop
  rw [← Int.natCast_add, ← Int.natCast_add, slice_natCast, slice_natCast, Nat.add_comm m, Nat.add_comm n,
    List.take_length_add_append, List.drop_length_add_append]

namespace Shape

variable {α β γ : Type}

theorem mapParts_mapParts (shape : Shape α) (f : α → β) (g : β → γ) :
    (shape.mapParts fun part _ => f part).mapParts (fun part _ => g part) =
      shape.mapParts fun part _ => g (f part) := by
  cases shape with
  | construction typeName arguments initializer =>
    cases arguments <;> cases initializer <;> simp [mapParts]
  | _ => simp [mapParts]

end Shape

def Span.relocate (shift : Nat) (span : Span) : Span := ⟨span.start + shift, span.stop + shift⟩

namespace Node

/-- The same tree over a source with more bytes in front. -/
def relocate (shift : Nat) (node : Node) : Node :=
  .mk (node.span.relocate shift) node.text (node.shape.mapParts fun part _ => relocate shift part)
termination_by sizeOf node
decreasing_by exact sizeOf_lt_of_mem_children (by assumption)

variable (shift : Nat)

@[simp] theorem span_relocate (node : Node) : (node.relocate shift).span = node.span.relocate shift := by
  rw [relocate]
  rfl

@[simp] theorem text_relocate (node : Node) : (node.relocate shift).text = node.text := by
  rw [relocate]
  rfl

theorem shape_relocate (node : Node) :
    (node.relocate shift).shape = node.shape.mapParts fun part _ => part.relocate shift := by
  rw [relocate]
  rfl

theorem children_relocate (node : Node) : (node.relocate shift).children = node.children.map (relocate shift) := by
  rw [children, shape_relocate, Shape.parts_mapParts]
  rfl

theorem preorder_relocate (node : Node) : (node.relocate shift).preorder = node.preorder.map (relocate shift) := by
  induction node using induction_children with
  | step node ih =>
    rw [preorder_eq, preorder_eq node, children_relocate, List.map_cons, List.flatMap_map, List.map_flatMap]
    rw [List.flatMap_def, List.flatMap_def, List.map_congr_left ih]

@[simp] theorem callName_relocate (callee : Node) : (callee.relocate shift).callName = callee.callName := by
  rw [callName, callName, shape_relocate]
  cases callee.shape <;> simp [Shape.mapParts]

private theorem joinedText_relocate (node : Node) : (node.relocate shift).joinedText = node.joinedText := by
  induction node using induction_children with
  | step node ih =>
    rw [relocate]
    cases node with
    | mk span text shape =>
      cases shape with
      | binary operator left right =>
        have first := ih left (by simp [children, Node.shape, Shape.parts])
        have second := ih right (by simp [children, Node.shape, Shape.parts])
        cases operator with
        | concatenate => simp [Node.shape, Shape.mapParts, joinedText, first, second]
        | other => rfl
      | _ => rfl

@[simp] theorem constantText_relocate (node : Node) : (node.relocate shift).constantText = node.constantText := by
  rw [constantText_eq_joinedText, joinedText_relocate, constantText_eq_joinedText]

end Node

namespace Concrete

def relocate (shift : Nat) : Concrete → Concrete
  | .node kind start stop named field children =>
    .node kind (start + shift) (stop + shift) named field (children.map (relocate shift))

/-- No node starts or ends before the source. -/
def Bounded (c : Concrete) : Prop := c.Everywhere fun d => 0 ≤ d.span.start ∧ 0 ≤ d.span.stop

instance : DecidablePred Bounded := decidableEverywhere _

theorem Bounded.placed {c : Concrete} (bounded : c.Bounded) : c.Placed := Everywhere.imp bounded fun _ h => h.1

variable (shift : Nat)

@[simp] theorem kind_relocate (c : Concrete) : (c.relocate shift).kind = c.kind := by
  cases c
  rw [relocate]
  rfl

@[simp] theorem span_relocate (c : Concrete) : (c.relocate shift).span = c.span.relocate shift := by
  cases c
  rw [relocate]
  rfl

@[simp] theorem named_relocate (c : Concrete) : (c.relocate shift).named = c.named := by
  cases c
  rw [relocate]
  rfl

@[simp] theorem field_relocate (c : Concrete) : (c.relocate shift).field = c.field := by
  cases c
  rw [relocate]
  rfl

@[simp] theorem children_relocate (c : Concrete) : (c.relocate shift).children = c.children.map (relocate shift) := by
  cases c
  rw [relocate]
  rfl

@[simp] theorem namedChildren_relocate (c : Concrete) :
    (c.relocate shift).namedChildren = c.namedChildren.map (relocate shift) := by
  simp [namedChildren, List.filter_map, Function.comp_def]

@[simp] theorem child?_relocate (c : Concrete) (name : Text) :
    (c.relocate shift).child? name = (c.child? name).map (relocate shift) := by
  have fields : (fun d : Concrete => d.field == some name) ∘ relocate shift = fun d => d.field == some name := by
    funext d
    rw [Function.comp_apply, field_relocate]
  rw [child?, child?, children_relocate, List.find?_map, fields]

@[simp] theorem operator_relocate (c : Concrete) : (c.relocate shift).operator = c.operator := by
  rw [operator, operator, child?_relocate]
  cases c.child? (Text.ofString "operator") <;> simp

private theorem argumentExpression?_relocate (c : Concrete) :
    (c.relocate shift).argumentExpression? = c.argumentExpression?.map (relocate shift) := by
  simp [argumentExpression?, List.filter_map, Function.comp_def]

@[simp] theorem argumentExpressions_relocate (c : Concrete) :
    (c.relocate shift).argumentExpressions = c.argumentExpressions.map (relocate shift) := by
  simp [argumentExpressions, List.filter_map, List.filterMap_map, List.map_filterMap, Function.comp_def,
    argumentExpression?_relocate]

private theorem group_relocate (c : Concrete) :
    (c.relocate shift).group = c.group.mapParts fun part _ => part.relocate shift := by
  simp [group, Shape.mapParts]

private theorem pairOrGroup_relocate (c : Concrete) (first second : String)
    (make : Concrete → Concrete → Shape Concrete)
    (made : ∀ left right, make (relocate shift left) (relocate shift right) =
      (make left right).mapParts fun part _ => part.relocate shift) :
    (c.relocate shift).pairOrGroup first second make =
      (c.pairOrGroup first second make).mapParts fun part _ => part.relocate shift := by
  rw [pairOrGroup, pairOrGroup, child?_relocate, child?_relocate]
  cases c.child? (Text.ofString first) with
  | none => exact group_relocate shift c
  | some left =>
    cases c.child? (Text.ofString second) with
    | none => exact group_relocate shift c
    | some right => exact made left right

section Source

variable (front source : Bytes)

theorem text_relocate {c : Concrete} (bounded : c.Bounded) :
    (c.relocate front.length).text (front ++ source) = c.text source := by
  rw [text, text, span_relocate]
  exact congrArg Utf8.decode (slice_append front source bounded.here.1 bounded.here.2)

private theorem importClause_relocate {c : Concrete} (bounded : c.Bounded) :
    (c.relocate front.length).importClause (front ++ source) = c.importClause source := by
  have named : ∀ d ∈ c.namedChildren, d.Bounded := fun d inside =>
    bounded.child d (mem_children_of_mem_namedChildren inside)
  rw [importClause, importClause, namedChildren_relocate, children_relocate, List.filter_map, List.any_map,
    List.getLast?_map]
  simp only [Function.comp_def, kind_relocate]
  split
  · rfl
  · cases last : (c.namedChildren.filter fun child => importNameKinds.contains child.kind).getLast? with
    | none => rfl
    | some name =>
      have inside := (List.mem_filter.1 (List.mem_of_getLast? last)).1
      simp [text_relocate front source (named name inside)]

theorem outline_relocate {c : Concrete} (bounded : c.Bounded) :
    (c.relocate front.length).outline (front ++ source) =
      (c.outline source).mapParts fun part _ => part.relocate front.length := by
  rw [outline, outline, kind_relocate]
  cases Construct.ofKind c.kind with
  | importDirective => simp [importClause_relocate front source bounded, Shape.mapParts]
  | literal form => simp [text_relocate front source bounded, Shape.mapParts]
  | invocation =>
    cases callee : c.child? (Text.ofString "function") with
    | none => simp [callee, group_relocate]
    | some callee' => cases list : c.child? (Text.ofString "arguments") <;> simp [callee, list, Shape.mapParts]
  | memberAccess => exact pairOrGroup_relocate _ c "expression" "name" .member fun _ _ => rfl
  | assignment => exact pairOrGroup_relocate _ c "left" "right" .assignment fun _ _ => rfl
  | construction =>
    cases typeNode : c.child? (Text.ofString "type") with
    | none => simp [typeNode, group_relocate]
    | some typeNode' =>
      have typeText := text_relocate front source (bounded.child typeNode' (mem_children_of_child? typeNode))
      cases list : c.child? (Text.ofString "arguments") <;>
        cases initializer : c.child? (Text.ofString "initializer") <;>
          simp [typeNode, list, initializer, typeText, Shape.mapParts]
  | binary =>
    rw [operator_relocate]
    exact pairOrGroup_relocate _ c "left" "right" (.binary c.operator) fun _ _ => rfl
  | other => exact group_relocate _ c

/-- Lowering commutes with putting bytes in front of the source. -/
theorem lower_relocate {c : Concrete} (bounded : c.Bounded) :
    (c.relocate front.length).lower (front ++ source) = (c.lower source).relocate front.length := by
  induction c using induction_outline source with
  | step c ih =>
    rw [lower_eq, Node.relocate, span_lower, text_lower, shape_lower, span_relocate,
      text_relocate front source bounded, outline_relocate front source bounded, Shape.mapParts_mapParts,
      Shape.mapParts_mapParts]
    refine congrArg _ (Shape.mapParts_congr ?_)
    intro part inside
    have stays : part ∈ c.kept := by rwa [← parts_outline source]
    exact ih part inside (of_mem_kept (fun _ => Everywhere.child) bounded stays)

end Source
end Concrete
end SqlSurvey
