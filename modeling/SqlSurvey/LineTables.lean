import SqlSurvey.TreeNodes
import SqlSurvey.Utf8Coding

/-! # Line tables

The offsets at which lines start, and the line of an offset by bisection. The bisection is defined for any
table, in any order. -/
namespace SqlSurvey

/-- The offsets after each line break, counted from `position`. -/
def startsAfterBreaks (position : Nat) : Bytes → List Int
  | [] => []
  | byte :: rest =>
    if byte = 0x0A then ((position + 1 : Nat) : Int) :: startsAfterBreaks (position + 1) rest
    else startsAfterBreaks (position + 1) rest

/-- Narrows the range from `low` to `high` to the place after every start that is not behind the offset. -/
def bisect (starts : Array Int) (offset : Int) (low high : Nat) : Nat :=
  if low < high then
    if offset < starts.getD ((low + high) / 2) 0 then bisect starts offset low ((low + high) / 2)
    else bisect starts offset ((low + high) / 2 + 1) high
  else low
termination_by high - low

/-- A tree with the starts of the lines of its source. -/
structure SourceTree where
  root : Node
  lineStarts : Array Int := #[0]

namespace SourceTree

/-- The line starts of a source: its beginning and the place after each line break. -/
def startsOf (source : Bytes) : Array Int := (0 :: startsAfterBreaks 0 source).toArray

def ofSource (root : Node) (source : Bytes) : SourceTree := ⟨root, startsOf source⟩

/-- The line of an offset, counted from zero; it is -1 before the first start. -/
def lineAt (tree : SourceTree) (offset : Int) : Int :=
  (bisect tree.lineStarts offset 0 tree.lineStarts.size : Int) - 1

def lineOf (tree : SourceTree) (node : Node) : Int := tree.lineAt node.span.start

end SourceTree
end SqlSurvey
