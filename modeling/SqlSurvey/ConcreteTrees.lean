import SqlSurvey.TextPieces
import SqlSurvey.TreeNodes
import SqlSurvey.Utf8Coding

/-! # Concrete trees

The tree that a grammar gives for a source: every node has a kind, a span and perhaps the name of the field
that it fills in its parent. Nodes that are not named are punctuation and keywords. -/
namespace SqlSurvey

inductive Concrete where
  | node (kind : Text) (start stop : Int) (named : Bool) (field : Option Text) (children : List Concrete)

namespace Concrete

instance : Inhabited Concrete := ⟨.node [] 0 0 false none []⟩

def kind : Concrete → Text
  | .node kind _ _ _ _ _ => kind

def span : Concrete → Span
  | .node _ start stop _ _ _ => ⟨start, stop⟩

def named : Concrete → Bool
  | .node _ _ _ named _ _ => named

def field : Concrete → Option Text
  | .node _ _ _ _ field _ => field

def children : Concrete → List Concrete
  | .node _ _ _ _ _ children => children

def namedChildren (c : Concrete) : List Concrete := c.children.filter (·.named)

def child? (c : Concrete) (name : Text) : Option Concrete :=
  c.children.find? fun child => child.field == some name

def text (source : Bytes) (c : Concrete) : Text :=
  Utf8.decode (slice source c.span.start c.span.stop)

theorem sizeOf_lt_of_mem_children {c d : Concrete} (h : d ∈ c.children) : sizeOf d < sizeOf c := by
  cases c with
  | node kind start stop named field children =>
    have := List.sizeOf_lt_of_mem (show d ∈ children from h)
    simp only [Concrete.node.sizeOf_spec]
    omega

theorem mem_children_of_mem_namedChildren {c d : Concrete} (h : d ∈ c.namedChildren) : d ∈ c.children :=
  (List.mem_filter.1 h).1

theorem mem_children_of_child? {c d : Concrete} {name : Text} (h : c.child? name = some d) :
    d ∈ c.children :=
  List.mem_of_find?_eq_some h

end Concrete
end SqlSurvey
