import SqlSurvey.CodePoints

/-! # Data values

The values that come from outside and that reports are written from: nothing, truth values, integers,
decimal numbers, texts, lists and records. -/
namespace SqlSurvey

inductive Value where
  | null
  | bool (b : Bool)
  | int (n : Int)
  /-- The number `mantissa * 10 ^ exponent`, written with a fraction or an exponent. -/
  | decimal (mantissa exponent : Int)
  | text (t : Text)
  | list (items : List Value)
  | record (fields : List (Text × Value))

namespace Value

instance : Inhabited Value := ⟨.null⟩

def isScalar : Value → Bool
  | .list _ | .record _ => false
  | _ => true

def field? (name : Text) : Value → Option Value
  | .record fields => fields.lookup name
  | _ => none

mutual
def integers : Value → List Int
  | .int n => [n]
  | .list items => itemIntegers items
  | .record fields => fieldIntegers fields
  | _ => []
termination_by structural value => value

def itemIntegers : List Value → List Int
  | [] => []
  | item :: items => item.integers ++ itemIntegers items
termination_by structural items => items

def fieldIntegers : List (Text × Value) → List Int
  | [] => []
  | field :: fields => namedIntegers field ++ fieldIntegers fields
termination_by structural fields => fields

def namedIntegers : Text × Value → List Int
  | (_, value) => value.integers
termination_by structural field => field
end

end Value
end SqlSurvey
