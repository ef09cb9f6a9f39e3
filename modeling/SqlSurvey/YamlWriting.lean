import SqlSurvey.DataValues
import SqlSurvey.YamlScalars

/-! # Values as YAML text

Block style throughout: a list under a field starts at the column of the field's name, and the fields of a
record in a list stand one indentation step to the right of the dash. -/
namespace SqlSurvey.Yaml

/-- How a document is laid out: the indentation step, and the fields whose texts become literal blocks where
they have several lines. -/
structure Layout where
  step : Nat
  isBlockField : Text → Bool

/-- The step of a requested indentation; only two to nine columns are possible. -/
def stepOf (indent : Int) : Nat := if 1 < indent ∧ indent < 10 then indent.toNat else 2

def spaces (count : Nat) : Text := List.replicate count (.char ' ')

/-- Whether a text of several lines stands in a field that shows them. -/
def wantsBlock (layout : Layout) (field : Option Text) (text : Text) : Bool :=
  field.any layout.isBlockField && (text.contains (.char '\n') || text.contains (.char '\r'))

/-- A scalar, an empty list or an empty record from a column to the end of its line. -/
def inline (layout : Layout) (field : Option Text) (indent column : Nat) : Value → Text
  | .null => Text.ofString "null\n"
  | .bool true => Text.ofString "true\n"
  | .bool false => Text.ofString "false\n"
  | .int n => Text.ofInt n ++ [.char '\n']
  | .decimal mantissa exponent => Text.ofInt mantissa ++ .char 'e' :: Text.ofInt exponent ++ [.char '\n']
  | .text t => scalar layout.step indent column (wantsBlock layout field t) t
  | .list _ => Text.ofString "[]\n"
  | .record _ => Text.ofString "\x7b\x7d\n"

def hasLines : Value → Bool
  | .list items => !items.isEmpty
  | .record fields => !fields.isEmpty
  | _ => false

mutual
/-- The lines of the items of a list whose dashes stand at a column. -/
def itemLines (layout : Layout) (column : Nat) (lead : Text) : List Value → Text
  | [] => []
  | item :: items =>
    lead ++ .char '-' ::
      (if hasLines item then
        spaces (layout.step - 1) ++ lines layout (column + layout.step) [] item
      else .char ' ' :: inline layout none (column + layout.step) (column + 2) item) ++
      itemLines layout column (spaces column) items
termination_by structural items => items

/-- The lines of the fields of a record whose names stand at a column; `lead` comes before the first. -/
def fieldLines (layout : Layout) (column : Nat) (lead : Text) : List (Text × Value) → Text
  | [] => []
  | field :: fields =>
    lead ++ fieldLine layout column field ++ fieldLines layout column (spaces column) fields
termination_by structural fields => fields

/-- The lines of one field. A list under it starts at its own column. -/
def fieldLine (layout : Layout) (column : Nat) : Text × Value → Text
  | (name, value) =>
    name ++ .char ':' ::
      (if hasLines value then
        let inner := match value with
          | .record _ => column + layout.step
          | _ => column
        .char '\n' :: lines layout inner (spaces inner) value
      else
        .char ' ' :: inline layout (some name) (column + layout.step) (column + name.length + 2) value)
termination_by structural field => field

def lines (layout : Layout) (column : Nat) (lead : Text) : Value → Text
  | .list items => itemLines layout column lead items
  | .record fields => fieldLines layout column lead fields
  | _ => []
termination_by structural value => value
end

def render (layout : Layout) (value : Value) : Text :=
  if hasLines value then lines layout 0 [] value else inline layout none layout.step 0 value

/-- The text of a document whose integers can be written. They are written out before anything else. -/
def document? (layout : Layout) (value : Value) : Option Text :=
  if value.integers.all hasFewDigits then some (render layout value) else none

end SqlSurvey.Yaml
