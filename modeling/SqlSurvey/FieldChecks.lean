import SqlSurvey.DataValues
import SqlSurvey.IntegerTexts
import SqlSurvey.Positives

/-! # Checks of outside data

Records and settings are read from data values field by field. A reader gives a value or all faults it finds,
each with its place and its cause. -/
namespace SqlSurvey

/-- One step towards a faulty value. -/
inductive Step where
  | field (name : Text)
  | item (index : Nat)
deriving DecidableEq

inductive Cause where
  | missing
  | notText
  | notInteger
  | unreadableInteger
  | fractional
  | oversized
  | notFinite
  | below (bound : Int)
  | notBoolean
  | unreadableBoolean
  | notList
  | notTuple
  | notSet
  | notFrozenSet
  | notRecord (name : String)
  | notFindingKind
  | notErrorMode
  | notPath
deriving DecidableEq

namespace Cause

def code : Cause → String
  | missing => "missing"
  | notText => "string_type"
  | notInteger => "int_type"
  | unreadableInteger => "int_parsing"
  | fractional => "int_from_float"
  | oversized => "int_parsing_size"
  | notFinite => "finite_number"
  | below _ => "greater_than_equal"
  | notBoolean => "bool_type"
  | unreadableBoolean => "bool_parsing"
  | notList => "list_type"
  | notTuple => "tuple_type"
  | notSet => "set_type"
  | notFrozenSet => "frozen_set_type"
  | notRecord _ => "model_type"
  | notFindingKind => "enum"
  | notErrorMode => "literal_error"
  | notPath => "path_type"

def message : Cause → Text
  | missing => "Field required"
  | notText => "Input should be a valid string"
  | notInteger => "Input should be a valid integer"
  | unreadableInteger => "Input should be a valid integer, unable to parse string as an integer"
  | fractional => "Input should be a valid integer, got a number with a fractional part"
  | oversized => "Unable to parse input string as an integer, exceeded maximum size"
  | notFinite => "Input should be a finite number"
  | below bound => Text.ofString "Input should be greater than or equal to " ++ Text.ofInt bound
  | notBoolean => "Input should be a valid boolean"
  | unreadableBoolean => "Input should be a valid boolean, unable to interpret input"
  | notList => "Input should be a valid list"
  | notTuple => "Input should be a valid tuple"
  | notSet => "Input should be a valid set"
  | notFrozenSet => "Input should be a valid frozenset"
  | notRecord name => Text.ofString "Input should be a valid dictionary or instance of " ++ Text.ofString name
  | notFindingKind =>
    "Input should be 'explicit-call-argument', 'field-assignment' or 'constructor-argument'"
  | notErrorMode => "Input should be 'raise' or 'skip'"
  | notPath => "Input is not a valid path for <class 'pathlib.Path'>"

end Cause

structure Fault where
  location : List Step
  cause : Cause
deriving DecidableEq

/-- A value, or the faults found on the way to it. -/
abbrev Checked := Except (List Fault)

namespace Checked

variable {α β : Type}

def refuse (cause : Cause) : Checked α := .error [⟨[], cause⟩]

/-- The faults of a part, placed one step further in. -/
def within (step : Step) : Checked α → Checked α
  | .ok a => .ok a
  | .error faults => .error (faults.map fun fault => ⟨step :: fault.location, fault.cause⟩)

def both : Checked α → Checked β → Checked (α × β)
  | .ok a, .ok b => .ok (a, b)
  | .ok _, .error faults => .error faults
  | .error faults, .ok _ => .error faults
  | .error faults, .error faults' => .error (faults ++ faults')

def items (read : Value → Checked α) (index : Nat) : List Value → Checked (List α)
  | [] => .ok []
  | value :: values =>
    (both (within (.item index) (read value)) (items read (index + 1) values)).map fun (a, rest) => a :: rest

@[simp] theorem both_ok (a : α) (b : β) : both (.ok a) (.ok b) = .ok (a, b) := rfl
@[simp] theorem within_ok (step : Step) (a : α) : within step (.ok a) = .ok a := rfl

end Checked

namespace Value

/-- A text, never made from anything else. -/
def readText : Value → Checked Text
  | .text t => .ok t
  | _ => Checked.refuse .notText

def readOptionalText : Value → Checked (Option Text)
  | .null => .ok none
  | value => value.readText.map some

end Value

/-- The nearest number with a binary exponent and 53 bits. -/
def decimalToFloat (mantissa exponent : Int) : Float :=
  let magnitude := Float.ofScientific mantissa.natAbs (exponent < 0) exponent.natAbs
  if mantissa < 0 then -magnitude else magnitude

namespace Value

/-- An integer from a number without a fraction, if it fits into 64 bits. -/
def integerOfFloat (x : Float) : Checked Int :=
  if x.isInf || x.isNaN then Checked.refuse .notFinite
  else if x.floor != x then Checked.refuse .fractional
  else if -9223372036854775808.0 < x && x < 9223372036854775808.0 then .ok x.toInt64.toInt
  else Checked.refuse .oversized

/-- An integer, also from a truth value, from a number without a fraction or from a text. -/
def readInteger : Value → Checked Int
  | .int n => .ok n
  | .bool b => .ok (if b then 1 else 0)
  | .decimal mantissa exponent => integerOfFloat (decimalToFloat mantissa exponent)
  | .text t =>
    match t.integer with
    | .ok n => .ok n
    | .error .unreadable => Checked.refuse .unreadableInteger
    | .error .oversized => Checked.refuse .oversized
  | .null | .list _ | .record _ => Checked.refuse .notInteger

/-- An integer that is at least the bound, as a natural number. -/
def atLeast (bound : Nat) (n : Int) : Checked Nat :=
  if (bound : Int) ≤ n then .ok n.toNat else Checked.refuse (.below bound)

def readAtLeast (bound : Nat) (value : Value) : Checked Nat := do atLeast bound (← value.readInteger)

def positive (n : Int) : Checked Positive :=
  if h : 1 ≤ n then .ok ⟨n.toNat, by omega⟩ else Checked.refuse (.below 1)

def readPositive (value : Value) : Checked Positive := do positive (← value.readInteger)

@[simp] theorem readText_text (t : Text) : readText (.text t) = .ok t := rfl
@[simp] theorem readInteger_int (n : Int) : readInteger (.int n) = .ok n := rfl

theorem atLeast_natCast {bound n : Nat} (h : bound ≤ n) : atLeast bound n = .ok n := by
  rw [atLeast, if_pos (by omega), Int.toNat_natCast]

@[simp] theorem positive_val (n : Positive) : positive n.val = .ok n := by
  have bound := n.one_le
  rw [positive, dif_pos (by omega)]
  rfl

private def falseWords : List Text := ["0", "off", "f", "false", "n", "no"].map Text.ofString
private def trueWords : List Text := ["1", "on", "t", "true", "y", "yes"].map Text.ofString

/-- Whether an integer fits into 64 bits, one of them for the sign. -/
def fitsWord (n : Int) : Bool := -0x8000000000000000 ≤ n && n < 0x8000000000000000

def boolOfInt (n : Int) : Checked Bool :=
  if n = 0 then .ok false
  else if n = 1 then .ok true
  else Checked.refuse .unreadableBoolean

/-- A truth value, also from 0 and 1 and from the usual words in any case. A number that is no integer of 64 bits
is not even looked at as one. -/
def readBool : Value → Checked Bool
  | .bool b => .ok b
  | .int n => if fitsWord n then boolOfInt n else Checked.refuse .notBoolean
  | .decimal mantissa exponent =>
    match integerOfFloat (decimalToFloat mantissa exponent) with
    | .ok n => boolOfInt n
    | .error _ => Checked.refuse .notBoolean
  | .text t =>
    let word := t.map CodePoint.asciiLower
    if falseWords.contains word then .ok false
    else if trueWords.contains word then .ok true
    else Checked.refuse .unreadableBoolean
  | .null | .list _ | .record _ => Checked.refuse .notBoolean

/-- The items of a list; anything else is refused for the given cause. -/
def readItems {α : Type} (cause : Cause) (read : Value → Checked α) : Value → Checked (List α)
  | .list values => Checked.items read 0 values
  | _ => Checked.refuse cause

end Value

abbrev Fields := List (Text × Value)

namespace Fields

variable {α : Type}

def required (fields : Fields) (name : Text) (read : Value → Checked α) : Checked α :=
  Checked.within (.field name) <|
    match fields.lookup name with
    | some value => read value
    | none => Checked.refuse .missing

/-- A field with a value to use where it is absent. -/
def optional (fields : Fields) (name : Text) (default : Checked α) (read : Value → Checked α) : Checked α :=
  Checked.within (.field name) <|
    match fields.lookup name with
    | some value => read value
    | none => default

end Fields

/-- Reads a record; the name is the one that a refusal mentions. -/
def Value.readRecord {α : Type} (name : String) (read : Fields → Checked α) : Value → Checked α
  | .record fields => read fields
  | _ => Checked.refuse (.notRecord name)

end SqlSurvey
