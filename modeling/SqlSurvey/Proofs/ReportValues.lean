import SqlSurvey.SurveyReports

/-! # Reports and their values

Every report passes its own checks: what is read from the value of a report is the report. -/
namespace SqlSurvey

namespace Checked

variable {α β : Type}

@[simp] theorem ok_bind (a : α) (next : α → Checked β) : (Except.ok a >>= next : Checked β) = next a := rfl

@[simp] theorem pure_eq_ok (a : α) : (pure a : Checked α) = .ok a := rfl

end Checked

namespace Value

/-- A property holds of every value if it holds of those without parts, of a list whenever it holds of its items, and
of a record whenever it holds of what its fields hold. -/
theorem induction {p : Value → Prop} (scalar : ∀ value, value.isScalar → p value)
    (list : ∀ items, (∀ item ∈ items, p item) → p (.list items))
    (record : ∀ fields, (∀ field ∈ fields, p field.2) → p (.record fields)) (value : Value) : p value :=
  match value with
  | .list items => list items fun item inside =>
      have := List.sizeOf_lt_of_mem inside
      induction scalar list record item
  | .record fields => record fields fun field inside =>
      have := List.sizeOf_lt_of_mem inside
      induction scalar list record field.2
  | .null => scalar .null rfl
  | .bool b => scalar (.bool b) rfl
  | .int n => scalar (.int n) rfl
  | .decimal mantissa exponent => scalar (.decimal mantissa exponent) rfl
  | .text t => scalar (.text t) rfl
termination_by sizeOf value
decreasing_by
  · simp only [Value.list.sizeOf_spec]
    omega
  · obtain ⟨name, inner⟩ := field
    simp only [Value.record.sizeOf_spec, Prod.mk.sizeOf_spec] at this ⊢
    omega

mutual
/-- The texts that a value holds, with the names of fields. -/
def texts : Value → List Text
  | .text t => [t]
  | .list items => itemTexts items
  | .record fields => fieldTexts fields
  | _ => []
termination_by structural value => value

def itemTexts : List Value → List Text
  | [] => []
  | item :: items => item.texts ++ itemTexts items
termination_by structural items => items

def fieldTexts : List (Text × Value) → List Text
  | [] => []
  | field :: fields => namedTexts field ++ fieldTexts fields
termination_by structural fields => fields

def namedTexts : Text × Value → List Text
  | (name, value) => name :: value.texts
termination_by structural field => field
end

theorem mem_itemTexts {t : Text} {items : List Value} :
    t ∈ itemTexts items ↔ ∃ item ∈ items, t ∈ item.texts := by
  induction items with
  | nil => simp [itemTexts]
  | cons item items ih => simp [itemTexts, ih]

theorem mem_fieldTexts {t : Text} {fields : List (Text × Value)} :
    t ∈ fieldTexts fields ↔ ∃ field ∈ fields, t = field.1 ∨ t ∈ field.2.texts := by
  induction fields with
  | nil => simp [fieldTexts]
  | cons field fields ih =>
    obtain ⟨name, value⟩ := field
    simp [fieldTexts, namedTexts, ih, or_assoc]

@[simp] theorem readOptionalText_getD (t : Option Text) :
    readOptionalText ((t.map Value.text).getD .null) = .ok t := by
  cases t with
  | none => rfl
  | some t => rfl

@[simp] theorem readPositive_val (n : Positive) : readPositive (.int n.val) = .ok n := positive_val n

@[simp] theorem readAtLeast_zero (n : Nat) : readAtLeast 0 (.int n) = .ok n := atLeast_natCast (Nat.zero_le n)

theorem readItems_map {α : Type} {read : Value → Checked α} {toValue : α → Value}
    (back : ∀ a, read (toValue a) = .ok a) (cause : Cause) (values : List α) :
    readItems cause read (.list (values.map toValue)) = .ok values := by
  have items : ∀ index, Checked.items read index (values.map toValue) = .ok values := by
    induction values with
    | nil => exact fun _ => rfl
    | cons a values ih =>
      intro index
      rw [List.map_cons, Checked.items, back, ih]
      rfl
  exact items 0

end Value

namespace Fields

variable {α : Type} {name other : Text} (value : Value) (fields : Fields) (default : Checked α)
  (read : Value → Checked α)

@[simp] theorem required_cons_self :
    required ((name, value) :: fields) name read = Checked.within (.field name) (read value) := by
  simp [required]

@[simp] theorem required_cons_of_ne (h : name ≠ other) :
    required ((other, value) :: fields) name read = required fields name read := by
  simp [required, List.lookup_cons, beq_false_of_ne h]

@[simp] theorem optional_cons_self :
    optional ((name, value) :: fields) name default read = Checked.within (.field name) (read value) := by
  simp [optional]

@[simp] theorem optional_cons_of_ne (h : name ≠ other) :
    optional ((other, value) :: fields) name default read = optional fields name default read := by
  simp [optional, List.lookup_cons, beq_false_of_ne h]

end Fields

theorem CallSite.read_toValue (site : CallSite) :
    Value.readRecord "CallSite" CallSite.read site.toValue = .ok site := by
  simp (disch := decide) [toValue, Value.readRecord, CallSite.read]

theorem CallTally.read_toValue (tally : CallTally) :
    Value.readRecord "CallGroup" CallTally.read tally.toValue = .ok tally := by
  simp (disch := decide) [toValue, Value.readRecord, CallTally.read]

theorem FindingKind.read_name (kind : FindingKind) : FindingKind.read (.text kind.name) = .ok kind := by
  cases kind <;> rfl

theorem QueryEntry.read_toValue (entry : QueryEntry) :
    Value.readRecord "FlaggedQuery" QueryEntry.read entry.toValue = .ok entry := by
  simp (disch := decide) [toValue, Value.readRecord, QueryEntry.read, FindingKind.read_name, Value.readBool]

theorem FileSummary.read_toValue (summary : FileSummary) :
    Value.readRecord "FileReport" FileSummary.read summary.toValue = .ok summary := by
  simp (disch := decide) [toValue, Value.readRecord, FileSummary.read, Value.readItems_map Value.readText_text,
    Value.readItems_map CallTally.read_toValue, Value.readItems_map QueryEntry.read_toValue]

theorem RankedCall.read_toValue (ranked : RankedCall) :
    Value.readRecord "RankedCall" RankedCall.read ranked.toValue = .ok ranked := by
  simp (disch := decide) [toValue, Value.readRecord, RankedCall.read, Value.readItems_map CallSite.read_toValue]

/-- A report passes its own checks. -/
theorem SurveyReport.read_toValue (report : SurveyReport) :
    Value.readRecord "AnalysisReport" SurveyReport.read report.toValue = .ok report := by
  simp (disch := decide) [toValue, Value.readRecord, SurveyReport.read, Value.readItems_map FileSummary.read_toValue,
    Value.readItems_map RankedCall.read_toValue, Value.readBool]

/-- A report with quotes, control characters, line breaks and a character outside the basic plane. -/
def SurveyReport.sample : SurveyReport where
  root := "C:\\a \"b\"\x01\x7f\u2028😀"
  files :=
    [{ fileName := "q.cs", filePath := "/q.cs", dependencies := ["System.Data", "yes"], callCount := 1
       topCalls := [⟨"db.Run", .one⟩]
       queries :=
        [{ line := .one, kind := .callArgument, tag := "db.Run: #1", text := " select 'a'\n\n  from b \n"
           preview := " select...", truncated := true, mentionsExec := false, storedProcedure := none }] }]
  ranking := [⟨"db.Run", .one, [⟨"db.Run", "q.cs", "/q.cs", .one⟩], 0⟩]
  totalCalls := 1
  cancelled := false

end SqlSurvey
