import SqlSurvey.Proofs.YamlDocuments

/-! # Reports read back from YAML

Every report is read from its document with each text as it is seen. It is the same report exactly if all its texts
that have a next-line character are written between double quotes, where that character has an escape. -/
namespace SqlSurvey

namespace Yaml

/-! ### Texts that stay as they are -/

private theorem not_mem_seenText {block : Bool} {text : Text} (unescaped : styleOf block text ≠ .doubleQuoted) :
    .char '\u0085' ∉ seenText block text := by
  unfold seenText
  cases style : styleOf block text with
  | plain => exact not_mem_of_allowsPlain ((allows_of_styleOf block text).1 style)
  | singleQuoted =>
    intro inside
    obtain ⟨run, -, found⟩ := List.mem_flatMap.1 inside
    exact not_mem_seenRun run found
  | doubleQuoted => exact absurd style unescaped
  | literal =>
    intro inside
    obtain ⟨c, -, same⟩ := List.mem_map.1 inside
    exact seenAs_ne c same

private theorem seenText_of_not_mem {block : Bool} {text : Text} (absent : .char '\u0085' ∉ text) :
    seenText block text = text := by
  unfold seenText
  split
  · rfl
  · rfl
  · have whole : ∀ run ∈ runs text, seenRun run = id run := by
      intro run listed
      refine seenRun_of_not_mem fun inside => absent ?_
      rw [← flatten_runs text]
      exact List.mem_flatten_of_mem listed inside
    rw [seenQuoted, List.flatMap_congr whole, List.flatMap_id, flatten_runs]
  · exact map_seenAs absent

theorem seenText_eq_self_iff (block : Bool) (text : Text) :
    seenText block text = text ↔ (.char '\u0085' ∈ text → styleOf block text = .doubleQuoted) := by
  constructor
  · intro same inside
    by_contra unescaped
    rw [← same] at inside
    exact not_mem_seenText unescaped inside
  · intro escaped
    by_cases inside : .char '\u0085' ∈ text
    · rw [seenText, escaped inside]
    · exact seenText_of_not_mem inside

/-- Every text of the value with a next-line character is written between double quotes. -/
def EscapesNextLines (layout : Layout) (field : Option Text) (value : Value) : Prop :=
  ∀ leaf ∈ placedTexts field value,
    .char '\u0085' ∈ leaf.2 → styleOf (wantsBlock layout leaf.1 leaf.2) leaf.2 = .doubleQuoted

private theorem seenInItems_eq_self_iff (layout : Layout) (items : List Value) :
    seenInItems layout items = items ↔ ∀ item ∈ items, seen layout none item = item := by
  induction items with
  | nil => simp [seenInItems]
  | cons item items ih => simp [seenInItems, ih]

private theorem seenInFields_eq_self_iff (layout : Layout) (fields : List (Text × Value)) :
    seenInFields layout fields = fields ↔ ∀ field ∈ fields, seen layout (some field.1) field.2 = field.2 := by
  induction fields with
  | nil => simp [seenInFields]
  | cons field fields ih =>
    obtain ⟨name, value⟩ := field
    simp [seenInFields, seenInField, ih]

/-- A value is read as itself exactly if each next-line character in it is escaped. -/
theorem seen_eq_self_iff (layout : Layout) (field : Option Text) (value : Value) :
    seen layout field value = value ↔ EscapesNextLines layout field value := by
  induction value using Value.induction generalizing field with
  | scalar value isScalar =>
    cases value with
    | text t => simp [seen, EscapesNextLines, placedTexts, seenText_eq_self_iff]
    | list items => cases isScalar
    | record fields => cases isScalar
    | null | bool | int | decimal => simp [seen, EscapesNextLines, placedTexts]
  | list items ih =>
    rw [seen, Value.list.injEq, seenInItems_eq_self_iff]
    constructor
    · intro each leaf placed
      obtain ⟨item, inside, placed⟩ := mem_placedInItems.1 placed
      exact (ih item inside none).1 (each item inside) leaf placed
    · intro escapes item inside
      refine (ih item inside none).2 fun leaf placed => escapes leaf ?_
      exact mem_placedInItems.2 ⟨item, inside, placed⟩
  | record fields ih =>
    rw [seen, Value.record.injEq, seenInFields_eq_self_iff]
    constructor
    · intro each leaf placed
      obtain ⟨field, inside, placed⟩ := mem_placedInFields.1 placed
      exact (ih field inside (some field.1)).1 (each field inside) leaf placed
    · intro escapes field inside
      refine (ih field inside (some field.1)).2 fun leaf placed => escapes leaf ?_
      exact mem_placedInFields.2 ⟨field, inside, placed⟩

theorem seenInItems_map {α : Type} (layout : Layout) (toValue : α → Value) (asRead : α → α)
    (each : ∀ a, seen layout none (toValue a) = toValue (asRead a)) (items : List α) :
    seenInItems layout (items.map toValue) = (items.map asRead).map toValue := by
  induction items with
  | nil => rfl
  | cons item items ih => rw [List.map_cons, seenInItems, each, ih]; rfl

end Yaml

/-! ### Reports -/

section Reports

open Yaml

/-- The call site as it is read from a document, and so on for the other parts of a report. Only the text of a query
may be a literal block. -/
def CallSite.asRead (site : CallSite) : CallSite where
  name := seenText false site.name
  fileName := seenText false site.fileName
  filePath := seenText false site.filePath
  line := site.line

def CallTally.asRead (tally : CallTally) : CallTally := ⟨seenText false tally.name, tally.count⟩

def QueryEntry.asRead (entry : QueryEntry) : QueryEntry where
  line := entry.line
  kind := entry.kind
  tag := seenText false entry.tag
  text := seenText (entry.text.contains (.char '\n') || entry.text.contains (.char '\r')) entry.text
  preview := seenText false entry.preview
  truncated := entry.truncated
  mentionsExec := entry.mentionsExec
  storedProcedure := entry.storedProcedure.map (seenText false)

def FileSummary.asRead (summary : FileSummary) : FileSummary where
  fileName := seenText false summary.fileName
  filePath := seenText false summary.filePath
  dependencies := summary.dependencies.map (seenText false)
  callCount := summary.callCount
  topCalls := summary.topCalls.map CallTally.asRead
  queries := summary.queries.map QueryEntry.asRead

def RankedCall.asRead (ranked : RankedCall) : RankedCall where
  name := seenText false ranked.name
  total := ranked.total
  examples := ranked.examples.map CallSite.asRead
  remaining := ranked.remaining

def SurveyReport.asRead (report : SurveyReport) : SurveyReport where
  root := seenText false report.root
  files := report.files.map FileSummary.asRead
  ranking := report.ranking.map RankedCall.asRead
  totalCalls := report.totalCalls
  cancelled := report.cancelled

variable (indent : Int)

private theorem stepOf_bounds : 1 < stepOf indent ∧ stepOf indent < 10 := by
  unfold stepOf
  split <;> omega

private theorem seen_callSite (site : CallSite) :
    seen (ReportWriter.yamlLayout indent) none site.toValue = site.asRead.toValue := rfl

private theorem seen_callTally (tally : CallTally) :
    seen (ReportWriter.yamlLayout indent) none tally.toValue = tally.asRead.toValue := rfl

private theorem seen_queryEntry (entry : QueryEntry) :
    seen (ReportWriter.yamlLayout indent) none entry.toValue = entry.asRead.toValue := by
  obtain ⟨line, kind, tag, text, preview, truncated, mentionsExec, storedProcedure⟩ := entry
  have known : seenText false kind.name = kind.name := by
    cases kind <;> exact seenText_of_not_mem (by decide)
  have inline : wantsBlock (ReportWriter.yamlLayout indent) (some "kind") kind.name = false := rfl
  simp only [QueryEntry.toValue, QueryEntry.asRead, seen, seenInFields, seenInField, inline, known]
  cases storedProcedure <;> rfl

private theorem seen_fileSummary (summary : FileSummary) :
    seen (ReportWriter.yamlLayout indent) none summary.toValue = summary.asRead.toValue := by
  have dependencies := seenInItems_map (ReportWriter.yamlLayout indent) Value.text (seenText false)
    (fun _ => rfl) summary.dependencies
  have calls := seenInItems_map (ReportWriter.yamlLayout indent) _ _ (seen_callTally indent) summary.topCalls
  have queries := seenInItems_map (ReportWriter.yamlLayout indent) _ _ (seen_queryEntry indent) summary.queries
  simp only [FileSummary.toValue, FileSummary.asRead, seen, seenInFields, seenInField, dependencies, calls, queries]
  rfl

private theorem seen_rankedCall (ranked : RankedCall) :
    seen (ReportWriter.yamlLayout indent) none ranked.toValue = ranked.asRead.toValue := by
  have examples := seenInItems_map (ReportWriter.yamlLayout indent) _ _ (seen_callSite indent) ranked.examples
  simp only [RankedCall.toValue, RankedCall.asRead, seen, seenInFields, seenInField, examples]
  rfl

private theorem seen_report (report : SurveyReport) :
    seen (ReportWriter.yamlLayout indent) none report.toValue = report.asRead.toValue := by
  have files := seenInItems_map (ReportWriter.yamlLayout indent) _ _ (seen_fileSummary indent) report.files
  have ranking := seenInItems_map (ReportWriter.yamlLayout indent) _ _ (seen_rankedCall indent) report.ranking
  simp only [SurveyReport.toValue, SurveyReport.asRead, seen, seenInFields, seenInField, files, ranking]
  rfl

end Reports

namespace SurveyReport

/-- A report whose numbers have no more than the greatest number of digits is written in full, and any other leaves an
empty file. What is written is read from the file, as the same report exactly if all its texts with a next-line
character are between double quotes. -/
theorem yaml_recovers_report_iff (report : SurveyReport) (indent : Int) :
    if ∀ n ∈ report.toValue.integers, hasFewDigits n then
      ∃ bytes, ReportWriter.contents ⟨.yaml, indent⟩ report = (bytes, none) ∧
        Utf8.decode bytes = Yaml.render (ReportWriter.yamlLayout indent) report.toValue ∧
        (Yaml.parse (Utf8.decode bytes)).map (Value.readRecord "AnalysisReport" read) = some (.ok report.asRead) ∧
        (report.asRead = report ↔ Yaml.EscapesNextLines (ReportWriter.yamlLayout indent) none report.toValue)
    else ReportWriter.contents ⟨.yaml, indent⟩ report = ([], some .digits) := by
  have ends := ReportWriter.contents_yaml report indent
  by_cases few : ∀ n ∈ report.toValue.integers, hasFewDigits n
  · rw [if_pos few] at ends ⊢
    obtain ⟨bytes, complete, whole⟩ := ends
    have step : 1 < (ReportWriter.yamlLayout indent).step ∧ (ReportWriter.yamlLayout indent).step < 10 :=
      stepOf_bounds indent
    have parsed := Yaml.parse_render step.1 step.2 (Yaml.regular_report report) rfl (by decide)
    refine ⟨bytes, complete, whole, ?_, ?_⟩
    · rw [whole, ReportWriter.text, parsed, seen_report, Option.map_some, report.asRead.read_toValue]
    · rw [← Yaml.seen_eq_self_iff, seen_report]
      constructor
      · intro same
        rw [same]
      · intro same
        have read := report.asRead.read_toValue
        rw [same, report.read_toValue] at read
        exact (Except.ok.inj read).symm
  · rw [if_neg few] at ends ⊢
    exact ends

example : (⟨"a\u0085b", [], [], 0, false⟩ : SurveyReport).asRead = ⟨"a b", [], [], 0, false⟩ := by decide +kernel

example : sample.asRead = sample := by decide +kernel

end SurveyReport

end SqlSurvey
