import Mathlib.Data.List.Flatten
import SqlSurvey.Proofs.DocumentOrder

/-! # Wider settings only add findings

Settings are wider if every fragment that names were judged by contains a fragment that they are judged by now. A
name that was accepted is then still accepted, so each pass over the nodes keeps what it listed, in its order, and
the passes that do not ask for a fragment list the same. -/
namespace SqlSurvey

/-- Every fragment of the first list contains one of the second. -/
def Text.CoveredBy (narrow wide : List Text) : Prop := ∀ fragment ∈ narrow, ∃ part ∈ wide, part <:+: fragment

theorem Text.CoveredBy.any {narrow wide : List Text} (covered : CoveredBy narrow wide) {name : Text}
    (h : narrow.any fun fragment => fragment <:+: name) : wide.any fun fragment => fragment <:+: name := by
  obtain ⟨fragment, inside, found⟩ := List.any_eq_true.1 h
  obtain ⟨part, kept, contained⟩ := covered fragment inside
  apply List.any_eq_true.2
  exact ⟨part, kept, decide_eq_true (contained.trans (of_decide_eq_true found))⟩

/-- The second settings look for the same command texts and imply the same dependency, and the fragments that they
judge calls and types by are wider. -/
structure Settings.WidensTo (narrow wide : Settings) : Prop where
  commandText : wide.commandTextMarker = narrow.commandTextMarker
  implied : wide.impliedDependency = narrow.impliedDependency
  fragments : Text.CoveredBy narrow.executionFragments wide.executionFragments
  types : Text.CoveredBy narrow.commandTypeMarkers wide.commandTypeMarkers

theorem CallSite.listed_injective : Function.Injective CallSite.listed := by
  intro first second same
  cases first
  cases second
  simp only [CallSite.listed, ListedSite.mk.injEq, Int.natCast_inj] at same
  obtain ⟨rfl, rfl, rfl, line⟩ := same
  rw [Positive.ext line]

theorem QueryFinding.listed_injective : Function.Injective QueryFinding.listed := by
  intro first second same
  cases first
  cases second
  simp only [QueryFinding.listed, ListedText.mk.injEq, Int.natCast_inj] at same
  obtain ⟨rfl, rfl, rfl, line⟩ := same
  rw [Positive.ext line]

namespace FileScan

section Passes

variable {narrow wide : Settings} (widens : narrow.WidensTo wide) (tree : SourceTree) (nodes : List Node)
include widens

theorem argumentPass_sublist : (argumentPass narrow tree nodes).Sublist (argumentPass wide tree nodes) := by
  apply List.Sublist.flatMap
  apply List.monotone_filter_right
  intro call runs
  exact widens.fragments.any runs

theorem assignmentPass_eq : assignmentPass narrow tree nodes = assignmentPass wide tree nodes := by
  rw [assignmentPass, assignmentPass, widens.commandText]

theorem constructionPass_sublist :
    (constructionPass narrow tree nodes).Sublist (constructionPass wide tree nodes) := by
  apply List.Sublist.flatMap
  apply List.monotone_filter_right
  intro construction command
  exact widens.types.any command

/-- The three groups stand in the same order in both lists, and each keeps its texts. -/
theorem textPasses_sublist : (textPasses narrow tree nodes).Sublist (textPasses wide tree nodes) := by
  apply List.Sublist.append
  · apply List.Sublist.append
    · exact argumentPass_sublist widens tree nodes
    · rw [assignmentPass_eq widens]
  · exact constructionPass_sublist widens tree nodes

/-- What is a dependency for the narrow settings is one for the wide settings. -/
theorem dependsOn_of_widensTo {name : Text} (h : DependsOn narrow nodes name) : DependsOn wide nodes name := by
  rcases h with imported | ⟨rfl, construction, inside, marker, listed, found⟩
  · exact Or.inl imported
  · obtain ⟨part, kept, contained⟩ := widens.types marker listed
    exact Or.inr ⟨widens.implied.symm, construction, inside, part, kept, contained.trans found⟩

end Passes

variable {settings : Settings} {tree : SourceTree} {nodes : List Node}

theorem filter_textPasses : (textPasses settings tree nodes).filter (fun text => text.kind = .fieldAssignment) =
    assignmentPass settings tree nodes := by
  have arguments : (argumentPass settings tree nodes).filter (fun text => text.kind = .fieldAssignment) = [] := by
    apply List.filter_eq_nil_iff.2
    intro text listed
    simp [kind_of_mem_argumentPass listed]
  have assignments : (assignmentPass settings tree nodes).filter (fun text => text.kind = .fieldAssignment) =
      assignmentPass settings tree nodes := by
    apply List.filter_eq_self.2
    intro text listed
    simp [kind_of_mem_assignmentPass listed]
  have constructions : (constructionPass settings tree nodes).filter (fun text => text.kind = .fieldAssignment) =
      [] := by
    apply List.filter_eq_nil_iff.2
    intro text listed
    simp [kind_of_mem_constructionPass listed]
  rw [textPasses, List.filter_append, List.filter_append, arguments, assignments, constructions, List.nil_append,
    List.append_nil]

theorem FollowsPasses.assignments {fileName filePath : Text} {findings : FileFindings}
    (follows : FollowsPasses settings tree fileName filePath nodes findings) :
    (findings.queries.filter fun finding => finding.kind = .fieldAssignment).map QueryFinding.listed =
      assignmentPass settings tree nodes := by
  rw [← filter_textPasses, ← follows.queries, List.filter_map]
  rfl

section Findings

variable {narrow wide : Settings} {fileName filePath : Text} {fewer more : FileFindings}
  (first : FollowsPasses narrow tree fileName filePath nodes fewer)
  (second : FollowsPasses wide tree fileName filePath nodes more)
include first second

/-- No setting decides which calls are listed. -/
theorem FollowsPasses.callSites_eq : fewer.callSites = more.callSites := by
  apply CallSite.listed_injective.list_map
  rw [first.callSites, second.callSites]

variable (widens : narrow.WidensTo wide)
include widens

theorem FollowsPasses.queries_sublist : fewer.queries.Sublist more.queries := by
  have listed := textPasses_sublist widens tree nodes
  rw [← first.queries, ← second.queries] at listed
  obtain ⟨kept, sub, same⟩ := List.sublist_map_iff.1 listed
  rw [QueryFinding.listed_injective.list_map same]
  exact sub

theorem FollowsPasses.dependencies_subset {name : Text} (h : name ∈ fewer.dependencies) :
    name ∈ more.dependencies := by
  apply (second.dependencies name).2
  apply dependsOn_of_widensTo widens
  exact (first.dependencies name).1 h

theorem FollowsPasses.assignments_eq :
    (fewer.queries.filter fun finding => finding.kind = .fieldAssignment) =
      more.queries.filter fun finding => finding.kind = .fieldAssignment := by
  apply QueryFinding.listed_injective.list_map
  rw [first.assignments, second.assignments, assignmentPass_eq widens]

end Findings

/-- The scan of a tree that lies in its source succeeds with both settings. With the wider ones it finds the same
call sites and the same assigned texts, and it loses none of the other query texts and of the dependencies. -/
theorem scan_of_widensTo {narrow wide : Settings} (widens : narrow.WidensTo wide) {root : Node}
    (starts : ∀ node ∈ root.preorder, 0 ≤ node.span.start) (source : Bytes) (fileName filePath : Text) :
    ∃ fewer more,
      scan narrow (.ofSource root source) (.ofTexts fileName filePath) = .ok fewer ∧
      scan wide (.ofSource root source) (.ofTexts fileName filePath) = .ok more ∧
      fewer.callSites = more.callSites ∧
      fewer.queries.Sublist more.queries ∧
      (∀ name, name ∈ fewer.dependencies → name ∈ more.dependencies) ∧
      (fewer.queries.filter fun finding => finding.kind = .fieldAssignment) =
        more.queries.filter fun finding => finding.kind = .fieldAssignment := by
  obtain ⟨fewer, scannedFewer⟩ := exists_scan_of_starts starts narrow source fileName filePath
  obtain ⟨more, scannedMore⟩ := exists_scan_of_starts starts wide source fileName filePath
  have first := followsPasses_of_scan scannedFewer
  have second := followsPasses_of_scan scannedMore
  refine ⟨fewer, more, scannedFewer, scannedMore, ?_, ?_, ?_, ?_⟩
  · exact first.callSites_eq second
  · exact first.queries_sublist second widens
  · intro name inside
    exact first.dependencies_subset second widens inside
  · exact first.assignments_eq second widens

section Samples

def sampleLiteral (start : Int) (value : Text) : Node := .mk ⟨start, start + 1⟩ value (.literal value)

def sampleInvocation (start : Int) (name value : Text) : Node :=
  .mk ⟨start, start + 2⟩ name (.invocation (.mk ⟨start, start + 1⟩ name .bare) [sampleLiteral (start + 1) value])

def sampleConstruction (start : Int) (typeName value : Text) : Node :=
  .mk ⟨start, start + 2⟩ typeName (.construction typeName (some [sampleLiteral (start + 1) value]) none)

def sampleAssignment (start : Int) (target value : Text) : Node :=
  .mk ⟨start, start + 2⟩ target
    (.assignment (.mk ⟨start, start + 1⟩ target .bare) (sampleLiteral (start + 1) value))

/-- What only the wider settings find stands before and between what both find. -/
def sampleRoot : Node :=
  .mk ⟨0, 15⟩ "" (.group "block" [sampleConstruction 0 "OleDbCommand" "u", sampleInvocation 3 "Run" "r",
    sampleAssignment 6 "c.CommandText" "s", sampleInvocation 9 "ExecuteReader" "q",
    sampleConstruction 12 "SqlCommand" "t"])

def narrowSettings : Settings :=
  { Concrete.sampleSettings with executionFragments := ["ExecuteReader"], commandTypeMarkers := ["SqlCommand"] }

def wideSettings : Settings :=
  { Concrete.sampleSettings with executionFragments := ["Run", "Execute"], commandTypeMarkers := ["Command"] }

private def textsFound (settings : Settings) : Option (List Text) :=
  (scan settings (.ofSource sampleRoot []) (.ofTexts "a.cs" "/a.cs")).toOption.map fun findings =>
    findings.queries.map QueryFinding.text

theorem scan_of_wideSettings :
    narrowSettings.WidensTo wideSettings ∧ (∀ node ∈ sampleRoot.preorder, 0 ≤ node.span.start) ∧
    ∃ fewer more,
      scan narrowSettings (.ofSource sampleRoot []) (.ofTexts "a.cs" "/a.cs") = .ok fewer ∧
      scan wideSettings (.ofSource sampleRoot []) (.ofTexts "a.cs" "/a.cs") = .ok more ∧
      fewer.queries.map QueryFinding.text = ["q", "s", "t"].map Text.ofString ∧
      more.queries.map QueryFinding.text = ["r", "q", "s", "u", "t"].map Text.ofString ∧
      fewer.callSites = more.callSites ∧ fewer.queries.Sublist more.queries ∧
      (∀ name, name ∈ fewer.dependencies → name ∈ more.dependencies) ∧
      (fewer.queries.filter fun finding => finding.kind = .fieldAssignment) =
        more.queries.filter fun finding => finding.kind = .fieldAssignment := by
  have widens : narrowSettings.WidensTo wideSettings := by
    constructor
    · rfl
    · rfl
    · intro fragment inside
      obtain rfl := List.mem_singleton.1 inside
      exact ⟨"Execute", by simp [wideSettings], by decide +kernel⟩
    · intro marker inside
      obtain rfl := List.mem_singleton.1 inside
      exact ⟨"Command", by simp [wideSettings], by decide +kernel⟩
  have starts : ∀ node ∈ sampleRoot.preorder, 0 ≤ node.span.start := by decide +kernel
  obtain ⟨fewer, more, scannedFewer, scannedMore, added⟩ := scan_of_widensTo widens starts [] "a.cs" "/a.cs"
  have few : textsFound narrowSettings = some (["q", "s", "t"].map Text.ofString) := by decide +kernel
  have many : textsFound wideSettings = some (["r", "q", "s", "u", "t"].map Text.ofString) := by decide +kernel
  rw [textsFound, scannedFewer] at few
  rw [textsFound, scannedMore] at many
  exact ⟨widens, starts, fewer, more, scannedFewer, scannedMore, Option.some.inj few, Option.some.inj many, added⟩

end Samples

end FileScan
end SqlSurvey
