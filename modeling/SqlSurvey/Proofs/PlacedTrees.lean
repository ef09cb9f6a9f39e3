import SqlSurvey.Proofs.KeptNodes
import SqlSurvey.Proofs.LineCounts
import SqlSurvey.Proofs.ScanPasses

/-! # Trees that lie in their source

A concrete tree is placed if no node starts before the source. Lines are counted from the first start, which is
zero, so every node of the lowered tree is on a known line and the scan of the tree succeeds. -/
namespace SqlSurvey

/-- Lines are counted from the beginning of the source, so nodes that do not start before it are on known lines. -/
theorem FileScan.exists_scan_of_starts {root : Node} (starts : ∀ node ∈ root.preorder, 0 ≤ node.span.start)
    (settings : Settings) (source : Bytes) (fileName filePath : Text) : ∃ findings,
      scan settings (.ofSource root source) (.ofTexts fileName filePath) = .ok findings := by
  have lines : ∀ node ∈ (SourceTree.ofSource root source).root.preorder,
      1 ≤ (SourceTree.ofSource root source).lineOf node + 1 := by
    intro node inside
    have line := SourceTree.lineAt_ofSource_nonneg root source (starts node inside)
    rw [SourceTree.lineOf]
    omega
  obtain ⟨findings, scanned, -⟩ := scan_of_linesKnown (linesKnown_of_forall lines)
  exact ⟨findings, scanned⟩

namespace Concrete

theorem mem_children_of_mem_fillers {c d : Concrete} {names : List String} (h : d ∈ c.fillers names) :
    d ∈ c.children := by
  obtain ⟨name, -, found⟩ := List.mem_filterMap.1 h
  exact mem_children_of_child? found

theorem mem_children_of_lastExpression? {c d : Concrete} (h : c.lastExpression? = some d) :
    d ∈ c.children :=
  List.mem_reverse.1 (List.mem_of_find?_eq_some h)

/-- What passes from a node to its children passes to all that stays below it. -/
theorem of_mem_kept {p : Concrete → Prop} (inherit : ∀ c, p c → ∀ d ∈ c.children, p d) {c d : Concrete}
    (holds : p c) (h : d ∈ c.kept) : p d := by
  have filled : ∀ names, d ∈ c.fillers names → p d := fun names inside =>
    inherit c holds d (mem_children_of_mem_fillers inside)
  have argument : d ∈ c.keptArguments → p d := by
    intro inside
    obtain ⟨list, found, inside⟩ := List.mem_flatMap.1 inside
    obtain ⟨wrapper, listed, last⟩ := List.mem_filterMap.1 inside
    have holdsList := inherit c holds list (mem_children_of_mem_fillers found)
    have holdsWrapper := inherit list holdsList wrapper
      (mem_children_of_mem_namedChildren (List.mem_of_mem_filter listed))
    exact inherit wrapper holdsWrapper d (mem_children_of_lastExpression? last)
  unfold kept at h
  split at h
  · exact absurd h List.not_mem_nil
  · exact absurd h List.not_mem_nil
  · exact absurd h List.not_mem_nil
  · rcases List.mem_append.1 h with h | h
    · exact filled _ h
    · exact argument h
  · exact filled _ h
  · exact filled _ h
  · exact filled _ h
  · rcases List.mem_append.1 h with h | h
    · exact argument h
    · exact filled _ h
  · exact inherit c holds d (mem_children_of_mem_namedChildren h)

theorem of_mem_keptPreorder {p : Concrete → Prop} (inherit : ∀ c, p c → ∀ d ∈ c.children, p d) {c : Concrete}
    (holds : p c) : ∀ d ∈ c.keptPreorder, p d := by
  induction c using induction_outline [] with
  | step c ih =>
    intro d h
    rw [keptPreorder_eq] at h
    rcases List.mem_cons.1 h with rfl | h
    · exact holds
    · obtain ⟨e, stays, h⟩ := List.mem_flatMap.1 h
      exact ih e (by rw [parts_outline]; exact stays) (of_mem_kept inherit holds stays) d h

/-- A property of a node and of all below it. -/
inductive Everywhere (p : Concrete → Prop) : Concrete → Prop
  | intro {c : Concrete} (here : p c) (below : ∀ d ∈ c.children, d.Everywhere p) : c.Everywhere p

section Everywhere

variable {p : Concrete → Prop} {c : Concrete}

theorem Everywhere.here : c.Everywhere p → p c
  | .intro here _ => here

theorem Everywhere.child : c.Everywhere p → ∀ d ∈ c.children, d.Everywhere p
  | .intro _ below => below

theorem everywhere_iff : c.Everywhere p ↔ p c ∧ ∀ d ∈ c.children, d.Everywhere p :=
  ⟨fun h => ⟨h.here, h.child⟩, fun h => .intro h.1 h.2⟩

theorem Everywhere.imp {q : Concrete → Prop} (h : c.Everywhere p) (implies : ∀ d, p d → q d) : c.Everywhere q := by
  induction h with
  | intro here below ih => exact .intro (implies _ here) ih

end Everywhere

instance decidableEverywhere (p : Concrete → Prop) [DecidablePred p] (c : Concrete) : Decidable (c.Everywhere p) :=
  have below (d : { d // d ∈ c.children }) : Decidable (d.1.Everywhere p) := decidableEverywhere p d.1
  decidable_of_iff (p c ∧ ∀ d ∈ c.children.attach, d.1.Everywhere p) (by simp [everywhere_iff (c := c)])
termination_by sizeOf c
decreasing_by exact sizeOf_lt_of_mem_children d.2

/-- No node starts before the source. -/
def Placed (c : Concrete) : Prop := c.Everywhere fun d => 0 ≤ d.span.start

instance : DecidablePred Placed := decidableEverywhere _

theorem Placed.start_nonneg_of_mem_lower {c : Concrete} (placed : c.Placed) (source : Bytes) :
    ∀ node ∈ (c.lower source).preorder, 0 ≤ node.span.start := by
  intro node inside
  rw [preorder_lower] at inside
  obtain ⟨d, stays, rfl⟩ := List.mem_map.1 inside
  rw [span_lower]
  exact (of_mem_keptPreorder (fun _ => Everywhere.child) placed d stays).here

/-- A scan has no fault if no node starts before the source. -/
theorem Placed.exists_scan {c : Concrete} (placed : c.Placed) (settings : Settings) (source : Bytes)
    (fileName filePath : Text) : ∃ findings,
      FileScan.scan settings (.ofSource (c.lower source) source) (.ofTexts fileName filePath) = .ok findings :=
  FileScan.exists_scan_of_starts (placed.start_nonneg_of_mem_lower source) settings source fileName filePath

def sampleCall (start : Int) : Concrete :=
  .node "invocation_expression" start (start + 6) true none
    [.node "identifier" start (start + 1) true (some "function") [],
      .node "argument_list" (start + 1) (start + 6) true (some "arguments")
        [.node "argument" (start + 2) (start + 5) true none
          [.node "string_literal" (start + 2) (start + 5) true none []]]]

def sampleUnit (starts : List Int) : Concrete := .node "compilation_unit" 0 14 true none (starts.map sampleCall)

def sampleCalls : Concrete := sampleUnit [0, 8]

def sampleLines : Bytes := Utf8.encodeChars "f(\"q\");\ng(\"r\")".toList

def sampleSettings : Settings := { Settings.usual with executionFragments := ["f", "g"] }

theorem findings_of_sampleCalls {findings : FileFindings}
    (scanned : FileScan.scan sampleSettings (.ofSource (sampleCalls.lower sampleLines) sampleLines)
      (.ofTexts "a.cs" "/a.cs") = .ok findings) :
    findings.callSites.map (fun site => site.line.val) = [1, 2] ∧
      findings.queries.map (fun finding => (finding.text, finding.line.val)) =
        [(.ofString "q", 1), (.ofString "r", 2)] := by
  have computed : (FileScan.scan sampleSettings (.ofSource (sampleCalls.lower sampleLines) sampleLines)
      (.ofTexts "a.cs" "/a.cs")).toOption.map (fun findings =>
        (findings.callSites.map fun site => site.line.val,
          findings.queries.map fun finding => (finding.text, finding.line.val))) =
      some ([1, 2], [(.ofString "q", 1), (.ofString "r", 2)]) := by decide +kernel
  rw [scanned] at computed
  exact Prod.mk.inj (Option.some.inj computed)

end Concrete
end SqlSurvey
