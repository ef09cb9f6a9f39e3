import SqlSurvey.Proofs.RelocatedTrees

/-! # Scans of relocated trees

A scan reads names, texts and lines of the nodes. Relocation keeps names and texts, so a scan of the relocated tree
finds the same records further down. -/
namespace SqlSurvey

def Positive.add (n : Positive) (more : Nat) : Positive := ⟨n.val + more, Nat.le_add_right_of_le n.one_le⟩

def CallSite.moveDown (lines : Nat) (site : CallSite) : CallSite := { site with line := site.line.add lines }

def QueryFinding.moveDown (lines : Nat) (finding : QueryFinding) : QueryFinding :=
  { finding with line := finding.line.add lines }

/-- The same findings, every line larger by the same number. -/
def FileFindings.moveDown (lines : Nat) (findings : FileFindings) : FileFindings :=
  { findings with
    callSites := findings.callSites.map (CallSite.moveDown lines)
    queries := findings.queries.map (QueryFinding.moveDown lines) }

private def Sightings.moveDown (lines : Nat) (seen : Sightings) : Sightings where
  dependencies := seen.dependencies
  callSites := seen.callSites.map (CallSite.moveDown lines)
  callTexts := seen.callTexts.map (QueryFinding.moveDown lines)
  assignmentTexts := seen.assignmentTexts.map (QueryFinding.moveDown lines)
  constructorTexts := seen.constructorTexts.map (QueryFinding.moveDown lines)

private theorem mapM_map_of_commutes {α α' β β' : Type} {f : α → Checked β} {f' : α' → Checked β'} {g : α → α'}
    {h : β → β'} {items : List α} (commutes : ∀ item ∈ items, f' (g item) = (f item).map h) :
    (items.map g).mapM f' = (items.mapM f).map (List.map h) := by
  induction items with
  | nil => rfl
  | cons item items ih =>
    have rest := ih fun other inside => commutes other (List.mem_cons_of_mem _ inside)
    rw [List.map_cons, List.mapM_cons, List.mapM_cons, rest, commutes item List.mem_cons_self]
    cases f item with
    | error faults => rfl
    | ok made =>
      cases items.mapM f with
      | error faults => rfl
      | ok others => rfl

namespace FileScan

variable {line : Int} (known : 1 ≤ line) (lines : Nat)
include known

private theorem positive_moveDown : Value.positive (line + lines) = (Value.positive line).map (·.add lines) := by
  have below : 1 ≤ line + lines := by omega
  have moved : (line + lines).toNat = line.toNat + lines := by omega
  simp only [Value.positive, dif_pos known, dif_pos below, Except.map, moved]
  rfl

private theorem check_site_moveDown (label : FileLabel) (name : Text) :
    CallSite.check label name (line + lines) = (CallSite.check label name line).map (CallSite.moveDown lines) := by
  rw [CallSite.check, CallSite.check, positive_moveDown known, Value.positive, dif_pos known]
  cases label.check <;> rfl

private theorem queryText_moveDown (kind : FindingKind) (tag : Text) (shift : Nat) (expression : Node) :
    queryText kind tag (line + lines) (expression.relocate shift) =
      (queryText kind tag line expression).map (List.map (QueryFinding.moveDown lines)) := by
  rw [queryText, queryText, Node.constantText_relocate]
  by_cases blank : Text.isBlank expression.constantText
  · rw [if_pos blank, if_pos blank]
    rfl
  · rw [if_neg blank, if_neg blank, QueryFinding.check, QueryFinding.check, positive_moveDown known, Value.positive,
      dif_pos known]
    rfl

omit known

variable (settings : Settings) {tree tree' : SourceTree} {shift : Nat} {lines} (label : FileLabel)

/-- A node that has moved down is seen as before, on lines that have moved with it. -/
private theorem visit_relocate {node : Node} (known : 0 ≤ tree.lineOf node)
    (moved : tree'.lineOf (node.relocate shift) = tree.lineOf node + lines) :
    visit settings tree' label (node.relocate shift) =
      (visit settings tree label node).map (Sightings.moveDown lines) := by
  have first : 1 ≤ tree.lineOf node + 1 := by omega
  have line : tree'.lineOf (node.relocate shift) + 1 = tree.lineOf node + 1 + lines := by omega
  simp only [visit, Node.shape_relocate, line]
  cases node.shape with
  | imports clauses => rfl
  | invocation callee arguments =>
    have texts : (arguments.map (Node.relocate shift)).mapM
          (queryText .callArgument callee.callName (tree.lineOf node + 1 + lines)) =
        (arguments.mapM (queryText .callArgument callee.callName (tree.lineOf node + 1))).map
          (List.map (List.map (QueryFinding.moveDown lines))) :=
      mapM_map_of_commutes fun argument _ => queryText_moveDown first lines _ _ shift argument
    simp only [Shape.mapParts, List.map_attach_eq_pmap, List.pmap_eq_map, Node.callName_relocate,
      check_site_moveDown first, texts]
    cases CallSite.check label callee.callName (tree.lineOf node + 1) with
    | error faults => rfl
    | ok site =>
      by_cases runs : settings.runsQuery callee.callName
      · simp only [if_pos runs]
        cases arguments.mapM (queryText .callArgument callee.callName (tree.lineOf node + 1)) with
        | error faults => rfl
        | ok found => simp [Except.map, bind, Except.bind, pure, Except.pure, Sightings.moveDown, List.map_flatten]
      · simp only [if_neg runs]
        rfl
  | assignment left right =>
    simp only [Shape.mapParts, Node.text_relocate, queryText_moveDown first]
    by_cases sets : settings.setsCommandText left.text
    · simp only [if_pos sets]
      cases queryText .fieldAssignment commandTextTag (tree.lineOf node + 1) right <;> rfl
    · simp only [if_neg sets]
      rfl
  | construction typeName arguments initializer =>
    by_cases command : settings.isCommandType typeName
    · simp only [Shape.mapParts, if_pos command]
      cases arguments with
      | none => rfl
      | some arguments =>
        cases arguments with
        | nil => rfl
        | cons argument arguments =>
          simp only [Option.getD_some, List.attach_cons, List.map_cons, queryText_moveDown first]
          cases queryText .constructorArgument constructorTag (tree.lineOf node + 1) argument <;> rfl
    · simp only [Shape.mapParts, if_neg command]
      rfl
  | bare | group | literal | binary | member => rfl

private theorem flatMap_moveDown {α : Type} {part : Sightings → List α} {move : α → α} {seen : List Sightings}
    (moves : ∀ one, part (one.moveDown lines) = (part one).map move) :
    (seen.map (Sightings.moveDown lines)).flatMap part = (seen.flatMap part).map move := by
  rw [List.flatMap_map, List.map_flatMap]
  exact congrArg (List.flatMap · seen) (funext moves)

theorem scan_relocate (root : tree'.root = tree.root.relocate shift)
    (known : ∀ node ∈ tree.root.preorder, 0 ≤ tree.lineOf node)
    (moved : ∀ node ∈ tree.root.preorder, tree'.lineOf (node.relocate shift) = tree.lineOf node + lines) :
    scan settings tree' label = (scan settings tree label).map (FileFindings.moveDown lines) := by
  have visits : (tree.root.preorder.map (Node.relocate shift)).mapM (visit settings tree' label) =
      (tree.root.preorder.mapM (visit settings tree label)).map (List.map (Sightings.moveDown lines)) :=
    mapM_map_of_commutes fun node inside => visit_relocate settings label (known node inside) (moved node inside)
  rw [scan, scan, root, Node.walk_eq_preorder, Node.walk_eq_preorder, Node.preorder_relocate, visits]
  cases tree.root.preorder.mapM (visit settings tree label) with
  | error faults => rfl
  | ok seen =>
    cases label.check with
    | error faults => rfl
    | ok names =>
      have dependencies : (seen.map (Sightings.moveDown lines)).flatMap Sightings.dependencies =
          seen.flatMap Sightings.dependencies := by rw [List.flatMap_map]; rfl
      simp only [Except.map, bind, Except.bind, pure, Except.pure, FileFindings.moveDown, List.map_append]
      rw [dependencies, flatMap_moveDown fun _ => rfl, flatMap_moveDown fun _ => rfl, flatMap_moveDown fun _ => rfl,
        flatMap_moveDown fun _ => rfl]

end FileScan

namespace Concrete

/-- Bytes in front of a source, by which its tree is moved, change nothing in what a scan finds but the lines:
these are larger by the number of line breaks among the bytes. -/
theorem scan_behind_bytes (settings : Settings) (front source : Bytes) {c : Concrete} (bounded : c.Bounded)
    (fileName filePath : Text) : ∃ findings,
      FileScan.scan settings (.ofSource (c.lower source) source) (.ofTexts fileName filePath) = .ok findings ∧
      FileScan.scan settings (.ofSource ((c.relocate front.length).lower (front ++ source)) (front ++ source))
        (.ofTexts fileName filePath) = .ok (findings.moveDown (front.count 0x0A)) := by
  obtain ⟨findings, scanned⟩ := bounded.placed.exists_scan settings source fileName filePath
  have starts := bounded.placed.start_nonneg_of_mem_lower source
  have root : (SourceTree.ofSource ((c.relocate front.length).lower (front ++ source)) (front ++ source)).root =
      (SourceTree.ofSource (c.lower source) source).root.relocate front.length := lower_relocate front source bounded
  refine ⟨findings, scanned, ?_⟩
  rw [FileScan.scan_relocate settings (.ofTexts fileName filePath) root, scanned]
  · rfl
  · intro node inside
    exact SourceTree.lineAt_ofSource_nonneg _ _ (starts node inside)
  · intro node inside
    rw [SourceTree.lineOf, Node.span_relocate]
    exact SourceTree.lineAt_ofSource_append _ _ _ front (starts node inside)

def sampleHeader : Bytes := Utf8.encodeChars "//\n\n".toList

theorem sampleCalls_behind_header : sampleCalls.Bounded ∧ ∃ findings,
    FileScan.scan sampleSettings (.ofSource (sampleCalls.lower sampleLines) sampleLines) (.ofTexts "a.cs" "/a.cs") =
      .ok findings ∧
    findings.callSites.map (fun site => site.line.val) = [1, 2] ∧
    FileScan.scan sampleSettings (.ofSource ((sampleCalls.relocate 4).lower (sampleHeader ++ sampleLines))
      (sampleHeader ++ sampleLines)) (.ofTexts "a.cs" "/a.cs") = .ok (findings.moveDown 2) := by
  have bounded : sampleCalls.Bounded := by decide +kernel
  obtain ⟨findings, scanned, behind⟩ :=
    scan_behind_bytes sampleSettings sampleHeader sampleLines bounded "a.cs" "/a.cs"
  exact ⟨bounded, findings, scanned, (findings_of_sampleCalls scanned).1, behind⟩

end Concrete
end SqlSurvey
