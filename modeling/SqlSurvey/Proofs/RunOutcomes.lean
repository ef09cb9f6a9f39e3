import SqlSurvey.Proofs.CallHistories
import SqlSurvey.Proofs.FileOutcomes
import SqlSurvey.Proofs.PlacedTrees
import SqlSurvey.Proofs.SearchEndings
import SqlSurvey.SurveyRuns

/-! # What a run reports

A run goes through the collected files until it sees a cancellation. What each file contributes depends on that
file alone, so the report is made of the files before the place of the cancellation. -/
namespace SqlSurvey

namespace Survey

variable (survey : Survey)

/-- The place of the file at which a run with the event is cancelled. -/
def stop (event : CancelEvent) (files : List Path) : Option Nat := files.findIdx? (survey.stopsAt event)

/-- The files that a run with the event leaves behind before it is cancelled. -/
def passed (event : CancelEvent) (files : List Path) : List Path :=
  match survey.stop event files with
  | none => files
  | some j => files.take j

/-- The files that a run with the event reads: also the one that cancels it, unless it was cancelled before. -/
def attempted (event : CancelEvent) (files : List Path) : List Path :=
  match survey.stop event files with
  | none => files
  | some j => if event = .set then files.take j else files.take (j + 1)

def firstFailure (event : CancelEvent) (files : List Path) : Option FileError :=
  (survey.attempted event files).findSome? survey.fatalAt

def readable (files : List Path) : List Path := files.filter fun path => (survey.failureAt path).isNone

def reported (event : CancelEvent) (files : List Path) : List Path := survey.readable (survey.passed event files)

section Steps

variable {survey} {event : CancelEvent} {path : Path} (files : List Path)

private theorem stop_of_stops (stops : survey.stopsAt event path) : survey.stop event (path :: files) = some 0 := by
  simp [stop, List.findIdx?_cons, stops]

private theorem stop_of_continues (continues : ¬ survey.stopsAt event path) :
    survey.stop event (path :: files) = (survey.stop event files).map (· + 1) := by
  simp [stop, List.findIdx?_cons, continues]

private theorem passed_of_stops (stops : survey.stopsAt event path) : survey.passed event (path :: files) = [] := by
  simp [passed, stop_of_stops files stops]

theorem passed_of_continues (continues : ¬ survey.stopsAt event path) :
    survey.passed event (path :: files) = path :: survey.passed event files := by
  rw [passed, passed, stop_of_continues files continues]
  cases survey.stop event files with
  | none => rfl
  | some j => rfl

private theorem attempted_of_stops (active : event ≠ .set) (stops : survey.stopsAt event path) :
    survey.attempted event (path :: files) = [path] := by
  simp [attempted, stop_of_stops files stops, active]

private theorem attempted_of_continues (active : event ≠ .set) (continues : ¬ survey.stopsAt event path) :
    survey.attempted event (path :: files) = path :: survey.attempted event files := by
  rw [attempted, attempted, stop_of_continues files continues]
  cases survey.stop event files with
  | none => rfl
  | some j => simp [active]

theorem firstFailure_of_fatal (active : event ≠ .set) {error : FileError}
    (fatal : survey.fatalAt path = some error) : survey.firstFailure event (path :: files) = some error := by
  by_cases stops : survey.stopsAt event path
  · rw [firstFailure, attempted_of_stops files active stops, List.findSome?_cons, fatal]
  · rw [firstFailure, attempted_of_continues files active stops, List.findSome?_cons, fatal]

private theorem firstFailure_of_stops (active : event ≠ .set) (harmless : survey.fatalAt path = none)
    (stops : survey.stopsAt event path) : survey.firstFailure event (path :: files) = none := by
  rw [firstFailure, attempted_of_stops files active stops, List.findSome?_cons, harmless]
  rfl

theorem firstFailure_of_continues (active : event ≠ .set) (harmless : survey.fatalAt path = none)
    (continues : ¬ survey.stopsAt event path) :
    survey.firstFailure event (path :: files) = survey.firstFailure event files := by
  rw [firstFailure, attempted_of_continues files active continues, List.findSome?_cons, harmless]
  rfl

private theorem readable_cons_of_failure (failure : survey.failureAt path ≠ none) :
    survey.readable (path :: files) = survey.readable files := List.filter_cons_of_neg (by simpa using failure)

private theorem readable_cons_of_readable (clear : survey.failureAt path = none) :
    survey.readable (path :: files) = path :: survey.readable files := List.filter_cons_of_pos (by simp [clear])

private theorem reported_of_stops (stops : survey.stopsAt event path) :
    survey.reported event (path :: files) = [] := by
  rw [reported, passed_of_stops files stops]
  rfl

end Steps

variable {survey}

inductive RunOutcome (survey : Survey) (gathered : Gathered) (event : CancelEvent) (files : List Path) :
    Except SurveyError Gathered → Prop
  | reported {findings} (clean : survey.firstFailure event files = none)
      (finds : List.Forall₂ survey.Finds (survey.reported event files) findings) :
      RunOutcome survey gathered event files
        (.ok (gathered.extend survey.settings findings (survey.stop event files).isSome))
  | failed {error} (first : survey.firstFailure event files = some error) :
      RunOutcome survey gathered event files (.error (.file error))
  | refused {path source faults} (inside : path ∈ files) (read : survey.workspace.readSource path = .ok source)
      (scanned : FileScan.scan survey.settings (survey.treeAt path source) (.ofTexts path.name path.toText) =
        .error faults) :
      RunOutcome survey gathered event files (.error (.faults faults))

section Induction

variable {gathered : Gathered} {event : CancelEvent} {path : Path} {files : List Path}
  {result : Except SurveyError Gathered}

private theorem outcome_of_stops (clean : survey.firstFailure event (path :: files) = none)
    (stops : survey.stopsAt event path) :
    survey.RunOutcome gathered event (path :: files) (.ok { gathered with cancelled := true }) := by
  have finds : List.Forall₂ survey.Finds (survey.reported event (path :: files)) [] := by
    rw [reported_of_stops files stops]
    exact .nil
  have outcome : survey.RunOutcome gathered event (path :: files) _ := .reported clean finds
  simpa [Gathered.extend, stop_of_stops files stops, CallIndex.merge] using outcome

private theorem outcome_of_skipped (active : event ≠ .set) (harmless : survey.fatalAt path = none)
    (failure : survey.failureAt path ≠ none) (continues : ¬ survey.stopsAt event path)
    (rest : survey.RunOutcome gathered event files result) :
    survey.RunOutcome gathered event (path :: files) result := by
  have failures := firstFailure_of_continues files active harmless continues
  cases rest with
  | @reported findings clean finds =>
    have paths : survey.reported event (path :: files) = survey.reported event files := by
      rw [reported, passed_of_continues files continues, readable_cons_of_failure _ failure, reported]
    have outcome : survey.RunOutcome gathered event (path :: files) _ :=
      .reported (failures.trans clean) (paths ▸ finds)
    simpa [stop_of_continues files continues] using outcome
  | failed first => exact .failed (failures.trans first)
  | refused inside read scanned => exact .refused (List.mem_cons_of_mem path inside) read scanned

private theorem outcome_of_found {found : FileFindings} (active : event ≠ .set)
    (clear : survey.failureAt path = none) (finds : survey.Finds path found)
    (continues : ¬ survey.stopsAt event path)
    (rest : survey.RunOutcome (gathered.extend survey.settings [found] false) event files result) :
    survey.RunOutcome gathered event (path :: files) result := by
  have failures := firstFailure_of_continues files active (fatalAt_of_readable clear) continues
  cases rest with
  | @reported findings clean later =>
    have paths : survey.reported event (path :: files) = path :: survey.reported event files := by
      rw [reported, passed_of_continues files continues, readable_cons_of_readable _ clear, reported]
    have all : List.Forall₂ survey.Finds (survey.reported event (path :: files)) (found :: findings) := by
      rw [paths]
      exact .cons finds later
    have outcome : survey.RunOutcome gathered event (path :: files) _ := .reported (failures.trans clean) all
    rw [Gathered.extend_extend, List.singleton_append]
    simpa [stop_of_continues files continues] using outcome
  | failed first => exact .failed (failures.trans first)
  | refused inside read scanned => exact .refused (List.mem_cons_of_mem path inside) read scanned

variable {state next : RunState} {found : Option (FileFindings × FileSummary)}

private theorem gather_of_error {error : SurveyError} (surveyed : survey.surveyFile path state = (next, .error error)) :
    (survey.gather gathered (path :: files) state).2 = .error error := by
  rw [gather, surveyed]
  rfl

private theorem gather_of_set (surveyed : survey.surveyFile path state = (next, .ok found))
    (cancelled : next.event = .set) :
    (survey.gather gathered (path :: files) state).2 = .ok { gathered with cancelled := true } := by
  rw [gather, surveyed]
  dsimp only
  rw [Gathered.take_of_set cancelled]

private theorem gather_of_active (surveyed : survey.surveyFile path state = (next, .ok found))
    (active : next.event ≠ .set) :
    survey.gather gathered (path :: files) state = survey.gather (gathered.add found) files next := by
  rw [gather, surveyed]
  dsimp only
  rw [Gathered.take_of_active active]

end Induction

/-- A run over readable files: the event stays as it is until the run stops. -/
theorem gather_outcome {files : List Path}
    (readable : ∀ path ∈ files, ∃ source, survey.workspace.readSource path = .ok source) (gathered : Gathered)
    (state : RunState) : survey.RunOutcome gathered state.event files (survey.gather gathered files state).2 := by
  induction files generalizing gathered state with
  | nil =>
    have finds : List.Forall₂ survey.Finds (survey.reported state.event []) [] := .nil
    have outcome : survey.RunOutcome gathered state.event [] _ := .reported rfl finds
    simpa [stop, gather] using outcome
  | cons path files ih =>
    have later := ih fun other inside => readable other (List.mem_cons_of_mem path inside)
    by_cases active : state.event = .set
    · -- The run was cancelled before, so no file is read and none can fail.
      have stops : survey.stopsAt state.event path := by rw [active, stopsAt]
      have clean : survey.firstFailure state.event (path :: files) = none := by
        rw [firstFailure, attempted, stop_of_stops files stops]
        simp [active]
      rw [gather_of_set (if_pos active) active]
      exact outcome_of_stops clean stops
    · obtain ⟨source, read⟩ := readable path List.mem_cons_self
      obtain ⟨event, outcome⟩ := surveyFile_outcome read active
      cases surveyed : survey.surveyFile path state with
      | mk next result =>
        rw [surveyed] at event outcome
        -- A failure is seen before the cancellation that the same file asks for.
        have running : ¬ survey.stopsAt state.event path → next.event = state.event ∧ next.event ≠ .set := by
          intro continues
          rw [eventAfter, if_neg continues] at event
          exact ⟨event, event ▸ active⟩
        have stopped : survey.stopsAt state.event path → next.event = .set := by
          intro stops
          rw [event, eventAfter, if_pos stops]
        cases outcome with
        | failed fatal =>
          rw [gather_of_error surveyed]
          exact .failed (firstFailure_of_fatal files active fatal)
        | refused read scanned =>
          rw [gather_of_error surveyed]
          exact .refused List.mem_cons_self read scanned
        | skipped harmless failure =>
          by_cases stops : survey.stopsAt state.event path
          · rw [gather_of_set surveyed (stopped stops)]
            exact outcome_of_stops (firstFailure_of_stops files active harmless stops) stops
          · have rest := later gathered next
            rw [(running stops).1] at rest
            rw [gather_of_active surveyed (running stops).2]
            exact outcome_of_skipped active harmless failure stops rest
        | @found found clear finds =>
          by_cases stops : survey.stopsAt state.event path
          · rw [gather_of_set surveyed (stopped stops)]
            exact outcome_of_stops (firstFailure_of_stops files active (fatalAt_of_readable clear) stops) stops
          · have rest := later (gathered.extend survey.settings [found] false) next
            rw [(running stops).1] at rest
            rw [gather_of_active surveyed (running stops).2, Gathered.add_some]
            exact outcome_of_found active clear finds stops rest

/-- A report of files with the findings, and of nothing else. -/
structure Reports (survey : Survey) (findings : List FileFindings) (cancelled : Bool) (report : SurveyReport) :
    Prop where
  root : report.root = survey.root.toText
  files : report.files = findings.map (FileSummary.ofFindings survey.settings)
  totalCalls : report.totalCalls = (findings.flatMap FileFindings.callSites).length
  ranking : report.ranking = (CallIndex.empty.merge (findings.flatMap FileFindings.callSites)).ranking
    survey.settings.globalTopCalls survey.settings.globalExamples
  totals : ∀ entry ∈ report.ranking,
    entry.total.val = (sitesOf (findings.flatMap FileFindings.callSites) entry.name).length
  cancelled : report.cancelled = cancelled

/-- The report of what was gathered from files is a report of their findings. -/
theorem reports_extend (findings : List FileFindings) (cancelled : Bool) : survey.Reports findings cancelled
    (survey.report (({} : Gathered).extend survey.settings findings cancelled)) where
  root := rfl
  files := List.nil_append _
  totalCalls := by
    have total := CallIndex.totalCalls_merge .empty (findings.flatMap FileFindings.callSites)
    rw [show CallIndex.empty.totalCalls = 0 from rfl, Nat.zero_add] at total
    exact total
  ranking := rfl
  totals := by
    intro entry listed
    obtain ⟨bucket, inside, rfl⟩ := CallIndex.exists_bucket_of_mem_ranking _ _ _ listed
    exact congrArg List.length (CallIndex.sites_of_groups (CallIndex.groups_ofSites _) inside)
  cancelled := Bool.false_or cancelled

/-- Every node of a placed tree is on a known line, so no scan is refused. -/
theorem not_refused {path : Path} {source : Bytes} {faults : List Fault}
    (placed : (survey.grammar path source).tree.Placed) :
    FileScan.scan survey.settings (survey.treeAt path source) (.ofTexts path.name path.toText) ≠ .error faults := by
  obtain ⟨findings, found⟩ := placed.exists_scan survey.settings source path.name path.toText
  rw [found]
  exact nofun

theorem run_eq_gatherAll {files : List Path} (collected : survey.workspace.collect survey.root
      survey.settings.fileExtension survey.settings.excludedDirectories = .ok files) (state : RunState) :
    ∃ start : RunState, start.event = state.event ∧
      (survey.run state).2 = (survey.gatherAll files start).2.map survey.report := by
  refine ⟨state.record (.analyzing files.length survey.root), rfl, ?_⟩
  rw [run, collected]
  dsimp only
  generalize survey.gatherAll files (state.record (.analyzing files.length survey.root)) = ended
  obtain ⟨last, result⟩ := ended
  cases result with
  | error error => rfl
  | ok gathered => rfl

/-- A run over placed trees, one file after the other, ends with the first failure that it may not skip, or else it
reports exactly the files that can be read among those before it was cancelled. -/
theorem run_reports_files_before_stop {files : List Path} (sequential : survey.settings.workers ≤ 1)
    (collected : survey.workspace.collect survey.root survey.settings.fileExtension
      survey.settings.excludedDirectories = .ok files)
    (placed : ∀ path ∈ files, ∀ source, survey.workspace.readSource path = .ok source →
      (survey.grammar path source).tree.Placed) (state : RunState) :
    match survey.firstFailure state.event files with
    | some error => (survey.run state).2 = .error (.file error)
    | none => ∃ findings report,
        List.Forall₂ survey.Finds (survey.reported state.event files) findings ∧
          (survey.run state).2 = .ok report ∧
          survey.Reports findings (survey.stop state.event files).isSome report := by
  obtain ⟨start, event, ends⟩ := run_eq_gatherAll collected state
  have outcome := gather_outcome (fun _ inside => Workspace.exists_readSource_of_collect collected inside) {} start
  rw [gatherAll, if_pos sequential] at ends
  rw [event] at outcome
  generalize (survey.gather {} files start).2 = result at ends outcome
  cases outcome with
  | @reported findings clean finds =>
    rw [clean]
    exact ⟨findings, _, finds, ends, reports_extend findings _⟩
  | failed first =>
    rw [first]
    exact ends
  | refused inside read scanned => exact absurd scanned (not_refused (placed _ inside _ read))

/-- Files with one or two calls: the second cannot be read, and the fourth asks for a cancellation. -/
def sample : Survey where
  workspace := ⟨.directory (["e.cs", "d.cs", "c.cs", "b.cs", "a.cs"].map fun name =>
    (.ofString name, .file Concrete.sampleLines)), []⟩
  grammar path _ :=
    { cancels := path.name = "d.cs", failure := if path.name = "b.cs" then some "unreadable" else none,
      tree := Concrete.sampleUnit (if path.name = "a.cs" then [0] else [0, 8]) }
  root := ⟨.slash, []⟩
  settings := { Settings.usual with globalTopCalls := 1, globalExamples := 1 }
  errorMode := .skip

def sampleFile (name : Text) : Path := ⟨.slash, [name]⟩

def sampleFiles : List Path := ["a.cs", "b.cs", "c.cs", "d.cs", "e.cs"].map fun name => sampleFile (.ofString name)

theorem collect_sample : sample.workspace.collect sample.root sample.settings.fileExtension
    sample.settings.excludedDirectories = .ok sampleFiles :=
  Workspace.collect_of_files rfl rfl (by decide) (by decide) (by decide)

theorem placed_sample (path : Path) (source : Bytes) : (sample.grammar path source).tree.Placed := by
  have one : (Concrete.sampleUnit [0]).Placed := by decide +kernel
  have two : (Concrete.sampleUnit [0, 8]).Placed := by decide +kernel
  by_cases first : path.name = "a.cs"
  · simpa [sample, first] using one
  · simpa [sample, first] using two

theorem cancelsAt_sample {path : Path} (inside : path ∈ sampleFiles) :
    sample.cancelsAt path = decide (path.name = "d.cs") := by
  obtain ⟨source, read⟩ := Workspace.exists_readSource_of_collect collect_sample inside
  rw [cancelsAt, read]
  rfl

theorem failureAt_sample {path : Path} (inside : path ∈ sampleFiles) : sample.failureAt path =
    if path.name = "b.cs" then some (.other "unreadable") else none := by
  obtain ⟨source, read⟩ := Workspace.exists_readSource_of_collect collect_sample inside
  rw [failureAt, read]
  exact apply_ite (Option.map FileError.other) (path.name = "b.cs") (some "unreadable") none

theorem firstFailure_sample (event : CancelEvent) (files : List Path) : sample.firstFailure event files = none := by
  rw [firstFailure, List.findSome?_eq_none_iff]
  intro path attempted
  exact if_neg (by decide)

theorem stop_sample : sample.stop .clear sampleFiles = some 3 := by
  have cancels : sampleFiles.map sample.cancelsAt = [false, false, false, true, false] := by
    rw [List.map_congr_left fun path inside => cancelsAt_sample inside]
    decide
  simp only [sampleFiles, List.map_cons, List.map_nil, List.cons.injEq, and_true] at cancels
  simp [stop, stopsAt, sampleFiles, List.findIdx?_cons, cancels]

theorem reported_sample : sample.reported .clear sampleFiles = [sampleFile "a.cs", sampleFile "c.cs"] := by
  have readable : sample.reported .clear sampleFiles =
      (sampleFiles.take 3).filter fun path => path.name != .ofString "b.cs" := by
    rw [reported, readable, passed, stop_sample]
    refine List.filter_congr ?_
    intro path inside
    rw [failureAt_sample (List.mem_of_mem_take inside)]
    by_cases second : path.name = "b.cs"
    · simp [second]
    · simp [second]
  rw [readable]
  decide

theorem sample_reports_two_files : sample.settings.workers ≤ 1 ∧
    sample.workspace.collect sample.root sample.settings.fileExtension sample.settings.excludedDirectories =
      .ok sampleFiles ∧ (∀ path source, (sample.grammar path source).tree.Placed) ∧
    ∃ findings report, List.Forall₂ sample.Finds [sampleFile "a.cs", sampleFile "c.cs"] findings ∧
      (sample.run { event := .clear }).2 = .ok report ∧ sample.Reports findings true report := by
  have sequential : sample.settings.workers ≤ 1 := by decide
  have ends := run_reports_files_before_stop sequential collect_sample
    (fun path _ source _ => placed_sample path source) { event := .clear }
  rw [firstFailure_sample, reported_sample, stop_sample] at ends
  exact ⟨sequential, collect_sample, placed_sample, ends⟩

end Survey
end SqlSurvey
