import Mathlib.Algebra.GroupWithZero.Nat
import SqlSurvey.Proofs.LeadingNames
import SqlSurvey.Proofs.PooledRuns

/-! # Reports agree with their files

A report counts the calls twice: the summary of each file has tallies of its own, and the ranking comes from an
index over all files. Both count the same call sites. -/
namespace SqlSurvey

private theorem length_sitesOf_flatMap (findings : List FileFindings) (name : Text) :
    (sitesOf (findings.flatMap FileFindings.callSites) name).length =
      (findings.map fun found => (sitesOf found.callSites name).length).sum := by
  induction findings with
  | nil => rfl
  | cons found findings ih =>
    have split : sitesOf ((found :: findings).flatMap FileFindings.callSites) name =
        sitesOf found.callSites name ++ sitesOf (findings.flatMap FileFindings.callSites) name := by
      rw [List.flatMap_cons, sitesOf, List.filter_append, sitesOf, sitesOf]
    rw [split, List.length_append, ih, List.map_cons, List.sum_cons]

/-- A report that counts the call sites of files with the findings. -/
structure Agrees (settings : Settings) (findings : List FileFindings) (sites : List CallSite)
    (report : SurveyReport) : Prop where
  totalCalls : report.totalCalls = (report.files.map FileSummary.callCount).sum
  totals : ∀ entry ∈ report.ranking, entry.total.val = (sitesOf sites entry.name).length
  remaining : ∀ entry ∈ report.ranking, entry.examples.length + entry.remaining = entry.total.val
  examples : ∀ entry ∈ report.ranking,
    entry.examples = (sitesOf sites entry.name).take (min settings.globalExamples entry.total.val)
  length : report.ranking.length = min settings.globalTopCalls (namesOf sites).length
  leftOut : ∀ name ∈ namesOf sites, (∀ entry ∈ report.ranking, entry.name ≠ name) →
    ∀ entry ∈ report.ranking, (sitesOf sites name).length ≤ entry.total.val
  topCalls : (∀ found ∈ findings, (namesOf found.callSites).length ≤ settings.fileTopCalls) →
    ∀ entry ∈ report.ranking, entry.total.val = (report.files.map fun file => file.topCount entry.name).sum

namespace Survey.Reports

variable {survey : Survey} {findings : List FileFindings} {cancelled : Bool} {report : SurveyReport}
  (reports : survey.Reports findings cancelled report)
include reports

/-- The total of a report is the sum over its files. -/
private theorem totalCalls_eq_sum : report.totalCalls = (report.files.map FileSummary.callCount).sum := by
  rw [reports.totalCalls, reports.files, List.length_flatMap, List.map_map]
  rfl

private theorem exists_bucket {entry : RankedCall} (listed : entry ∈ report.ranking) : ∃ bucket : Bucket,
    bucket.sites = sitesOf (findings.flatMap FileFindings.callSites) bucket.name ∧
      entry = CallIndex.rankBucket survey.settings.globalExamples bucket := by
  rw [reports.ranking] at listed
  obtain ⟨bucket, inside, same⟩ := CallIndex.exists_bucket_of_mem_ranking _ _ _ listed
  exact ⟨bucket, CallIndex.sites_of_groups (CallIndex.groups_ofSites _) inside, same⟩

private theorem examples_eq {entry : RankedCall} (listed : entry ∈ report.ranking) : entry.examples =
    (sitesOf (findings.flatMap FileFindings.callSites) entry.name).take
      (min survey.settings.globalExamples entry.total.val) := by
  obtain ⟨bucket, sites, rfl⟩ := reports.exists_bucket listed
  simp only [CallIndex.rankBucket, sliceTo_natCast, ← sites, Bucket.total]
  rw [List.take_eq_take_iff]
  omega

private theorem examples_add_remaining {entry : RankedCall} (listed : entry ∈ report.ranking) :
    entry.examples.length + entry.remaining = entry.total.val := by
  obtain ⟨bucket, -, rfl⟩ := reports.exists_bucket listed
  simp only [CallIndex.rankBucket, sliceTo_natCast, List.length_take, Bucket.total]
  omega

private theorem total_le {name : Text} (known : name ∈ namesOf (findings.flatMap FileFindings.callSites))
    (out : ∀ entry ∈ report.ranking, entry.name ≠ name) {entry : RankedCall} (listed : entry ∈ report.ranking) :
    (sitesOf (findings.flatMap FileFindings.callSites) name).length ≤ entry.total.val := by
  have groups := CallIndex.groups_ofSites (findings.flatMap FileFindings.callSites)
  obtain ⟨bucket, inside, rfl⟩ := CallIndex.exists_bucket_of_groups groups known
  rw [reports.ranking] at out listed
  rw [← CallIndex.sites_of_groups groups inside]
  exact CallIndex.total_le_of_left_out _ _ _ inside out listed

/-- A total of the ranking is the sum of the counts in the files, if these leave no name out. -/
private theorem total_eq_topCounts
    (room : ∀ found ∈ findings, (namesOf found.callSites).length ≤ survey.settings.fileTopCalls)
    {entry : RankedCall} (listed : entry ∈ report.ranking) :
    entry.total.val = (report.files.map fun file => file.topCount entry.name).sum := by
  rw [reports.totals entry listed, length_sitesOf_flatMap, reports.files, List.map_map]
  refine congrArg List.sum (List.map_congr_left ?_)
  intro found inside
  exact (FileSummary.topCount_ofFindings (room found inside) entry.name).symm

theorem agrees : Agrees survey.settings findings (findings.flatMap FileFindings.callSites) report where
  totalCalls := reports.totalCalls_eq_sum
  totals := reports.totals
  remaining _ listed := reports.examples_add_remaining listed
  examples _ listed := reports.examples_eq listed
  length := by
    rw [reports.ranking, CallIndex.length_ranking, CallIndex.size_of_groups (CallIndex.groups_ofSites _)]
  leftOut _ known out _ listed := reports.total_le known out listed
  topCalls room _ listed := reports.total_eq_topCounts room listed

end Survey.Reports

namespace Survey

/-- The call sites of the findings are those of the file, in the recursive order of its tree. -/
def SitesInOrder (survey : Survey) (path : Path) (found : FileFindings) : Prop :=
  ∃ source, survey.workspace.readSource path = .ok source ∧
    found.callSites.map CallSite.listed = FileScan.sitePass (survey.treeAt path source) path.name path.toText
      (survey.treeAt path source).root.preorder

/-- The findings of a file list its calls in the recursive order of the tree. -/
private theorem Finds.sitesInOrder {survey : Survey} {path : Path} {found : FileFindings}
    (finds : survey.Finds path found) : survey.SitesInOrder path found := by
  obtain ⟨source, read, scanned⟩ := finds
  exact ⟨source, read, (FileScan.followsPasses_of_scan scanned).callSites⟩

private theorem exists_collected {survey : Survey} {state : RunState} {report : SurveyReport}
    (returned : (survey.run state).2 = .ok report) : ∃ files, survey.workspace.collect survey.root
      survey.settings.fileExtension survey.settings.excludedDirectories = .ok files := by
  unfold run at returned
  split at returned
  · cases returned
  · rename_i files collected
    exact ⟨files, collected⟩

/-- A returned report agrees with the files that were merged. These are the first of the files that one worker passes
before the run is cancelled, and all of them where the run is not cancelled or where there is one worker. -/
theorem report_agrees_with_files {survey : Survey} {state : RunState} {report : SurveyReport}
    (returned : (survey.run state).2 = .ok report) : ∃ files merged findings,
      survey.workspace.collect survey.root survey.settings.fileExtension survey.settings.excludedDirectories =
        .ok files ∧
      report.cancelled = (survey.stop state.event files).isSome ∧
      merged <+: survey.passed state.event files ∧
      (report.cancelled = false → merged = files) ∧
      (survey.settings.workers ≤ 1 → merged = survey.passed state.event files) ∧
      List.Forall₂ (fun path found => survey.Finds path found ∧ survey.SitesInOrder path found)
        (survey.readable merged) findings ∧
      report.files = findings.map (FileSummary.ofFindings survey.settings) ∧
      Agrees survey.settings findings (findings.flatMap FileFindings.callSites) report := by
  obtain ⟨files, collected⟩ := exists_collected returned
  obtain ⟨merged, findings, first, whole, alone, finds, reports⟩ := reports_of_run collected returned
  refine ⟨files, merged, findings, collected, reports.cancelled, first, ?_, alone, ?_, reports.files, reports.agrees⟩
  · intro complete
    rw [reports.cancelled, Option.isSome_eq_false_iff, Option.isNone_iff_eq_none] at complete
    exact whole complete
  · exact finds.imp fun _ _ found => ⟨found, found.sitesInOrder⟩

def sampleSite (name fileName : Text) (line : Positive) : CallSite :=
  ⟨name, fileName, (sampleFile fileName).toText, line⟩

def sampleSites : List CallSite :=
  [sampleSite "f" "a.cs" .one, sampleSite "f" "c.cs" .one, sampleSite "g" "c.cs" ⟨2, by decide⟩]

private theorem callSites_sample {name : Text} {sites : List CallSite} {found : FileFindings}
    (read : sample.workspace.readSource (sampleFile name) = .ok Concrete.sampleLines)
    (scan : ((FileScan.scan sample.settings (sample.treeAt (sampleFile name) Concrete.sampleLines)
      (.ofTexts (sampleFile name).name (sampleFile name).toText)).toOption.map FileFindings.callSites) = some sites)
    (finds : sample.Finds (sampleFile name) found) : found.callSites = sites := by
  obtain ⟨source, contents, scanned⟩ := finds
  rw [read, Except.ok.injEq] at contents
  rw [← contents] at scanned
  rw [scanned] at scan
  exact Option.some.inj scan

theorem sample_report_agrees : ∃ report, (sample.run { event := .clear }).2 = .ok report ∧
    report.ranking.map (fun entry => (entry.name, entry.total.val)) = [(.ofString "f", 2)] ∧
    ∃ files merged findings,
      sample.workspace.collect sample.root sample.settings.fileExtension sample.settings.excludedDirectories =
        .ok files ∧
      report.cancelled = (sample.stop .clear files).isSome ∧
      merged <+: sample.passed .clear files ∧
      (report.cancelled = false → merged = files) ∧
      (sample.settings.workers ≤ 1 → merged = sample.passed .clear files) ∧
      List.Forall₂ (fun path found => sample.Finds path found ∧ sample.SitesInOrder path found)
        (sample.readable merged) findings ∧
      report.files = findings.map (FileSummary.ofFindings sample.settings) ∧
      Agrees sample.settings findings (findings.flatMap FileFindings.callSites) report := by
  rcases run_of_placed collect_sample (fun path _ source _ => placed_sample path source) { event := .clear } with
    ⟨error, first, -⟩ | ⟨report, returned⟩
  · rw [firstFailure_sample] at first
    cases first
  · refine ⟨report, returned, ?_, report_agrees_with_files returned⟩
    obtain ⟨merged, findings, -, -, alone, finds, reports⟩ := reports_of_run collect_sample returned
    rw [alone (by decide), ← reported, reported_sample] at finds
    cases finds with
    | cons first rest =>
      cases rest with
      | cons second nothing =>
        cases nothing
        have one : _ = sampleSites.take 1 := callSites_sample rfl (by decide +kernel) first
        have two : _ = sampleSites.drop 1 := callSites_sample rfl (by decide +kernel) second
        have order : CallIndex.rankedNames sampleSites = [.ofString "f", .ofString "g"] :=
          CallIndex.rankedNames_eq (by decide) (by decide)
        rw [reports.ranking, List.flatMap_cons, List.flatMap_cons, List.flatMap_nil, one, two]
        refine (CallIndex.map_total_ranking sampleSites 1 1).trans ?_
        rw [order]
        decide

end Survey
end SqlSurvey
