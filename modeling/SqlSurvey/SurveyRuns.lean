import SqlSurvey.WorkerPools

/-! # Runs over many files

A run collects the source files of a directory, surveys them one after the other or by several workers, and reports what
it has gathered. -/
namespace SqlSurvey

namespace Survey

def gather (survey : Survey) (gathered : Gathered) : List Path → RunState → RunState × Except SurveyError Gathered
  | [], state => (state, .ok gathered)
  | path :: paths, state =>
    let (state, result) := survey.surveyFile path state
    match gathered.take result state with
    | (state, .ok gathered) => survey.gather gathered paths state
    | (state, .error ending) => (state, ending)

def gatherAll (survey : Survey) (paths : List Path) (state : RunState) : RunState × Except SurveyError Gathered :=
  if survey.settings.workers ≤ 1 then survey.gather {} paths state else survey.gatherPooled paths state

def report (survey : Survey) (gathered : Gathered) : SurveyReport where
  root := survey.root.toText
  files := gathered.files
  ranking := gathered.index.ranking survey.settings.globalTopCalls survey.settings.globalExamples
  totalCalls := gathered.index.totalCalls
  cancelled := gathered.cancelled

def run (survey : Survey) (state : RunState) : RunState × Except SurveyError SurveyReport :=
  match survey.workspace.collect survey.root survey.settings.fileExtension
      survey.settings.excludedDirectories with
  | .error error => (state, .error (.collect error))
  | .ok paths =>
    match survey.gatherAll paths (state.record (.analyzing paths.length survey.root)) with
    | (state, .error error) => (state, .error error)
    | (state, .ok gathered) =>
      (state.record (.ranking gathered.index.size), .ok (survey.report gathered))

end Survey

/-- Surveys a directory under its absolute path. The settings are looked at when that path is known. -/
def surveyDirectory (workspace : Workspace) (grammar : Grammar) (schedule : Schedule) (root : Path)
    (settings : Checked Settings) (state : RunState) : RunState × Except SurveyError SurveyReport :=
  match workspace.resolve root, settings with
  | .error (.loop place), _ => (state, .error (.linkLoop root place))
  | .error (.file error), _ => (state, .error (.file error))
  | .ok _, .error faults => (state, .error (.faults faults))
  | .ok resolved, .ok settings => Survey.run { workspace, grammar, root := resolved, settings, schedule } state

end SqlSurvey
