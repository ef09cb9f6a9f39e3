import SqlSurvey.FileSurveys

/-! # Several workers

A pool has a queue of files and a number of workers, each of which surveys one file at a time. The workers take the
files in order, but they may finish in any order; the results are collected in the order of the files. The moves of a
schedule that are not possible when their turn comes do nothing. -/
namespace SqlSurvey

/-- How far the survey of a file is: it has begun, its tree is known, or its result is. -/
inductive Stage where
  | begun
  | parsed (tree : SourceTree)
  | done (result : FileResult)

structure Task where
  path : Path
  stage : Stage

def Task.isDone (task : Task) : Bool :=
  match task.stage with
  | .done _ => true
  | _ => false

/-- The files that no worker has taken, those that were taken and are not collected, what was gathered from the others,
and how the gathering has ended if it has. -/
structure Pool where
  queue : List Path
  tasks : List Task := []
  gathered : Gathered := {}
  ended : Option (Except SurveyError Gathered) := none
  state : RunState

namespace Survey

/-- The first stage of a file: a run that is cancelled leaves it out. -/
def beginTask (path : Path) (state : RunState) : Task :=
  ⟨path, if state.event = .set then .done (.ok none) else .begun⟩

def advanceTask (survey : Survey) (task : Task) (state : RunState) : RunState × Task :=
  match task.stage with
  | .begun =>
    match survey.parseFile task.path state with
    | (state, .ok tree) => (state, { task with stage := .parsed tree })
    | (state, .error result) => (state, { task with stage := .done result })
  | .parsed tree =>
    let (state, result) := survey.surveyTree task.path tree state
    (state, { task with stage := .done result })
  | .done _ => (state, task)

/-- A worker is free if fewer files are at work than there are workers. -/
def startTask (survey : Survey) (pool : Pool) : Pool :=
  match pool.queue with
  | [] => pool
  | path :: queue =>
    if (pool.tasks.filter (!·.isDone)).length < survey.settings.workers then
      { pool with queue, tasks := pool.tasks ++ [beginTask path pool.state] }
    else pool

def advanceAt (survey : Survey) (place : Nat) (pool : Pool) : Pool :=
  match pool.tasks[place]? with
  | none => pool
  | some task =>
    let (state, task) := survey.advanceTask task pool.state
    { pool with tasks := pool.tasks.set place task, state }

/-- Collects the result of the first task, if it is there, or ends the gathering, if no file is left. -/
def collectResult (pool : Pool) : Pool :=
  match pool.ended, pool.tasks with
  | some _, _ => pool
  | none, [] => if pool.queue.isEmpty then { pool with ended := some (.ok pool.gathered) } else pool
  | none, task :: tasks =>
    match task.stage with
    | .done result =>
      match pool.gathered.take result pool.state with
      | (state, .ok gathered) => { pool with tasks, gathered, state }
      | (state, .error ending) => { pool with ended := some ending, state }
    | _ => pool

def move (survey : Survey) (pool : Pool) : Move → Pool
  | .start => survey.startTask pool
  | .advance place => survey.advanceAt place pool
  | .collect => collectResult pool
  | .close => if pool.ended.isSome then { pool with queue := [] } else pool

def play (survey : Survey) (pool : Pool) (moves : List Move) : Pool := moves.foldl survey.move pool

/-- The moves that bring the first task to its end and collect it. -/
def round : List Move := [.start, .advance 0, .advance 0, .collect, .close]

/-- The moves that end a gathering of at most the given number of files. When it has ended, what is still at work is
brought to its end. -/
def conclusion (files : Nat) : List Move :=
  (List.replicate files round).flatten ++ [.collect, .close] ++
    (List.range files).flatMap fun place => [.advance place, .advance place]

/-- Gathers files by several workers, which first follow the schedule. -/
def gatherPooled (survey : Survey) (paths : List Path) (state : RunState) : RunState × Except SurveyError Gathered :=
  let pool := survey.play { queue := paths, state } (survey.schedule ++ conclusion paths.length)
  (pool.state, pool.ended.getD (.ok pool.gathered))

end Survey
end SqlSurvey
