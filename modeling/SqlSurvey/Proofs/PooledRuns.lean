import Mathlib.Data.List.Forall2
import SqlSurvey.Proofs.RunOutcomes

/-! # Runs with several workers

Several workers may see a cancellation earlier than one worker does, since a file that is surveyed ahead of its turn may
ask for it. They report fewer files then, but always the first ones, and they fail only where one worker fails. This
holds for every schedule, and every schedule comes to an end. -/
namespace SqlSurvey

namespace Survey

/-- How a gathering may end, whatever the number of workers is. The files that were merged are the first of those that
one worker passes. -/
inductive GatherOutcome (survey : Survey) (event : CancelEvent) (files : List Path) :
    Except SurveyError Gathered → Prop
  | reported {merged findings} (first : merged <+: survey.passed event files)
      (whole : survey.stop event files = none → merged = files)
      (alone : survey.settings.workers ≤ 1 → merged = survey.passed event files)
      (finds : List.Forall₂ survey.Finds (survey.readable merged) findings) :
      GatherOutcome survey event files
        (.ok (({} : Gathered).extend survey.settings findings (survey.stop event files).isSome))
  | failed {error} (first : survey.firstFailure event files = some error) :
      GatherOutcome survey event files (.error (.file error))
  | refused {path source faults} (inside : path ∈ files) (read : survey.workspace.readSource path = .ok source)
      (scanned : FileScan.scan survey.settings (survey.treeAt path source) (.ofTexts path.name path.toText) =
        .error faults) :
      GatherOutcome survey event files (.error (.faults faults))

variable {survey : Survey} {event now : CancelEvent} {files : List Path}

theorem passed_of_stop_eq_none (goes : survey.stop event files = none) : survey.passed event files = files := by
  rw [passed, goes]

theorem RunOutcome.gatherOutcome {result : Except SurveyError Gathered}
    (outcome : survey.RunOutcome {} event files result) : survey.GatherOutcome event files result := by
  cases outcome with
  | reported clean finds => exact .reported (List.prefix_refl _) passed_of_stop_eq_none (fun _ => rfl) finds
  | failed first => exact .failed first
  | refused inside read scanned => exact .refused inside read scanned

/-! ### Files that were passed -/

/-- A run with the event goes on at each of the files. -/
def Passes (survey : Survey) (event : CancelEvent) (front : List Path) : Prop :=
  ∀ path ∈ front, ¬ survey.stopsAt event path ∧ survey.fatalAt path = none

section

variable {front : List Path}

private theorem passed_append (passes : survey.Passes event front) (rest : List Path) :
    survey.passed event (front ++ rest) = front ++ survey.passed event rest := by
  induction front with
  | nil => rfl
  | cons path front ih =>
    obtain ⟨here, later⟩ := List.forall_mem_cons.1 passes
    rw [List.cons_append, passed_of_continues _ here.1, ih later, List.cons_append]

private theorem firstFailure_append (active : event ≠ .set) (passes : survey.Passes event front) (rest : List Path) :
    survey.firstFailure event (front ++ rest) = survey.firstFailure event rest := by
  induction front with
  | nil => rfl
  | cons path front ih =>
    obtain ⟨here, later⟩ := List.forall_mem_cons.1 passes
    rw [List.cons_append, firstFailure_of_continues _ active here.2 here.1, ih later]

private theorem stop_eq_none (passes : survey.Passes event files) : survey.stop event files = none := by
  rw [stop, List.findIdx?_eq_none_iff]
  intro path inside
  simpa using (passes path inside).1

private theorem isSome_stop {path : Path} (inside : path ∈ files) (stops : survey.stopsAt event path) :
    (survey.stop event files).isSome := by
  rw [stop, List.findIdx?_isSome, List.any_eq_true]
  exact ⟨path, inside, stops⟩

end

/-! ### Tasks -/

/-- What is known of a task of a run that began with one event and has another now. -/
inductive TaskSound (survey : Survey) (event now : CancelEvent) : Task → Prop
  | begun {path} (active : event ≠ .set) : TaskSound survey event now ⟨path, .begun⟩
  | parsed {path source} (active : event ≠ .set) (readable : survey.failureAt path = none)
      (read : survey.workspace.readSource path = .ok source) (seen : survey.stopsAt event path → now = .set) :
      TaskSound survey event now ⟨path, .parsed (survey.treeAt path source)⟩
  | done {path result} (active : event ≠ .set) (outcome : survey.FileOutcome path result)
      (seen : survey.stopsAt event path → now = .set) : TaskSound survey event now ⟨path, .done result⟩
  | left {path} (cancelled : now = .set) : TaskSound survey event now ⟨path, .done (.ok none)⟩

/-- The event stays as it is until a file that stops the run is read. -/
def Signalled (survey : Survey) (event : CancelEvent) (files : List Path) (now : CancelEvent) : Prop :=
  now = event ∨ now = .set ∧ (survey.stop event files).isSome

theorem Signalled.isSome_stop {path : Path} (signalled : survey.Signalled event files now) (cancelled : now = .set)
    (inside : path ∈ files) : (survey.stop event files).isSome := by
  rcases signalled with rfl | ⟨-, stops⟩
  · exact Survey.isSome_stop inside (by rw [cancelled, stopsAt])
  · exact stops

theorem Signalled.active (signalled : survey.Signalled event files now) (active : now ≠ .set) : event ≠ .set := by
  rcases signalled with rfl | ⟨cancelled, -⟩
  · exact active
  · exact absurd cancelled active

/-- Whoever reads a file, the event after it is as if the file had been read at the beginning. -/
theorem Signalled.eventAfter {path : Path} (signalled : survey.Signalled event files now) (inside : path ∈ files) :
    survey.Signalled event files (survey.eventAfter now path) ∧
      (survey.stopsAt event path → survey.eventAfter now path = .set) := by
  rw [Survey.eventAfter]
  rcases signalled with rfl | ⟨rfl, stops⟩
  · by_cases here : survey.stopsAt now path
    · rw [if_pos here]
      exact ⟨.inr ⟨rfl, Survey.isSome_stop inside here⟩, fun _ => rfl⟩
    · rw [if_neg here]
      exact ⟨.inl rfl, fun stops => absurd stops here⟩
  · rw [ite_self]
    exact ⟨.inr ⟨rfl, stops⟩, fun _ => rfl⟩

theorem eventAfter_of_set (path : Path) : survey.eventAfter .set path = .set := ite_self _

/-- What is known of a task stays true while the event changes. -/
theorem TaskSound.later {task : Task} {next : CancelEvent} (sound : survey.TaskSound event now task)
    (stays : now = .set → next = .set) : survey.TaskSound event next task := by
  cases sound with
  | begun active => exact .begun active
  | parsed active readable read seen => exact .parsed active readable read fun stops => stays (seen stops)
  | done active outcome seen => exact .done active outcome fun stops => stays (seen stops)
  | left cancelled => exact .left (stays cancelled)

/-- A file may only be left out once the run is cancelled. -/
theorem beginTask_sound {path : Path} {state : RunState} (signalled : survey.Signalled event files state.event) :
    survey.TaskSound event state.event (beginTask path state) := by
  unfold beginTask
  split
  · rename_i cancelled
    exact .left cancelled
  · rename_i active
    exact .begun (signalled.active active)

/-- A task that comes a stage further stays sound, and so does the event. -/
theorem advanceTask_sound {task : Task} {state : RunState} {source : Bytes} (inside : task.path ∈ files)
    (read : survey.workspace.readSource task.path = .ok source)
    (signalled : survey.Signalled event files state.event) (sound : survey.TaskSound event state.event task) :
    survey.Signalled event files (survey.advanceTask task state).1.event ∧
      (state.event = .set → (survey.advanceTask task state).1.event = .set) ∧
      (survey.advanceTask task state).2.path = task.path ∧
      survey.TaskSound event (survey.advanceTask task state).1.event (survey.advanceTask task state).2 := by
  cases sound with
  | @begun path active =>
    obtain ⟨after, outcome⟩ := parseFile_outcome read state
    obtain ⟨signalled, seen⟩ := signalled.eventAfter inside
    have stays : state.event = .set → survey.eventAfter state.event path = .set := by
      intro cancelled
      rw [cancelled, eventAfter_of_set]
    rw [← after] at signalled seen stays
    simp only [advanceTask]
    generalize survey.parseFile path state = parsed at outcome signalled seen stays ⊢
    obtain ⟨next, result⟩ := parsed
    cases outcome with
    | parsed readable read => exact ⟨signalled, stays, rfl, .parsed active readable read seen⟩
    | settled outcome => exact ⟨signalled, stays, rfl, .done active outcome seen⟩
  | parsed active readable known seen =>
    obtain ⟨after, outcome⟩ := surveyTree_outcome readable known state
    simp only [advanceTask]
    rw [after]
    exact ⟨signalled, id, trivial, .done active outcome seen⟩
  | done active outcome seen => exact ⟨signalled, id, rfl, .done active outcome seen⟩
  | left cancelled => exact ⟨signalled, id, rfl, .left cancelled⟩

/-! ### The pool -/

/-- A pool that has merged the front of the files: the tasks and the queue are the others, in order. -/
structure Running (survey : Survey) (event : CancelEvent) (files front : List Path) (findings : List FileFindings)
    (pool : Pool) : Prop where
  several : 1 < survey.settings.workers
  open_ : pool.ended = none
  split : files = front ++ (pool.tasks.map Task.path ++ pool.queue)
  passes : survey.Passes event front
  finds : List.Forall₂ survey.Finds (survey.readable front) findings
  gathered : pool.gathered = ({} : Gathered).extend survey.settings findings false
  signalled : survey.Signalled event files pool.state.event
  tasks : ∀ task ∈ pool.tasks, survey.TaskSound event pool.state.event task

/-- A pool whose gathering goes on, or has ended as it may. -/
def PoolSound (survey : Survey) (event : CancelEvent) (files : List Path) (pool : Pool) : Prop :=
  (∃ ending, pool.ended = some ending ∧ survey.GatherOutcome event files ending) ∨
    ∃ front findings, survey.Running event files front findings pool

section

variable {front : List Path} {findings : List FileFindings} {pool : Pool}

theorem ended_startTask (survey : Survey) (pool : Pool) : (survey.startTask pool).ended = pool.ended := by
  unfold startTask
  split
  · rfl
  · split <;> rfl

theorem ended_advanceAt (survey : Survey) (place : Nat) (pool : Pool) :
    (survey.advanceAt place pool).ended = pool.ended := by
  unfold advanceAt
  split <;> rfl

/-- A file that moves from the queue to the tasks changes nothing about what is merged. -/
theorem Running.startTask (running : survey.Running event files front findings pool) :
    survey.Running event files front findings (survey.startTask pool) := by
  unfold Survey.startTask
  split
  · exact running
  · rename_i path queue waiting
    split
    · refine { running with split := ?_, tasks := ?_ }
      · rw [running.split, waiting]
        simp [beginTask]
      · intro task inside
        rcases List.mem_append.1 inside with old | new
        · exact running.tasks task old
        · rw [List.mem_singleton.1 new]
          exact beginTask_sound running.signalled
    · exact running

theorem Running.mem_files {task : Task} (running : survey.Running event files front findings pool)
    (inside : task ∈ pool.tasks) : task.path ∈ files := by
  rw [running.split]
  exact List.mem_append_right _ (List.mem_append_left _ (List.mem_map_of_mem inside))

theorem Running.advanceAt (readable : ∀ path ∈ files, ∃ source, survey.workspace.readSource path = .ok source)
    (running : survey.Running event files front findings pool) (place : Nat) :
    survey.Running event files front findings (survey.advanceAt place pool) := by
  unfold Survey.advanceAt
  split
  · exact running
  · rename_i task found
    have inside := List.mem_of_getElem? found
    obtain ⟨source, read⟩ := readable task.path (running.mem_files inside)
    obtain ⟨signalled, stays, path, sound⟩ :=
      advanceTask_sound (running.mem_files inside) read running.signalled (running.tasks task inside)
    refine { running with split := ?_, signalled := signalled, tasks := ?_ }
    · have same : (pool.tasks.set place (survey.advanceTask task pool.state).2).map Task.path =
          pool.tasks.map Task.path := by
        obtain ⟨bound, rfl⟩ := List.getElem?_eq_some_iff.1 found
        rw [List.map_set, path, ← List.getElem_map Task.path, List.set_getElem_self]
        rwa [List.length_map]
      rw [running.split]
      exact congrArg (fun paths => front ++ (paths ++ pool.queue)) same.symm
    · intro other listed
      rcases List.mem_or_eq_of_mem_set listed with old | rfl
      · exact (running.tasks other old).later stays
      · exact sound

/-- Before a file that is cancelled, the front is what was merged. -/
private theorem Running.cancel {rest : List Path} (running : survey.Running event files front findings pool)
    (others : pool.tasks.map Task.path ++ pool.queue = rest) (left : rest ≠ [])
    (cancelled : pool.state.event = .set) :
    survey.GatherOutcome event files (.ok { pool.gathered with cancelled := true }) := by
  have split : files = front ++ rest := others ▸ running.split
  obtain ⟨path, inside⟩ := List.exists_mem_of_ne_nil rest left
  have stops := running.signalled.isSome_stop cancelled (split ▸ List.mem_append_right front inside)
  have first : front <+: survey.passed event files := by
    rw [split, passed_append running.passes]
    exact List.prefix_append _ _
  have whole : survey.stop event files = none → front = files := by
    intro goes
    rw [goes] at stops
    cases stops
  have alone : survey.settings.workers ≤ 1 → front = survey.passed event files :=
    fun few => absurd few (Nat.not_le.2 running.several)
  have outcome : survey.GatherOutcome event files _ := .reported first whole alone running.finds
  rw [running.gathered, Gathered.cancel_extend]
  rwa [stops] at outcome

/-- After the last file, everything was merged. -/
private theorem Running.finish (running : survey.Running event files front findings pool)
    (none : pool.tasks.map Task.path ++ pool.queue = []) :
    survey.GatherOutcome event files (.ok pool.gathered) := by
  obtain rfl : files = front := by rw [running.split, none, List.append_nil]
  have goes := stop_eq_none running.passes
  have all : files = survey.passed event files := (passed_of_stop_eq_none goes).symm
  have outcome : survey.GatherOutcome event files _ :=
    .reported (all ▸ List.prefix_refl files) (fun _ => rfl) (fun _ => all) running.finds
  rw [running.gathered]
  rwa [goes] at outcome

/-- A result that neither fails nor is cancelled goes to what was gathered. -/
private theorem Running.merge {path : Path} {result : FileResult} {tasks : List Task}
    {found : Option (FileFindings × FileSummary)} (running : survey.Running event files front findings pool)
    (first : pool.tasks = ⟨path, .done result⟩ :: tasks) (taken : result = .ok found)
    (active : pool.state.event ≠ .set) : ∃ front findings,
      survey.Running event files front findings { pool with tasks, gathered := pool.gathered.add found } := by
  have sound := running.tasks _ (first ▸ List.mem_cons_self)
  have split : files = (front ++ [path]) ++ (tasks.map Task.path ++ pool.queue) := by
    rw [running.split, first]
    simp
  have tasks_sound : ∀ task ∈ tasks, survey.TaskSound event pool.state.event task := fun task inside =>
    running.tasks task (first ▸ List.mem_cons_of_mem _ inside)
  cases sound with
  | left cancelled => exact absurd cancelled active
  | done initially outcome seen =>
    have goes : ¬ survey.stopsAt event path := fun stops => active (seen stops)
    have passes : survey.fatalAt path = none → survey.Passes event (front ++ [path]) := by
      intro harmless other inside
      rcases List.mem_append.1 inside with old | new
      · exact running.passes other old
      · rw [List.mem_singleton.1 new]
        exact ⟨goes, harmless⟩
    cases outcome with
    | failed fatal => cases taken
    | refused read scanned => cases taken
    | skipped harmless failure =>
      cases taken
      have same : survey.readable (front ++ [path]) = survey.readable front := by
        simp [Survey.readable, Option.isNone_iff_eq_none, failure]
      exact ⟨front ++ [path], findings, { running with
        split, passes := passes harmless, finds := same ▸ running.finds, tasks := tasks_sound }⟩
    | @found more readable finds =>
      cases taken
      have one : survey.readable (front ++ [path]) = survey.readable front ++ [path] := by
        simp [Survey.readable, readable]
      refine ⟨front ++ [path], findings ++ [more], { running with
        split, passes := passes (fatalAt_of_readable readable), finds := ?_, gathered := ?_, tasks := tasks_sound }⟩
      · rw [one]
        exact List.rel_append running.finds (.cons finds .nil)
      · rw [running.gathered, Gathered.add_some, Gathered.extend_extend]

/-- Collecting the first result merges the next file of the list, or ends the gathering as it may end. -/
theorem Running.collectResult (running : survey.Running event files front findings pool) :
    survey.PoolSound event files (collectResult pool) := by
  have open_ := running.open_
  unfold Survey.collectResult
  split
  · rename_i ending ended
    rw [ended] at open_
    cases open_
  · rename_i none empty
    split
    · rename_i last
      refine .inl ⟨_, rfl, running.finish ?_⟩
      rw [empty, List.isEmpty_iff.1 last]
      rfl
    · exact .inr ⟨front, findings, running⟩
  · rename_i task tasks none first
    obtain ⟨path, stage⟩ := task
    cases stage with
    | begun => exact .inr ⟨front, findings, running⟩
    | parsed tree => exact .inr ⟨front, findings, running⟩
    | done result =>
      have others : pool.tasks.map Task.path ++ pool.queue = path :: (tasks.map Task.path ++ pool.queue) := by
        rw [first]
        rfl
      have inside : path ∈ files := by
        rw [running.split, others]
        simp
      cases result with
      | ok found =>
        dsimp only
        by_cases cancelled : pool.state.event = .set
        · rw [Gathered.take_of_set cancelled]
          exact .inl ⟨_, rfl, running.cancel others nofun cancelled⟩
        · rw [Gathered.take_of_active cancelled]
          exact .inr (running.merge first rfl cancelled)
      | error error =>
        have sound := running.tasks _ (first ▸ List.mem_cons_self)
        refine .inl ⟨_, rfl, ?_⟩
        cases sound with
        | done active outcome seen =>
          cases outcome with
          | refused read scanned => exact .refused inside read scanned
          | failed fatal =>
            refine .failed ?_
            rw [running.split, others, firstFailure_append active running.passes]
            exact firstFailure_of_fatal _ active fatal

theorem ended_move {ending : Except SurveyError Gathered} (ended : pool.ended = some ending) (m : Move) :
    (survey.move pool m).ended = some ending := by
  cases m with
  | start => exact (ended_startTask survey pool).trans ended
  | advance place => exact (ended_advanceAt survey place pool).trans ended
  | collect => simp [move, Survey.collectResult, ended]
  | close => simp [move, ended]

/-- Each move keeps a pool sound. -/
theorem move_sound (readable : ∀ path ∈ files, ∃ source, survey.workspace.readSource path = .ok source)
    (sound : survey.PoolSound event files pool) (m : Move) : survey.PoolSound event files (survey.move pool m) := by
  rcases sound with ⟨ending, ended, outcome⟩ | ⟨front, findings, running⟩
  · exact .inl ⟨ending, ended_move ended m, outcome⟩
  · cases m with
    | start => exact .inr ⟨front, findings, running.startTask⟩
    | advance place => exact .inr ⟨front, findings, running.advanceAt readable place⟩
    | collect => exact running.collectResult
    | close =>
      refine .inr ⟨front, findings, ?_⟩
      simpa [move, running.open_] using running

/-- A pool stays sound along any moves. -/
theorem play_sound (readable : ∀ path ∈ files, ∃ source, survey.workspace.readSource path = .ok source)
    (sound : survey.PoolSound event files pool) (moves : List Move) :
    survey.PoolSound event files (survey.play pool moves) := by
  induction moves generalizing pool with
  | nil => exact sound
  | cons m moves ih => exact ih (move_sound readable sound m)

theorem ended_play {ending : Except SurveyError Gathered} (ended : pool.ended = some ending) (moves : List Move) :
    (survey.play pool moves).ended = some ending := by
  induction moves generalizing pool with
  | nil => exact ended
  | cons m moves ih => exact ih (ended_move ended m)

/-! ### The end of the gathering -/

def remaining (pool : Pool) : Nat := pool.tasks.length + pool.queue.length

theorem Running.remaining_le (running : survey.Running event files front findings pool) :
    remaining pool ≤ files.length := by
  rw [running.split, List.length_append, List.length_append, List.length_map, remaining]
  omega

private theorem isDone_advanceTask_twice (task : Task) (state next : RunState) :
    (survey.advanceTask (survey.advanceTask task state).2 next).2.isDone := by
  obtain ⟨path, stage⟩ := task
  cases stage with
  | done result => rfl
  | parsed tree => rfl
  | begun =>
    simp only [advanceTask]
    generalize survey.parseFile path state = parsed
    obtain ⟨state, result⟩ := parsed
    cases result with
    | ok tree => rfl
    | error result => rfl

private theorem tasks_advanceAt_zero {task : Task} {tasks : List Task} (first : pool.tasks = task :: tasks) :
    (survey.advanceAt 0 pool).tasks = (survey.advanceTask task pool.state).2 :: tasks := by
  simp [Survey.advanceAt, first]

private theorem remaining_advanceAt (survey : Survey) (place : Nat) (pool : Pool) :
    remaining (survey.advanceAt place pool) = remaining pool := by
  unfold Survey.advanceAt
  split
  · rfl
  · simp only [remaining, List.length_set]

private theorem remaining_startTask (survey : Survey) (pool : Pool) :
    remaining (survey.startTask pool) = remaining pool := by
  unfold Survey.startTask
  split
  · rfl
  · rename_i path queue waiting
    split
    · simp only [remaining, waiting, List.length_append, List.length_cons, List.length_nil]
      omega
    · rfl

/-- A pool without tasks has a free worker. -/
private theorem tasks_startTask_ne_nil (workers : 0 < survey.settings.workers) (left : remaining pool ≠ 0) :
    (survey.startTask pool).tasks ≠ [] := by
  unfold Survey.startTask
  split
  · rename_i none
    intro empty
    rw [remaining, none, empty] at left
    exact left rfl
  · split
    · simp
    · rename_i busy
      intro empty
      rw [empty] at busy
      exact busy workers

private theorem remaining_collectResult {task : Task} {tasks : List Task} (open_ : pool.ended = none)
    (first : pool.tasks = task :: tasks) (done : task.isDone) :
    (Survey.collectResult pool).ended.isSome ∨ remaining (Survey.collectResult pool) + 1 = remaining pool := by
  obtain ⟨path, stage⟩ := task
  cases stage with
  | begun => cases done
  | parsed tree => cases done
  | done result =>
    simp only [Survey.collectResult, open_, first]
    generalize pool.gathered.take result pool.state = taken
    obtain ⟨state, gathered | ending⟩ := taken
    · exact .inl rfl
    · refine .inr ?_
      simp only [remaining, first, List.length_cons]
      omega

private theorem isSome_ended_collectResult (none : remaining pool = 0) :
    (Survey.collectResult pool).ended.isSome := by
  obtain ⟨noTasks, noQueue⟩ := Nat.add_eq_zero_iff.1 none
  rw [List.length_eq_zero_iff] at noTasks noQueue
  cases ended : pool.ended with
  | some ending => simp [Survey.collectResult, ended]
  | none => simp [Survey.collectResult, ended, noTasks, noQueue]

private theorem isSome_ended_play (ended : pool.ended.isSome) (moves : List Move) :
    (survey.play pool moves).ended.isSome := by
  obtain ⟨ending, known⟩ := Option.isSome_iff_exists.1 ended
  rw [ended_play known]
  rfl

private theorem play_append (survey : Survey) (pool : Pool) (moves more : List Move) :
    survey.play pool (moves ++ more) = survey.play (survey.play pool moves) more := List.foldl_append

/-- A round collects one file or ends the gathering. -/
private theorem play_round (workers : 0 < survey.settings.workers) (open_ : pool.ended = none) :
    (survey.play pool round).ended.isSome ∨ remaining (survey.play pool round) + 1 = remaining pool := by
  let begun := survey.startTask pool
  let parsed := survey.advanceAt 0 begun
  let done := survey.advanceAt 0 parsed
  have same : remaining done = remaining pool := by
    rw [remaining_advanceAt, remaining_advanceAt, remaining_startTask]
  have running : done.ended = none := by
    rw [ended_advanceAt, ended_advanceAt, ended_startTask, open_]
  have collected : (Survey.collectResult done).ended.isSome ∨
      remaining (Survey.collectResult done) + 1 = remaining done := by
    by_cases left : remaining pool = 0
    · exact .inl (isSome_ended_collectResult (same.trans left))
    · obtain ⟨task, tasks, first⟩ := List.exists_cons_of_ne_nil (tasks_startTask_ne_nil workers left)
      have second : parsed.tasks = _ := tasks_advanceAt_zero first
      have third : done.tasks = _ := tasks_advanceAt_zero second
      exact remaining_collectResult running third (isDone_advanceTask_twice task _ _)
  have closes : survey.play pool round = survey.move (Survey.collectResult done) .close := rfl
  rw [closes, ← same]
  by_cases ended : (Survey.collectResult done).ended.isSome
  · refine .inl ?_
    simp [move, ended]
  · refine .inr ?_
    simpa [move, ended] using collected

/-- As many rounds as there are files left end the gathering, or there is no file left. -/
private theorem play_rounds (workers : 0 < survey.settings.workers) {count : Nat} (few : remaining pool ≤ count) :
    (survey.play pool (List.replicate count round).flatten).ended.isSome ∨
      remaining (survey.play pool (List.replicate count round).flatten) = 0 := by
  induction count generalizing pool with
  | zero => exact .inr (Nat.le_zero.1 few)
  | succ count ih =>
    rw [List.replicate_succ, List.flatten_cons, play_append]
    by_cases ended : pool.ended.isSome
    · exact .inl (isSome_ended_play (isSome_ended_play ended _) _)
    · rcases play_round workers (Option.not_isSome_iff_eq_none.1 ended) with stopped | fewer
      · exact .inl (isSome_ended_play stopped _)
      · exact ih (by omega)

/-- Whatever a pool has done, the conclusion brings its gathering to an end. -/
theorem ended_conclusion (workers : 0 < survey.settings.workers) {count : Nat} (few : remaining pool ≤ count) :
    (survey.play pool (conclusion count)).ended.isSome := by
  have rounds := play_rounds workers few
  rw [conclusion, play_append, play_append]
  generalize survey.play pool (List.replicate count round).flatten = last at rounds ⊢
  refine isSome_ended_play ?_ _
  rcases rounds with ended | none
  · exact isSome_ended_play ended _
  · exact isSome_ended_play (isSome_ended_collectResult none) [.close]

end

/-! ### Runs -/

/-- The moves of the schedule may bring the gathering to its end or leave it open; the conclusion ends it. -/
theorem gatherPooled_outcome (several : 1 < survey.settings.workers)
    (readable : ∀ path ∈ files, ∃ source, survey.workspace.readSource path = .ok source) (state : RunState) :
    survey.GatherOutcome state.event files (survey.gatherPooled files state).2 := by
  have running : survey.Running state.event files [] [] { queue := files, state } :=
    { several, open_ := rfl, split := rfl, passes := nofun, finds := .nil, gathered := (Gathered.extend_nil {} _).symm
      signalled := .inl rfl, tasks := nofun }
  have started := play_sound readable (.inr ⟨[], [], running⟩) survey.schedule
  have sound := play_sound readable started (conclusion files.length)
  have ended : (survey.play (survey.play { queue := files, state } survey.schedule)
      (conclusion files.length)).ended.isSome := by
    rcases started with ⟨ending, known, -⟩ | ⟨front, findings, open_⟩
    · exact isSome_ended_play (by rw [known]; rfl) _
    · exact ended_conclusion (Nat.lt_of_succ_lt several) open_.remaining_le
  rw [gatherPooled, play_append]
  rcases sound with ⟨ending, known, outcome⟩ | ⟨front, findings, open_⟩
  · rw [known]
    exact outcome
  · rw [open_.open_] at ended
    cases ended

/-- Whatever the number of workers is and whatever they do first, a gathering of readable files ends as it may. -/
theorem gatherAll_outcome (readable : ∀ path ∈ files, ∃ source, survey.workspace.readSource path = .ok source)
    (state : RunState) : survey.GatherOutcome state.event files (survey.gatherAll files state).2 := by
  unfold gatherAll
  split
  · exact (gather_outcome readable {} state).gatherOutcome
  · rename_i several
    exact gatherPooled_outcome (Nat.not_le.1 several) readable state

/-- The sample with two workers. The schedule brings the second worker to the fourth file, which cancels the run, before
the first file is surveyed. -/
def hastySample : Survey :=
  { sample with
    settings := { sample.settings with workers := 2 }
    schedule := [.start, .start, .advance 1, .start, .advance 2, .advance 2, .start, .advance 3] }

example : (hastySample.gatherAll sampleFiles { event := .clear }).2.toOption.map
    (fun gathered => (gathered.files.length, gathered.cancelled)) = some (0, true) := by decide +kernel

example : (({ hastySample with schedule := [] } : Survey).gatherAll sampleFiles { event := .clear }).2.toOption.map
    (fun gathered => (gathered.files.length, gathered.cancelled)) = some (2, true) := by decide +kernel

section Runs

variable (collected : survey.workspace.collect survey.root survey.settings.fileExtension
  survey.settings.excludedDirectories = .ok files)
include collected

/-- How a whole run ends, once its files are collected. -/
private theorem run_outcome (state : RunState) : ∃ result, survey.GatherOutcome state.event files result ∧
    (survey.run state).2 = result.map survey.report := by
  obtain ⟨start, event, ends⟩ := run_eq_gatherAll collected state
  have outcome := gatherAll_outcome (fun _ inside => Workspace.exists_readSource_of_collect collected inside) start
  rw [event] at outcome
  exact ⟨_, outcome, ends⟩

/-- A report that a run returns is of the first of the files that one worker passes, and of all of them where nothing
stops the run or where there is one worker. -/
theorem reports_of_run {state : RunState} {report : SurveyReport} (returned : (survey.run state).2 = .ok report) :
    ∃ merged findings, merged <+: survey.passed state.event files ∧
      (survey.stop state.event files = none → merged = files) ∧
      (survey.settings.workers ≤ 1 → merged = survey.passed state.event files) ∧
      List.Forall₂ survey.Finds (survey.readable merged) findings ∧
      survey.Reports findings (survey.stop state.event files).isSome report := by
  obtain ⟨result, outcome, ends⟩ := run_outcome collected state
  rw [returned] at ends
  cases outcome with
  | @reported merged findings first whole alone finds =>
    cases ends
    exact ⟨merged, findings, first, whole, alone, finds, reports_extend findings _⟩
  | failed first => cases ends
  | refused inside read scanned => cases ends

/-- A run has a report, unless a file fails that it may not skip, if no node starts before its source. -/
theorem run_of_placed (placed : ∀ path ∈ files, ∀ source, survey.workspace.readSource path = .ok source →
      (survey.grammar path source).tree.Placed) (state : RunState) :
    (∃ error, survey.firstFailure state.event files = some error ∧ (survey.run state).2 = .error (.file error)) ∨
      ∃ report, (survey.run state).2 = .ok report := by
  obtain ⟨result, outcome, ends⟩ := run_outcome collected state
  cases outcome with
  | reported first whole alone finds => exact .inr ⟨_, ends⟩
  | failed first => exact .inl ⟨_, first, ends⟩
  | refused inside read scanned => exact absurd scanned (not_refused (placed _ inside _ read))

end Runs
end Survey
end SqlSurvey
