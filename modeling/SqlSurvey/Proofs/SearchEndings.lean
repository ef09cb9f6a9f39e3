import SqlSurvey.Proofs.CodePointOrder
import SqlSurvey.SourceFiles

/-! # How a search for files ends

A look-up fails because nothing is there or because a name is too long, and only the second is a failure for those
who ask whether a path leads somewhere. So the search below a directory stops at a candidate that leads to a name
that is too long, or it finds files, all of which can be read. -/
namespace SqlSurvey

namespace Workspace

/-- Whether a test that can fail says yes. -/
def accepts {α ε : Type} (p : α → Except ε Bool) (item : α) : Bool := (p item).toOption.getD false

theorem accepts_iff {α ε : Type} {p : α → Except ε Bool} {item : α} : accepts p item = true ↔ p item = .ok true := by
  rw [accepts]
  cases p item with
  | error error => simp [Except.toOption]
  | ok answer => simp [Except.toOption]

private theorem filterAuxM_ends {α ε : Type} (p : α → Except ε Bool) (items kept : List α) :
    (∃ item ∈ items, ∃ error, p item = .error error ∧ items.filterAuxM p kept = .error error) ∨
      (∀ item ∈ items, ∃ answer, p item = .ok answer) ∧
        items.filterAuxM p kept = .ok ((items.filter (accepts p)).reverse ++ kept) := by
  induction items generalizing kept with
  | nil => exact .inr ⟨by simp, rfl⟩
  | cons first items ih =>
    rw [List.filterAuxM]
    cases tested : p first with
    | error error => exact .inl ⟨first, List.mem_cons_self, error, tested, rfl⟩
    | ok answer =>
      rcases ih (cond answer (first :: kept) kept) with ⟨item, inside, error, fails, ends⟩ | ⟨answers, ends⟩
      · exact .inl ⟨item, List.mem_cons_of_mem first inside, error, fails, ends⟩
      · refine .inr ⟨List.forall_mem_cons.2 ⟨⟨answer, tested⟩, answers⟩, ends.trans ?_⟩
        have accepted : accepts p first = answer := by
          rw [accepts, tested]
          rfl
        rw [List.filter_cons, accepted]
        cases answer <;> simp

/-- A test that can fail fails at one of the items, or it answers for all of them. -/
theorem filterM_ends {α ε : Type} (p : α → Except ε Bool) (items : List α) :
    (∃ item ∈ items, ∃ error, p item = .error error ∧ items.filterM p = .error error) ∨
      (∀ item ∈ items, ∃ answer, p item = .ok answer) ∧ items.filterM p = .ok (items.filter (accepts p)) := by
  rw [List.filterM]
  rcases filterAuxM_ends p items [] with ⟨item, inside, error, fails, ends⟩ | ⟨answers, ends⟩
  · rw [ends]
    exact .inl ⟨item, inside, error, fails, rfl⟩
  · rw [ends, List.append_nil]
    exact .inr ⟨answers, congrArg Except.ok (List.reverse_reverse _)⟩

variable {workspace : Workspace} {path root : Path} {extension : Text} {excluded : TextSet}

/-- Looking for an entry fails only because nothing is there or because a name is too long. -/
private theorem followSteps_cause {purpose : Purpose} (reads : purpose ≠ .write)
    {jump : List Text → List Text → Except FileCause Found} {cause : FileCause}
    (jumps : ∀ directory steps, jump directory steps = .error cause → cause.saysAbsent ∨ cause = .nameTooLong)
    {directory steps : List Text} (failed : workspace.followSteps purpose jump directory steps = .error cause) :
    cause.saysAbsent ∨ cause = .nameTooLong := by
  fun_induction followSteps workspace purpose jump directory steps
  case case1 | case7 | case10 | case12 => cases failed
  case case2 | case8 | case11 =>
    cases failed
    exact .inl rfl
  case case3 ih | case4 ih | case9 ih => exact ih failed
  case case5 writes => exact absurd writes.1 reads
  case case6 =>
    cases failed
    exact .inr rfl
  case case13 => exact jumps _ _ failed

private theorem follow_cause {purpose : Purpose} (reads : purpose ≠ .write) {links : Nat}
    {directory steps : List Text} {cause : FileCause}
    (failed : workspace.follow purpose links directory steps = .error cause) :
    cause.saysAbsent ∨ cause = .nameTooLong := by
  induction links generalizing directory steps with
  | zero =>
    refine followSteps_cause reads (fun _ _ ends => ?_) failed
    cases ends
    exact .inl rfl
  | succ links ih => exact followSteps_cause reads (fun _ _ => ih) failed

private theorem find_reach_cause {error : FileError} (failed : workspace.find .reach path = .error error) :
    (∃ fault, error = .name fault) ∨
      ∃ cause : FileCause, error = .system cause path.toText ∧ (cause.saysAbsent ∨ cause = .nameTooLong) := by
  unfold find at failed
  split at failed
  · rename_i fault unusable
    cases failed
    exact .inl ⟨fault, rfl⟩
  · split at failed
    · cases failed
      exact .inr ⟨_, rfl, .inr rfl⟩
    · dsimp only at failed
      split at failed
      · cases failed
      · rename_i cause followed
        cases failed
        exact .inr ⟨cause, rfl, follow_cause (by decide) followed⟩

private theorem entryAt_cause {error : FileError} (failed : workspace.entryAt path = .error error) :
    (∃ fault, error = .name fault) ∨
      ∃ cause : FileCause, error = .system cause path.toText ∧ (cause.saysAbsent ∨ cause = .nameTooLong) := by
  unfold entryAt at failed
  cases found : workspace.find .reach path with
  | error reason =>
    rw [found] at failed
    cases failed
    exact find_reach_cause found
  | ok place =>
    rw [found] at failed
    cases place with
    | entry location entry => cases failed
    | absent directory name =>
      cases failed
      exact .inr ⟨.notFound, rfl, .inl rfl⟩

/-- Whether something is at a path stays unknown only where a name is too long. -/
theorem entryAt?_eq_error {error : FileError} (failed : workspace.entryAt? path = .error error) :
    error = .system .nameTooLong path.toText := by
  unfold entryAt? at failed
  cases found : workspace.entryAt path with
  | ok entry =>
    rw [found] at failed
    cases failed
  | error reason =>
    rw [found] at failed
    rcases entryAt_cause found with ⟨fault, rfl⟩ | ⟨cause, rfl, absent | rfl⟩
    · cases failed
    · simp [absent] at failed
    · cases failed
      rfl

theorem isFile_eq_error {error : FileError} (failed : workspace.isFile path = .error error) :
    error = .system .nameTooLong path.toText := by
  unfold isFile at failed
  cases found : workspace.entryAt? path with
  | ok entry =>
    rw [found] at failed
    cases failed
  | error reason =>
    rw [found] at failed
    cases failed
    exact entryAt?_eq_error found

/-- The candidates are asked one after the other, and those that are files are sorted. -/
theorem collect_ends_of_directory (extension : Text) (excluded : TextSet) {entries : List (Text × Entry)}
    (found : workspace.entryAt? root = .ok (some (.directory entries))) :
    (∃ path ∈ workspace.candidates root extension excluded entries,
      workspace.isFile path = .error (.system .nameTooLong path.toText) ∧
      workspace.collect root extension excluded = .error (.file (.system .nameTooLong path.toText))) ∨
    (∀ path ∈ workspace.candidates root extension excluded entries, ∃ answer, workspace.isFile path = .ok answer) ∧
      workspace.collect root extension excluded =
        .ok (((workspace.candidates root extension excluded entries).filter
          (accepts workspace.isFile)).mergeSort Path.le) := by
  have collected : workspace.collect root extension excluded =
      (((workspace.candidates root extension excluded entries).filterM workspace.isFile).mapError .file).map
        (·.mergeSort Path.le) := by
    rw [collect, found]
    rfl
  rw [collected]
  rcases filterM_ends workspace.isFile (workspace.candidates root extension excluded entries) with
    ⟨path, inside, error, fails, ends⟩ | ⟨answers, ends⟩
  · obtain rfl := isFile_eq_error fails
    rw [ends]
    exact .inl ⟨path, inside, fails, rfl⟩
  · rw [ends]
    exact .inr ⟨answers, rfl⟩

/-- A search whose files are known up to order gives them sorted; the sort need not be evaluated. -/
theorem collect_of_files {entries : List (Text × Entry)} {files : List Path}
    (found : workspace.entryAt? root = .ok (some (.directory entries)))
    (kept : (workspace.candidates root extension excluded entries).filterM workspace.isFile = .ok files)
    {sorted : List Path} (perm : files.Perm sorted) (rooted : ∀ path ∈ files, path.root = root.root)
    (ordered : sorted.Pairwise fun first second => Path.NamesBefore first.parts second.parts) :
    workspace.collect root extension excluded = .ok sorted := by
  have distinct : files.Nodup := perm.nodup_iff.2 (Path.nodup_of_pairwise ordered)
  have same : files.mergeSort Path.le = sorted :=
    eq_of_pairwise_strict ((List.mergeSort_perm _ _).trans perm) (Path.pairwise_mergeSort_le rooted distinct) ordered
      fun _ _ => Path.NamesBefore.asymm
  rw [collect, found, ← same]
  dsimp only
  rw [kept]
  rfl

private theorem isFile_of_collect {files : List Path}
    (collected : workspace.collect root extension excluded = .ok files) (inside : path ∈ files) :
    workspace.isFile path = .ok true := by
  cases found : workspace.entryAt? root with
  | error error =>
    rw [collect, found] at collected
    cases collected
  | ok place =>
    rcases place with _ | ⟨contents⟩ | ⟨target⟩ | ⟨entries⟩
    case some.directory =>
      rcases collect_ends_of_directory extension excluded found with
        ⟨other, candidate, fails, ends⟩ | ⟨answers, ends⟩
      · rw [ends] at collected
        cases collected
      · rw [ends] at collected
        cases collected
        exact accepts_iff.1 (List.mem_filter.1 (List.mem_mergeSort.1 inside)).2
    all_goals
      rw [collect, found] at collected
      cases collected

private theorem entryAt_of_isFile (h : workspace.isFile path = .ok true) :
    ∃ contents, workspace.entryAt path = .ok (.file contents) := by
  unfold isFile entryAt? at h
  cases found : workspace.entryAt path with
  | ok entry =>
    rw [found] at h
    cases entry with
    | file contents => exact ⟨contents, rfl⟩
    | link target => cases h
    | directory entries => cases h
  | error error =>
    rw [found] at h
    cases error with
    | name fault => cases h
    | other message => cases h
    | system cause place =>
      by_cases absent : cause.saysAbsent
      · simp [absent, Except.map] at h
      · simp [absent, Except.map] at h

/-- Collected files can be read. -/
theorem exists_readSource_of_collect {files : List Path}
    (collected : workspace.collect root extension excluded = .ok files) (inside : path ∈ files) :
    ∃ source, workspace.readSource path = .ok source := by
  obtain ⟨contents, found⟩ := entryAt_of_isFile (isFile_of_collect collected inside)
  refine ⟨unmarked contents, ?_⟩
  rw [readSource, read, found]
  rfl

end Workspace
end SqlSurvey
