import SqlSurvey.FileTrees

/-! # What a change leaves alone

A look-up asks of each location only what stands there. Putting a file or an empty directory where no directory stands
changes what stands at that location and nowhere else, so the look-up that led there leads there again. -/
namespace SqlSurvey

/-- What stands at a location, whatever a directory there lists. -/
inductive Occupant where
  | nothing
  | directory
  | file (contents : Bytes)
  | link (target : Text)
deriving DecidableEq

namespace Entry

def occupant : Option Entry → Occupant
  | none => .nothing
  | some (.directory _) => .directory
  | some (.file contents) => .file contents
  | some (.link target) => .link target

theorem at?_append (names more : List Text) (entry : Entry) :
    at? (names ++ more) entry = (at? names entry).bind (at? more) := by
  induction names generalizing entry with
  | nil => rfl
  | cons name names ih =>
    rw [List.cons_append, at?, at?]
    cases entry.child? name with
    | none => rfl
    | some below => exact ih below

theorem at?_concat (names : List Text) (name : Text) (entry : Entry) :
    at? (names ++ [name]) entry = (at? names entry).bind (child? name) := by
  rw [at?_append]
  congr
  funext below
  rw [at?]
  cases below.child? name with
  | none => rfl
  | some entry => rfl

private theorem lookup_putIn_self (name : Text) (entry : Entry) (entries : List (Text × Entry)) :
    (putIn name entry entries).lookup name = some entry := by
  induction entries with
  | nil => simp [putIn]
  | cons first entries ih =>
    obtain ⟨other, old⟩ := first
    by_cases same : other = name
    · simp [putIn, same]
    · have distinct : (name == other) = false := beq_false_of_ne (Ne.symm same)
      simp [putIn, same, List.lookup_cons, distinct, ih]

private theorem lookup_putIn_of_ne {name other : Text} (distinct : other ≠ name) (entry : Entry)
    (entries : List (Text × Entry)) : (putIn name entry entries).lookup other = entries.lookup other := by
  have differs : (other == name) = false := beq_false_of_ne distinct
  induction entries with
  | nil => simp [putIn, List.lookup_cons, differs]
  | cons first entries ih =>
    obtain ⟨listed, old⟩ := first
    by_cases same : listed = name
    · simp [putIn, same, List.lookup_cons, differs]
    · simp [putIn, same, List.lookup_cons, ih]

/-- A change behind a name of a directory is a change of the entry that is listed under it. -/
private theorem put_directory (entry : Entry) (name : Text) (names : List Text) (entries : List (Text × Entry)) :
    ∃ listing, put entry (name :: names) (.directory entries) = .directory listing ∧
      listing.lookup name = (if names = [] then some entry else (entries.lookup name).map (put entry names)) ∧
      ∀ other ≠ name, listing.lookup other = entries.lookup other := by
  cases names with
  | nil => exact ⟨_, rfl, lookup_putIn_self name entry entries, fun _ distinct => lookup_putIn_of_ne distinct entry _⟩
  | cons second names =>
    cases listed : entries.lookup name with
    | none => exact ⟨entries, by simp [put, listed], by simp [listed], fun _ _ => rfl⟩
    | some below =>
      refine ⟨putIn name (put entry (second :: names) below) entries, by simp [put, listed], ?_, ?_⟩
      · simp [lookup_putIn_self]
      · intro other distinct
        exact lookup_putIn_of_ne distinct _ entries

theorem at?_cons_directory (name : Text) (names : List Text) (entries : List (Text × Entry)) :
    at? (name :: names) (.directory entries) = (entries.lookup name).bind (at? names) := rfl

/-- Only what lies at or below the location of a change can see it. -/
theorem occupant_put_of_apart {location other : List Text} (apart : ¬ location <+: other) (entry top : Entry) :
    occupant ((put entry location top).at? other) = occupant (top.at? other) := by
  induction location generalizing other top with
  | nil => exact absurd List.nil_prefix apart
  | cons name names ih =>
    cases top with
    | file contents => rfl
    | link target => rfl
    | directory entries =>
      obtain ⟨listing, changed, here, elsewhere⟩ := put_directory entry name names entries
      rw [changed]
      cases other with
      | nil => rfl
      | cons step others =>
        rw [at?_cons_directory, at?_cons_directory]
        by_cases same : step = name
        · subst same
          have deeper : ¬ names <+: others := fun inside => apart (List.cons_prefix_cons.2 ⟨rfl, inside⟩)
          have more : names ≠ [] := by
            rintro rfl
            exact deeper List.nil_prefix
          rw [if_neg more] at here
          rw [here]
          cases entries.lookup step with
          | none => rfl
          | some below => exact ih deeper below
        · rw [elsewhere step same]

/-- An entry that is put into a directory is found there. -/
theorem at?_put_self {directory : List Text} {top : Entry} {entries : List (Text × Entry)}
    (inside : top.at? directory = some (.directory entries)) (name : Text) (entry : Entry) :
    (put entry (directory ++ [name]) top).at? (directory ++ [name]) = some entry := by
  induction directory generalizing top with
  | nil =>
    cases inside
    obtain ⟨listing, changed, here, -⟩ := put_directory entry name [] entries
    rw [List.nil_append, changed, at?_cons_directory, here]
    rfl
  | cons step directory ih =>
    cases top with
    | file contents => cases inside
    | link target => cases inside
    | directory listed =>
      obtain ⟨below, found, within⟩ := Option.bind_eq_some_iff.1 inside
      obtain ⟨listing, changed, here, -⟩ := put_directory entry step (directory ++ [name]) listed
      rw [if_neg (by simp), show listed.lookup step = some below from found] at here
      rw [List.cons_append, changed, at?_cons_directory, here]
      exact ih within

end Entry

/-- Where a look-up ends, or where an entry would be made. -/
def Found.location : Found → List Text
  | entry location _ => location
  | absent directory name => directory ++ [name]

namespace Workspace

variable {workspace : Workspace} {location : List Text}

def occupantAt (workspace : Workspace) (location : List Text) : Occupant := Entry.occupant (workspace.top.at? location)

/-- The location is as it was, or it has become a directory where nothing was. -/
def KeptAt (before after : Workspace) (location : List Text) : Prop :=
  after.occupantAt location = before.occupantAt location ∨
    before.occupantAt location = .nothing ∧ after.occupantAt location = .directory

/-- Every file and every link is as it was, and there are no others. -/
def FilesKept (before after : Workspace) : Prop := ∀ location, before.KeptAt after location

/-- The path leads to a file with the given contents, and every other file and link is as it was. -/
def WritesAt (before after : Workspace) (path : Path) (bytes : Bytes) : Prop :=
  ∃ location, after.find .reach path = .ok (.entry location (.file bytes)) ∧
    ∀ other ≠ location, before.KeptAt after other

theorem FilesKept.refl (workspace : Workspace) : workspace.FilesKept workspace := fun _ => .inl rfl

theorem KeptAt.trans {first second third : Workspace} (h : first.KeptAt second location)
    (k : second.KeptAt third location) : first.KeptAt third location := by
  rcases h with same | ⟨nothing, made⟩
  · rw [KeptAt, ← same]
    exact k
  · rcases k with same | ⟨missing, -⟩
    · exact .inr ⟨nothing, same.trans made⟩
    · rw [made] at missing
      cases missing

theorem FilesKept.trans {first second third : Workspace} (h : first.FilesKept second) (k : second.FilesKept third) :
    first.FilesKept third := fun location => (h location).trans (k location)

theorem FilesKept.writesAt {before between after : Workspace} (kept : before.FilesKept between) {path : Path}
    {bytes : Bytes} (writes : between.WritesAt after path bytes) : before.WritesAt after path bytes := by
  obtain ⟨location, found, others⟩ := writes
  exact ⟨location, found, fun other distinct => (kept other).trans (others other distinct)⟩

theorem exists_entries (h : workspace.occupantAt location = .directory) :
    ∃ entries, workspace.top.at? location = some (.directory entries) := by
  unfold occupantAt at h
  cases found : workspace.top.at? location with
  | none =>
    rw [found] at h
    cases h
  | some entry =>
    rw [found] at h
    cases entry with
    | file contents => cases h
    | link target => cases h
    | directory entries => exact ⟨entries, rfl⟩

/-- What stands behind a name stands in a directory. -/
theorem occupantAt_of_concat {directory : List Text} {name : Text}
    (h : workspace.occupantAt (directory ++ [name]) ≠ .nothing) : workspace.occupantAt directory = .directory := by
  unfold occupantAt at h ⊢
  rw [Entry.at?_concat] at h
  cases found : workspace.top.at? directory with
  | none =>
    rw [found] at h
    exact absurd rfl h
  | some entry =>
    rw [found] at h
    cases entry with
    | file contents => exact absurd rfl h
    | link target => exact absurd rfl h
    | directory entries => rfl

theorem occupantAt_dropLast (h : workspace.occupantAt location = .directory) :
    workspace.occupantAt location.dropLast = .directory := by
  rcases List.eq_nil_or_concat location with rfl | ⟨directory, name, rfl⟩
  · exact h
  · rw [List.concat_eq_append] at h ⊢
    rw [List.dropLast_concat]
    exact occupantAt_of_concat (by rw [h]; simp)

private theorem occupantAt_below {entry : Option Entry} (found : workspace.top.at? location = entry)
    (childless : ∀ name, entry.bind (Entry.child? name) = none) (name : Text) (names : List Text) :
    workspace.occupantAt (location ++ name :: names) = .nothing := by
  rw [occupantAt, List.append_cons, Entry.at?_append, Entry.at?_concat, found, childless]
  rfl

/-- A file or an empty directory put where no directory stands changes its own location alone. -/
theorem occupantAt_put {directory : List Text} {name : Text} (inside : workspace.occupantAt directory = .directory)
    (free : workspace.occupantAt (directory ++ [name]) ≠ .directory) {entry : Entry}
    (childless : ∀ step, entry.child? step = none) :
    (workspace.put (directory ++ [name]) entry).occupantAt (directory ++ [name]) = Entry.occupant (some entry) ∧
      ∀ other ≠ directory ++ [name],
        (workspace.put (directory ++ [name]) entry).occupantAt other = workspace.occupantAt other := by
  obtain ⟨entries, listed⟩ := exists_entries inside
  have placed : (workspace.put (directory ++ [name]) entry).top.at? (directory ++ [name]) = some entry :=
    Entry.at?_put_self listed name entry
  refine ⟨congrArg Entry.occupant placed, ?_⟩
  intro other elsewhere
  by_cases below : directory ++ [name] <+: other
  · obtain ⟨rest, rfl⟩ := below
    cases rest with
    | nil => exact absurd (List.append_nil _) elsewhere
    | cons step rest =>
      rw [occupantAt_below placed childless]
      refine (occupantAt_below rfl ?_ step rest).symm
      intro step
      unfold occupantAt at free
      cases found : workspace.top.at? (directory ++ [name]) with
      | none => rfl
      | some old =>
        cases old with
        | file contents => rfl
        | link target => rfl
        | directory entries =>
          rw [found] at free
          exact absurd rfl free
  · exact Entry.occupant_put_of_apart below entry workspace.top

/-- What a look-up that starts in a directory finds: an entry where it says, or a free name in a directory. -/
def Holds (workspace : Workspace) : Found → Prop
  | .entry location entry => workspace.top.at? location = some entry
  | .absent directory name => workspace.occupantAt directory = .directory ∧
      workspace.occupantAt (directory ++ [name]) = .nothing

theorem occupantAt_concat (workspace : Workspace) (directory : List Text) (name : Text) :
    workspace.occupantAt (directory ++ [name]) =
      Entry.occupant ((workspace.top.at? directory).bind (Entry.child? name)) := by
  rw [occupantAt, Entry.at?_concat]

/-- What the steps find is there, provided that what a link leads to is. -/
private theorem holds_of_followSteps {purpose : Purpose} {jump : List Text → List Text → Except FileCause Found}
    {found : Found} (top : workspace.occupantAt [] = .directory)
    (jumps : ∀ directory steps, workspace.occupantAt directory = .directory → jump directory steps = .ok found →
      workspace.Holds found) {directory steps : List Text} (start : workspace.occupantAt directory = .directory)
    (ends : workspace.followSteps purpose jump directory steps = .ok found) : workspace.Holds found := by
  fun_induction followSteps workspace purpose jump directory steps
  case case1 listed =>
    cases ends
    exact listed
  case case2 | case5 | case6 | case8 | case11 => cases ends
  case case3 ih => exact ih start ends
  case case4 ih => exact ih (occupantAt_dropLast start) ends
  case case7 missing _ =>
    cases ends
    exact ⟨start, by rw [occupantAt_concat, missing]; rfl⟩
  case case9 listed ih => exact ih (by rw [occupantAt_concat, listed]; rfl) ends
  case case10 listed _ =>
    cases ends
    exact (Entry.at?_concat _ _ _).trans listed
  case case12 listed _ =>
    cases ends
    exact (Entry.at?_concat _ _ _).trans listed
  case case13 =>
    refine jumps _ _ ?_ ends
    split
    · exact start
    · exact top

theorem holds_of_follow {purpose : Purpose} {links : Nat} {directory steps : List Text} {found : Found}
    (top : workspace.occupantAt [] = .directory) (start : workspace.occupantAt directory = .directory)
    (ends : workspace.follow purpose links directory steps = .ok found) : workspace.Holds found := by
  induction links generalizing directory steps with
  | zero =>
    refine holds_of_followSteps top (fun _ _ _ found => ?_) start ends
    cases found
  | succ links ih => exact holds_of_followSteps top (fun _ _ => ih) start ends

/-- What a look-up finds depends on what stands at each location. -/
theorem followSteps_cons {purpose : Purpose} {jump : List Text → List Text → Except FileCause Found}
    {directory rest : List Text} {name : Text}
    (proper : ¬ (name.isEmpty || name = Path.point)) (down : name ≠ Path.twoPoints)
    (unended : ¬ (purpose = .write ∧ rest = [[]])) (short : ¬ maxNameSize < name.bytesInName) :
    workspace.followSteps purpose jump directory (name :: rest) =
      match workspace.occupantAt (directory ++ [name]) with
      | .nothing => if rest = [] then .ok (.absent directory name) else .error .notFound
      | .directory => workspace.followSteps purpose jump (directory ++ [name]) rest
      | .file contents =>
        if rest = [] then .ok (.entry (directory ++ [name]) (.file contents)) else .error .notDirectory
      | .link target =>
        if rest = [] ∧ purpose = .inspect then .ok (.entry (directory ++ [name]) (.link target))
        else jump (if Path.rootOf target = .here then directory else []) (Path.stepsIn target ++ rest) := by
  rw [followSteps, if_neg proper, if_neg down, if_neg unended, if_neg short, occupantAt_concat]
  cases (workspace.top.at? directory).bind (Entry.child? name) with
  | none => rfl
  | some entry =>
    cases entry with
    | file contents => rfl
    | link target => rfl
    | directory entries => rfl

/-- Where a look-up goes on behind a link. -/
def jump (workspace : Workspace) (purpose : Purpose) : Nat → List Text → List Text → Except FileCause Found
  | 0 => fun _ _ => .error .tooManyLinks
  | links + 1 => workspace.follow purpose links

theorem follow_eq_followSteps (workspace : Workspace) (purpose : Purpose) (links : Nat) :
    workspace.follow purpose links = workspace.followSteps purpose (workspace.jump purpose links) := by
  cases links <;> rfl

theorem at?_of_occupantAt_file {contents : Bytes} (h : workspace.occupantAt location = .file contents) :
    workspace.top.at? location = some (.file contents) := by
  unfold occupantAt at h
  cases found : workspace.top.at? location with
  | none =>
    rw [found] at h
    cases h
  | some entry =>
    rw [found] at h
    cases entry with
    | file other =>
      cases h
      rfl
    | link target => cases h
    | directory entries => cases h

private theorem followSteps_of_written {after : Workspace} {bytes : Bytes}
    (here : after.occupantAt location = .file bytes)
    (elsewhere : ∀ other ≠ location, after.occupantAt other = workspace.occupantAt other)
    (free : workspace.occupantAt location = .nothing ∨ ∃ contents, workspace.occupantAt location = .file contents)
    {jump onward : List Text → List Text → Except FileCause Found} {found : Found} (leads : found.location = location)
    (jumps : ∀ directory steps, jump directory steps = .ok found →
      onward directory steps = .ok (.entry location (.file bytes)))
    {directory steps : List Text} (ends : workspace.followSteps .write jump directory steps = .ok found) :
    after.followSteps .reach onward directory steps = .ok (.entry location (.file bytes)) := by
  have same : ∀ {directory : List Text} {name : Text} {entry : Entry},
      (workspace.top.at? directory).bind (Entry.child? name) = some entry → (∀ contents, entry ≠ .file contents) →
        after.occupantAt (directory ++ [name]) = Entry.occupant (some entry) := by
    intro directory name entry listed other
    rw [← listed, ← occupantAt_concat]
    refine elsewhere _ ?_
    rintro rfl
    rw [occupantAt_concat, listed] at free
    cases entry with
    | file contents => exact other contents rfl
    | link target => rcases free with nothing | ⟨contents, file⟩ <;> contradiction
    | directory entries => rcases free with nothing | ⟨contents, file⟩ <;> contradiction
  have reaches : ∀ {rest : List Text}, ¬ (Purpose.reach = .write ∧ rest = [[]]) := by
    rintro rest ⟨writes, -⟩
    cases writes
  fun_induction followSteps workspace .write jump directory steps
  case case1 listed =>
    cases ends
    dsimp only [Found.location] at leads
    subst leads
    rw [followSteps, at?_of_occupantAt_file here]
  case case2 | case5 | case6 | case8 | case11 => cases ends
  case case3 stays ih =>
    rw [followSteps, if_pos stays]
    exact ih ends
  case case4 moves ih =>
    rw [followSteps, if_neg moves, if_pos rfl]
    exact ih ends
  case case7 proper down short missing writes =>
    cases ends
    dsimp only [Found.location] at leads
    subst leads
    rw [followSteps_cons proper down reaches short, here]
    rfl
  case case9 proper down writes short entries listed ih =>
    rw [followSteps_cons proper down reaches short, same listed (by simp)]
    exact ih ends
  case case10 proper down short contents listed writes =>
    cases ends
    dsimp only [Found.location] at leads
    subst leads
    rw [followSteps_cons proper down reaches short, here]
    rfl
  case case12 inspects => cases inspects.2
  case case13 proper down writes short target listed follows =>
    rw [followSteps_cons proper down reaches short, same listed (by simp)]
    refine (if_neg ?_).trans (jumps _ _ ends)
    rintro ⟨-, inspects⟩
    cases inspects

/-- The steps that led to a place to be written lead to the file that was written there. -/
theorem follow_of_written {after : Workspace} {bytes : Bytes} (here : after.occupantAt location = .file bytes)
    (elsewhere : ∀ other ≠ location, after.occupantAt other = workspace.occupantAt other)
    (free : workspace.occupantAt location = .nothing ∨ ∃ contents, workspace.occupantAt location = .file contents)
    {links : Nat} {directory steps : List Text} {found : Found}
    (ends : workspace.follow .write links directory steps = .ok found) (leads : found.location = location) :
    after.follow .reach links directory steps = .ok (.entry location (.file bytes)) := by
  induction links generalizing directory steps with
  | zero =>
    refine followSteps_of_written here elsewhere free leads (fun _ _ found => ?_) ends
    cases found
  | succ links ih => exact followSteps_of_written here elsewhere free leads (fun _ _ => ih) ends

section Absolute

variable {path : Path} (top : workspace.occupantAt [] = .directory) (absolute : path.root ≠ .here)
include top absolute

theorem holds_of_find {purpose : Purpose} {found : Found} (ends : workspace.find purpose path = .ok found) :
    workspace.Holds found ∧ workspace.follow purpose maxLinks [] path.steps = .ok found := by
  unfold find at ends
  split at ends
  · cases ends
  · split at ends
    · cases ends
    · dsimp only at ends
      split at ends
      · rename_i followed
        cases ends
        exact ⟨holds_of_follow top top followed, followed⟩
      · cases ends

/-- A path under which a file was written leads to it. -/
theorem find_of_written {after : Workspace} {bytes : Bytes} {found : Found}
    (ends : workspace.find .write path = .ok found) (leads : found.location = location)
    (here : after.occupantAt location = .file bytes)
    (elsewhere : ∀ other ≠ location, after.occupantAt other = workspace.occupantAt other)
    (free : workspace.occupantAt location = .nothing ∨ ∃ contents, workspace.occupantAt location = .file contents) :
    after.find .reach path = .ok (.entry location (.file bytes)) := by
  have followed := follow_of_written here elsewhere free (holds_of_find top absolute ends).2 leads
  unfold find at ends ⊢
  split at ends
  · cases ends
  · split at ends
    · cases ends
    · rename_i short
      rw [if_neg short]
      dsimp only
      rw [if_neg absolute, followed]

/-- A file is opened in a directory, under a name that is free or a file's. -/
private theorem openForWriting_ends {opened : Workspace}
    (ends : workspace.openForWriting path = .ok (opened, location)) :
    ∃ found directory name, workspace.find .write path = .ok found ∧ found.location = location ∧
      location = directory ++ [name] ∧ workspace.occupantAt directory = .directory ∧
      (workspace.occupantAt location = .nothing ∨ ∃ contents, workspace.occupantAt location = .file contents) ∧
      opened = workspace.put location (.file []) := by
  unfold openForWriting at ends
  cases found : workspace.find .write path with
  | error error =>
    rw [found] at ends
    cases ends
  | ok place =>
    have holds := (holds_of_find top absolute found).1
    rw [found] at ends
    cases place with
    | entry place entry =>
      cases entry with
      | link target => cases ends
      | directory entries => cases ends
      | file contents =>
        cases ends
        have file : workspace.occupantAt location = .file contents := congrArg Entry.occupant holds
        rcases List.eq_nil_or_concat location with rfl | ⟨directory, name, rfl⟩
        · rw [top] at file
          cases file
        · rw [List.concat_eq_append] at *
          have inside : workspace.occupantAt directory = .directory := by
            refine occupantAt_of_concat (?_ : workspace.occupantAt (directory ++ [name]) ≠ .nothing)
            rw [file]
            simp
          exact ⟨_, directory, name, rfl, rfl, rfl, inside, .inr ⟨contents, file⟩, rfl⟩
    | absent directory name =>
      cases ends
      exact ⟨_, directory, name, rfl, rfl, rfl, holds.1, .inl holds.2, rfl⟩

/-- A file that is opened and written is where its path leads, and nothing else has changed. -/
theorem writesAt_of_openForWriting {opened : Workspace}
    (ends : workspace.openForWriting path = .ok (opened, location)) (bytes : Bytes) :
    workspace.WritesAt (opened.put location (.file bytes)) path bytes := by
  obtain ⟨found, directory, name, looked, leads, rfl, inside, free, rfl⟩ := openForWriting_ends top absolute ends
  have childless : ∀ (contents : Bytes) (step : Text), (Entry.file contents).child? step = none := fun _ _ => rfl
  have notDirectory : workspace.occupantAt (directory ++ [name]) ≠ .directory := by
    rcases free with nothing | ⟨contents, file⟩
    · simp [nothing]
    · simp [file]
  obtain ⟨emptied, kept⟩ := occupantAt_put inside notDirectory (childless [])
  have within : (workspace.put (directory ++ [name]) (.file [])).occupantAt directory = .directory := by
    rw [kept directory (by simp), inside]
  obtain ⟨written, others⟩ := occupantAt_put within (by rw [emptied]; simp [Entry.occupant]) (childless bytes)
  have elsewhere := fun other distinct => (others other distinct).trans (kept other distinct)
  exact ⟨directory ++ [name], find_of_written top absolute looked leads written elsewhere free,
    fun other distinct => .inl (elsewhere other distinct)⟩

/-- Making a directory touches no file. -/
theorem filesKept_makeDirectory {made : Workspace} (ends : workspace.makeDirectory path = .ok made) :
    workspace.FilesKept made := by
  unfold makeDirectory at ends
  cases found : workspace.find .inspect path with
  | error error =>
    rw [found] at ends
    cases ends
  | ok place =>
    rw [found] at ends
    cases place with
    | entry location entry => cases ends
    | absent directory name =>
      cases ends
      obtain ⟨inside, missing⟩ := (holds_of_find top absolute found).1
      have free : workspace.occupantAt (directory ++ [name]) ≠ .directory := by
        rw [missing]
        simp
      have changed := occupantAt_put inside free (fun _ => rfl : ∀ step, (Entry.directory []).child? step = none)
      intro other
      by_cases here : other = directory ++ [name]
      · rw [here]
        exact .inr ⟨missing, changed.1⟩
      · exact .inl (changed.2 other here)

end Absolute

theorem FilesKept.top {before after : Workspace} (kept : before.FilesKept after)
    (top : before.occupantAt [] = .directory) : after.occupantAt [] = .directory := by
  rcases kept [] with same | ⟨-, made⟩
  · rw [same, top]
  · exact made

/-- Making directories makes nothing else, also where it fails. -/
theorem filesKept_makeDirectoriesUpTo {path : Path} (top : workspace.occupantAt [] = .directory)
    (absolute : path.root ≠ .here) (count : Nat) :
    workspace.FilesKept (workspace.makeDirectoriesUpTo path count).1 := by
  induction count generalizing path with
  | zero =>
    rw [makeDirectoriesUpTo]
    split
    · rename_i made
      exact filesKept_makeDirectory top absolute made
    · exact .refl workspace
  | succ count ih =>
    rw [makeDirectoriesUpTo]
    split
    · rename_i made
      exact filesKept_makeDirectory top absolute made
    · have above : workspace.FilesKept (workspace.makeDirectoriesUpTo path.parent count).1 := ih absolute
      split
      · rename_i ended
        rw [ended] at above
        exact above
      · rename_i ended
        rw [ended] at above
        split
        · rename_i made
          exact above.trans (filesKept_makeDirectory (above.top top) absolute made)
        · exact above
    · exact .refl workspace

end Workspace
end SqlSurvey
