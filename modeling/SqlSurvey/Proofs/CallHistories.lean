import SqlSurvey.CallIndexes
import SqlSurvey.FileSummaries

/-! # Indexes and tallies of a history

An index that received call sites one after the other holds the groups of that history: the names in the order in
which they first came, each with its call sites in their order. The tallies of a file count the same groups. -/
namespace SqlSurvey

theorem nodup_eraseDups (names : List Text) : names.eraseDups.Nodup := by
  induction size : names.length using Nat.strongRecOn generalizing names with
  | ind n ih =>
    cases names with
    | nil => simp
    | cons name rest =>
      rw [List.eraseDups_cons, List.nodup_cons]
      refine ⟨by simp, ih _ ?_ _ rfl⟩
      have shorter := List.length_filter_le (fun other => !other == name) rest
      rw [← size, List.length_cons]
      omega

theorem eraseDups_concat (names : List Text) (name : Text) : (names ++ [name]).eraseDups =
    if name ∈ names.eraseDups then names.eraseDups else names.eraseDups ++ [name] := by
  rw [List.eraseDups_append]
  by_cases known : name ∈ names
  · simp [List.removeAll, known]
  · simp [List.removeAll, known, List.eraseDups_cons]

/-- Grows the value of a name, or starts one behind the others. -/
def upsert {α : Type} (name : Text) (grow : α → α) (start : α) : List (Text × α) → List (Text × α)
  | [] => [(name, start)]
  | entry :: entries =>
    if entry.1 = name then (name, grow entry.2) :: entries else entry :: upsert name grow start entries

-- Both the buckets of an index and the tallies of a file grow by this step.
/-- Growing one value of a list that is given by a function on distinct names changes that function at one name. -/
theorem upsert_map {α : Type} {names : List Text} {name : Text} {grow : α → α} {start : α} {value next : Text → α}
    (distinct : names.Nodup) (fresh : name ∉ names → grow (value name) = start)
    (here : next name = grow (value name)) (elsewhere : ∀ other, other ≠ name → next other = value other) :
    upsert name grow start (names.map fun other => (other, value other)) =
      (if name ∈ names then names else names ++ [name]).map fun other => (other, next other) := by
  induction names with
  | nil => simp [upsert, here, fresh]
  | cons first names ih =>
    rw [List.nodup_cons] at distinct
    rw [List.map_cons, upsert]
    by_cases same : first = name
    · subst same
      have rest : names.map (fun other => (other, value other)) = names.map fun other => (other, next other) := by
        refine List.map_congr_left ?_
        intro other inside
        rw [elsewhere other (fun equal => distinct.1 (equal ▸ inside))]
      rw [if_pos rfl, if_pos List.mem_cons_self, List.map_cons, here, rest]
    · have step := ih distinct.2 (fun new => fresh (by simp [Ne.symm same, new]))
      rw [if_neg same, step, ← elsewhere first same]
      by_cases known : name ∈ names
      · simp [known]
      · simp [known, Ne.symm same]

def sitesOf (history : List CallSite) (name : Text) : List CallSite := history.filter fun site => site.name = name

/-- The names of a history, each once, in the order in which they first came. -/
def namesOf (history : List CallSite) : List Text := (history.map CallSite.name).eraseDups

theorem nodup_namesOf (history : List CallSite) : (namesOf history).Nodup := nodup_eraseDups _

theorem mem_namesOf {history : List CallSite} {name : Text} :
    name ∈ namesOf history ↔ ∃ site ∈ history, site.name = name := by
  simp [namesOf]

theorem sitesOf_eq_nil {history : List CallSite} {name : Text} (h : name ∉ namesOf history) :
    sitesOf history name = [] := by
  refine List.filter_eq_nil_iff.2 ?_
  intro site inside same
  exact h (mem_namesOf.2 ⟨site, inside, by simpa using same⟩)

theorem length_sitesOf (history : List CallSite) (name : Text) :
    (sitesOf history name).length = (history.map CallSite.name).count name := by
  induction history with
  | nil => rfl
  | cons site history ih =>
    by_cases same : site.name = name
    · simpa [sitesOf, same] using ih
    · simpa [sitesOf, same] using ih

def groupsOf (history : List CallSite) : List (Text × List CallSite) :=
  (namesOf history).map fun name => (name, sitesOf history name)

private theorem groupsOf_concat (history : List CallSite) (site : CallSite) :
    groupsOf (history ++ [site]) = upsert site.name (· ++ [site]) [site] (groupsOf history) := by
  have fresh : site.name ∉ namesOf history → sitesOf history site.name ++ [site] = [site] := by
    intro new
    rw [sitesOf_eq_nil new, List.nil_append]
  have here : sitesOf (history ++ [site]) site.name = sitesOf history site.name ++ [site] := by simp [sitesOf]
  have elsewhere : ∀ other, other ≠ site.name → sitesOf (history ++ [site]) other = sitesOf history other := by
    intro other differs
    simp [sitesOf, Ne.symm differs]
  have names : namesOf (history ++ [site]) =
      if site.name ∈ namesOf history then namesOf history else namesOf history ++ [site.name] := by
    rw [namesOf, List.map_append]
    exact eraseDups_concat _ _
  rw [groupsOf, groupsOf, names]
  exact (upsert_map (nodup_namesOf history) fresh here elsewhere).symm

namespace CallIndex

def groups (index : CallIndex) : List (Text × List CallSite) :=
  index.buckets.map fun bucket => (bucket.name, bucket.sites)

theorem groups_add (index : CallIndex) (site : CallSite) :
    (index.add site).groups = upsert site.name (· ++ [site]) [site] index.groups := by
  simp only [groups, add]
  induction index.buckets with
  | nil => rfl
  | cons bucket buckets ih =>
    rw [addTo, List.map_cons, upsert]
    by_cases same : bucket.name = site.name
    · rw [if_pos same, if_pos same, List.map_cons, same]
      rfl
    · rw [if_neg same, if_neg same, List.map_cons, ih]

theorem groups_merge {index : CallIndex} {history : List CallSite} (h : index.groups = groupsOf history)
    (sites : List CallSite) : (index.merge sites).groups = groupsOf (history ++ sites) := by
  induction sites generalizing index history with
  | nil => simpa [merge] using h
  | cons site sites ih =>
    have step : (index.add site).groups = groupsOf (history ++ [site]) := by
      rw [groups_add, groupsOf_concat, h]
    simpa [merge] using ih step

/-- An index made from nothing groups the sites by name, each group at the place of its first site. -/
theorem groups_ofSites (sites : List CallSite) : (empty.merge sites).groups = groupsOf sites := by
  have start : empty.groups = groupsOf [] := rfl
  simpa using groups_merge start sites

section

variable {index : CallIndex} {history : List CallSite} (h : index.groups = groupsOf history)
include h

theorem map_name_of_groups : index.buckets.map Bucket.name = namesOf history := by
  have names := congrArg (List.map Prod.fst) h
  simpa [groups, groupsOf, Function.comp_def] using names

theorem size_of_groups : index.size = (namesOf history).length := by
  rw [size, ← map_name_of_groups h, List.length_map]

theorem exists_bucket_of_groups {name : Text} (known : name ∈ namesOf history) :
    ∃ bucket ∈ index.buckets, bucket.name = name := by
  rw [← map_name_of_groups h] at known
  exact List.mem_map.1 known

/-- A bucket holds every site of its name and no other, in the order of the history. -/
theorem sites_of_groups {bucket : Bucket} (inside : bucket ∈ index.buckets) :
    bucket.sites = sitesOf history bucket.name := by
  have listed : (bucket.name, bucket.sites) ∈ groupsOf history := h ▸ List.mem_map.2 ⟨bucket, inside, rfl⟩
  obtain ⟨name, -, same⟩ := List.mem_map.1 listed
  rw [Prod.mk.injEq] at same
  rw [← same.1, same.2]

end

private theorem totalCalls_add (index : CallIndex) (site : CallSite) :
    (index.add site).totalCalls = index.totalCalls + 1 := by
  simp only [totalCalls, add]
  induction index.buckets with
  | nil => rfl
  | cons bucket buckets ih =>
    rw [addTo]
    by_cases same : bucket.name = site.name
    · simp only [if_pos same, List.foldr_cons, Bucket.total, Bucket.sites, List.length_cons, List.length_append,
        List.length_nil]
      omega
    · rw [if_neg same, List.foldr_cons, List.foldr_cons, ih]
      omega

theorem totalCalls_merge (index : CallIndex) (sites : List CallSite) :
    (index.merge sites).totalCalls = index.totalCalls + sites.length := by
  induction sites generalizing index with
  | nil => rfl
  | cons site sites ih =>
    have step := ih (index.add site)
    rw [totalCalls_add] at step
    rw [merge, List.foldl_cons, ← merge, step, List.length_cons]
    omega

end CallIndex

theorem Bucket.ranksBefore_trans (a b c : Bucket) (first : a.ranksBefore b) (second : b.ranksBefore c) :
    a.ranksBefore c := by
  simp only [ranksBefore, Bool.or_eq_true, Bool.and_eq_true, decide_eq_true_eq, beq_iff_eq] at *
  rcases first with more | ⟨equal, before⟩ <;> rcases second with more' | ⟨equal', before'⟩
  · exact .inl (by omega)
  · exact .inl (by omega)
  · exact .inl (by omega)
  · exact .inr ⟨equal.trans equal', Text.le_trans before before'⟩

theorem Bucket.ranksBefore_total (a b : Bucket) : a.ranksBefore b || b.ranksBefore a := by
  simp only [ranksBefore, Bool.or_eq_true, Bool.and_eq_true, decide_eq_true_eq, beq_iff_eq]
  rcases Nat.lt_trichotomy a.total b.total with less | equal | more
  · exact .inr (.inl less)
  · rcases Bool.or_eq_true_iff.1 (Text.le_total a.name b.name) with before | after
    · exact .inl (.inr ⟨equal, before⟩)
    · exact .inr (.inr ⟨equal.symm, after⟩)
  · exact .inl (.inl more)

theorem Bucket.total_le_of_ranksBefore {a b : Bucket} (h : a.ranksBefore b) : b.total ≤ a.total := by
  simp only [ranksBefore, Bool.or_eq_true, Bool.and_eq_true, decide_eq_true_eq, beq_iff_eq] at h
  omega

namespace CallIndex

variable (index : CallIndex) (limit examples : Nat)

theorem ranking_eq : index.ranking limit examples =
    ((index.buckets.mergeSort Bucket.ranksBefore).take limit).map (rankBucket examples) := by
  rw [ranking, sliceTo_natCast]

theorem length_ranking : (index.ranking limit examples).length = min limit index.size := by
  simp [ranking_eq, size]

theorem exists_bucket_of_mem_ranking {entry : RankedCall} (listed : entry ∈ index.ranking limit examples) :
    ∃ bucket ∈ index.buckets, entry = rankBucket examples bucket := by
  rw [ranking_eq] at listed
  obtain ⟨bucket, inside, rfl⟩ := List.mem_map.1 listed
  exact ⟨bucket, List.mem_mergeSort.1 (List.mem_of_mem_take inside), rfl⟩

/-- A bucket that the ranking leaves out has no more sites than one that it lists. -/
theorem total_le_of_left_out {bucket : Bucket} (inside : bucket ∈ index.buckets)
    (out : ∀ entry ∈ index.ranking limit examples, entry.name ≠ bucket.name) {entry : RankedCall}
    (listed : entry ∈ index.ranking limit examples) : bucket.total ≤ entry.total.val := by
  have sorted := List.pairwise_mergeSort Bucket.ranksBefore_trans Bucket.ranksBefore_total index.buckets
  rw [← List.take_append_drop limit (index.buckets.mergeSort Bucket.ranksBefore)] at sorted
  have across := (List.pairwise_append.1 sorted).2.2
  rw [ranking_eq] at out listed
  -- What the limit does not keep stands behind it.
  have behind : bucket ∈ (index.buckets.mergeSort Bucket.ranksBefore).drop limit := by
    have somewhere : bucket ∈ index.buckets.mergeSort Bucket.ranksBefore := List.mem_mergeSort.2 inside
    rw [← List.take_append_drop limit (index.buckets.mergeSort Bucket.ranksBefore)] at somewhere
    rcases List.mem_append.1 somewhere with kept | behind
    · exact absurd rfl (out _ (List.mem_map.2 ⟨bucket, kept, rfl⟩))
    · exact behind
  obtain ⟨other, kept, rfl⟩ := List.mem_map.1 listed
  exact Bucket.total_le_of_ranksBefore (across other kept bucket behind)

end CallIndex
namespace CallTally

def counts (tallies : List CallTally) : List (Text × Nat) :=
  tallies.map fun tally => (tally.name, tally.count.val)

def countsOf (names : List Text) : List (Text × Nat) := names.eraseDups.map fun name => (name, names.count name)

private theorem countsOf_concat (names : List Text) (name : Text) :
    countsOf (names ++ [name]) = upsert name (· + 1) 1 (countsOf names) := by
  have fresh : name ∉ names.eraseDups → names.count name + 1 = 1 := by
    intro new
    rw [List.mem_eraseDups] at new
    rw [List.count_eq_zero_of_not_mem new]
  have here : (names ++ [name]).count name = names.count name + 1 := by simp
  have elsewhere : ∀ other, other ≠ name → (names ++ [name]).count other = names.count other := by
    intro other differs
    simp [Ne.symm differs]
  rw [countsOf, countsOf, eraseDups_concat]
  exact (upsert_map (nodup_eraseDups names) fresh here elsewhere).symm

theorem counts_add (name : Text) (tallies : List CallTally) :
    counts (add name tallies) = upsert name (· + 1) 1 (counts tallies) := by
  simp only [counts]
  induction tallies with
  | nil => rfl
  | cons tally tallies ih =>
    rw [add, List.map_cons, upsert]
    by_cases same : tally.name = name
    · rw [if_pos same, if_pos same, List.map_cons]
      rfl
    · rw [if_neg same, if_neg same, List.map_cons, ih]

private theorem counts_foldl_add {names : List Text} {tallies : List CallTally}
    (h : counts tallies = countsOf names) (more : List Text) :
    counts (more.foldl (fun tallies name => add name tallies) tallies) = countsOf (names ++ more) := by
  induction more generalizing names tallies with
  | nil => simpa using h
  | cons name more ih =>
    have step : counts (add name tallies) = countsOf (names ++ [name]) := by
      rw [counts_add, countsOf_concat, h]
    simpa using ih step

/-- The tallies are a function of the list of names: every name once, where it first came, with its count. -/
theorem counts_ofNames (names : List Text) : counts (ofNames names) = countsOf names := by
  have start : counts [] = countsOf [] := rfl
  simpa [ofNames] using counts_foldl_add start names

theorem count_of_mem {names : List Text} {tally : CallTally} (h : tally ∈ ofNames names) :
    tally.count.val = names.count tally.name := by
  have listed : (tally.name, tally.count.val) ∈ countsOf names :=
    counts_ofNames names ▸ List.mem_map.2 ⟨tally, h, rfl⟩
  obtain ⟨name, -, same⟩ := List.mem_map.1 listed
  rw [Prod.mk.injEq] at same
  rw [← same.2, same.1]

theorem exists_of_mem {names : List Text} {name : Text} (h : name ∈ names) :
    ∃ tally ∈ ofNames names, tally.name = name := by
  have listed : (name, names.count name) ∈ counts (ofNames names) :=
    counts_ofNames names ▸ List.mem_map.2 ⟨name, List.mem_eraseDups.2 h, rfl⟩
  obtain ⟨tally, inside, same⟩ := List.mem_map.1 listed
  exact ⟨tally, inside, congrArg Prod.fst same⟩

theorem length_ofNames (names : List Text) : (ofNames names).length = names.eraseDups.length := by
  have lengths := congrArg List.length (counts_ofNames names)
  rwa [counts, countsOf, List.length_map, List.length_map] at lengths

end CallTally

/-- The number of calls of a name as the top calls of a summary give it. -/
def FileSummary.topCount (summary : FileSummary) (name : Text) : Nat :=
  ((summary.topCalls.find? fun tally => tally.name = name).map fun tally => tally.count.val).getD 0

/-- With room for every name, the top calls of a summary count all calls of a file. -/
theorem FileSummary.topCount_ofFindings {settings : Settings} {findings : FileFindings}
    (room : (namesOf findings.callSites).length ≤ settings.fileTopCalls) (name : Text) :
    (ofFindings settings findings).topCount name = (sitesOf findings.callSites name).length := by
  have all : (ofFindings settings findings).topCalls =
      CallTally.ranked (CallTally.ofNames (findings.callSites.map CallSite.name)) := by
    refine List.take_of_length_le ?_
    rw [CallTally.ranked, List.length_mergeSort, CallTally.length_ofNames]
    exact room
  rw [topCount, all, length_sitesOf]
  cases found : (CallTally.ranked (CallTally.ofNames (findings.callSites.map CallSite.name))).find?
      fun tally => tally.name = name with
  | some tally =>
    have same : tally.name = name := by simpa using List.find?_some found
    have inside := List.mem_mergeSort.1 (List.mem_of_find?_eq_some found)
    rw [← same]
    exact CallTally.count_of_mem inside
  | none =>
    -- A name with a call has a tally, so this name has none.
    refine (List.count_eq_zero_of_not_mem ?_).symm
    intro called
    obtain ⟨tally, inside, same⟩ := CallTally.exists_of_mem called
    have differs := List.find?_eq_none.1 found tally (List.mem_mergeSort.2 inside)
    exact differs (by simpa using same)

end SqlSurvey
