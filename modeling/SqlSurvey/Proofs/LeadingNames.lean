import Mathlib.Algebra.BigOperators.Group.List.Lemmas
import Mathlib.Algebra.GroupWithZero.Nat
import Mathlib.Data.List.Forall2
import SqlSurvey.Proofs.CodePointOrder
import SqlSurvey.Proofs.CombinedIndexes

/-! # Names that lead

The ranking of an index and the top calls of a file both list the names with the most call sites, up to a limit, and
both leave out only names that come later. They part where two names have equally many: the ranking goes by code point
and so depends on nothing but the numbers, the top calls go by the first call site. -/
namespace SqlSurvey

/-- The name is there more often than the other one, or as often and the tie is decided in its favour. -/
def Leads (tie : Text → Text → Prop) (names : List Text) (name other : Text) : Prop :=
  names.count other < names.count name ∨ names.count name = names.count other ∧ tie name other

instance (tie : Text → Text → Prop) [DecidableRel tie] (names : List Text) : DecidableRel (Leads tie names) :=
  fun name other => inferInstanceAs (Decidable (_ < _ ∨ _ = _ ∧ tie name other))

/-- A list of names with the numbers of their occurrences that holds those which lead, as many as the limit allows. -/
structure Leaders (tie : Text → Text → Prop) (names : List Text) (limit : Nat) (top : List (Text × Nat)) : Prop where
  length : top.length = min limit names.eraseDups.length
  distinct : (top.map Prod.fst).Nodup
  known : ∀ entry ∈ top, entry.1 ∈ names
  counts : ∀ entry ∈ top, entry.2 = names.count entry.1
  ordered : top.Pairwise fun entry next => Leads tie names entry.1 next.1
  leftOut : ∀ name ∈ names, name ∉ top.map Prod.fst → ∀ entry ∈ top, Leads tie names entry.1 name

section

variable {tie : Text → Text → Prop} {names ordered : List Text}

private theorem mem_drop_of_not_mem_take {name : Text} {limit : Nat} (inside : name ∈ ordered)
    (out : name ∉ ordered.take limit) : name ∈ ordered.drop limit := by
  rw [← List.take_append_drop limit ordered] at inside
  rcases List.mem_append.1 inside with kept | behind
  · exact absurd kept out
  · exact behind

/-- The beginning of all names in their order holds the leading ones. -/
theorem leaders_take (all : ordered.Perm names.eraseDups) (sorted : ordered.Pairwise (Leads tie names)) (limit : Nat) :
    Leaders tie names limit ((ordered.take limit).map fun name => (name, names.count name)) := by
  have first : ((ordered.take limit).map fun name => (name, names.count name)).map Prod.fst = ordered.take limit := by
    rw [List.map_map]
    exact List.map_id _
  constructor
  · rw [List.length_map, List.length_take, all.length_eq]
  · rw [first]
    exact (all.nodup_iff.2 (nodup_eraseDups names)).sublist (List.take_sublist limit ordered)
  · intro entry listed
    obtain ⟨name, kept, rfl⟩ := List.mem_map.1 listed
    exact List.mem_eraseDups.1 (all.mem_iff.1 (List.mem_of_mem_take kept))
  · intro entry listed
    obtain ⟨name, -, rfl⟩ := List.mem_map.1 listed
    rfl
  · rw [List.pairwise_map]
    exact sorted.sublist (List.take_sublist limit ordered)
  · intro name known out entry listed
    obtain ⟨leader, kept, rfl⟩ := List.mem_map.1 listed
    rw [first] at out
    have behind := mem_drop_of_not_mem_take (all.mem_iff.2 (List.mem_eraseDups.2 known)) out
    rw [← List.take_append_drop limit ordered] at sorted
    exact (List.pairwise_append.1 sorted).2.2 leader kept name behind

theorem Leads.asymm (asymm : ∀ {name other}, tie name other → ¬ tie other name) {name other : Text}
    (h : Leads tie names name other) : ¬ Leads tie names other name := by
  intro back
  rcases h with more | ⟨equal, ahead⟩
  · rcases back with more' | ⟨equal', -⟩ <;> omega
  · rcases back with more' | ⟨-, ahead'⟩
    · omega
    · exact asymm ahead ahead'

end

namespace CallIndex

/-- The names of a history in the order of its full ranking. -/
def rankedNames (history : List CallSite) : List Text :=
  ((ofSites history).buckets.mergeSort Bucket.ranksBefore).map Bucket.name

section

variable {history : List CallSite}

theorem rankedNames_perm (history : List CallSite) :
    (rankedNames history).Perm (history.map CallSite.name).eraseDups := by
  have names := map_name_of_groups (groups_ofSites history)
  exact ((List.mergeSort_perm _ _).map Bucket.name).trans (List.Perm.of_eq names)

private theorem total_eq_count {bucket : Bucket} (inside : bucket ∈ (ofSites history).buckets) :
    bucket.total = (history.map CallSite.name).count bucket.name := by
  rw [Bucket.total, sites_of_groups (groups_ofSites history) inside, length_sitesOf]

/-- In a full ranking every name leads those behind it. -/
theorem pairwise_rankedNames (history : List CallSite) :
    (rankedNames history).Pairwise (Leads Text.Before (history.map CallSite.name)) := by
  have sorted := List.pairwise_mergeSort Bucket.ranksBefore_trans Bucket.ranksBefore_total (ofSites history).buckets
  have distinct : (rankedNames history).Nodup :=
    (rankedNames_perm history).nodup_iff.2 (nodup_eraseDups (history.map CallSite.name))
  rw [rankedNames, List.pairwise_map]
  refine (sorted.and (List.pairwise_map.1 distinct)).imp_of_mem ?_
  intro bucket next inside inside' h
  obtain ⟨before, differ⟩ := h
  rw [List.mem_mergeSort] at inside inside'
  simp only [Bucket.ranksBefore, total_eq_count inside, total_eq_count inside', Bool.or_eq_true, Bool.and_eq_true,
    decide_eq_true_eq, beq_iff_eq] at before
  exact before.imp_right fun tied => ⟨tied.1, Text.before_iff.2 ⟨tied.2, differ⟩⟩

/-- Which names lead others fixes their order. -/
theorem rankedNames_eq {names : List Text} (all : (history.map CallSite.name).eraseDups.Perm names)
    (sorted : names.Pairwise (Leads Text.Before (history.map CallSite.name))) : rankedNames history = names :=
  eq_of_pairwise_strict ((rankedNames_perm history).trans all) (pairwise_rankedNames history) sorted
    fun _ _ => Leads.asymm Text.Before.asymm

/-- Two histories with the same call sites in another order have the same ranking of names. -/
theorem rankedNames_eq_of_perm {other : List CallSite} (same : history.Perm other) :
    rankedNames history = rankedNames other := by
  have counts : Leads Text.Before (other.map CallSite.name) = Leads Text.Before (history.map CallSite.name) := by
    funext name next
    simp only [Leads, (same.map CallSite.name).count_eq]
  have names : (history.map CallSite.name).eraseDups.Perm (other.map CallSite.name).eraseDups := by
    rw [List.perm_ext_iff_of_nodup (nodup_eraseDups _) (nodup_eraseDups _)]
    intro name
    rw [List.mem_eraseDups, List.mem_eraseDups, (same.map CallSite.name).mem_iff]
  exact rankedNames_eq (names.trans (rankedNames_perm other).symm) (counts ▸ pairwise_rankedNames other)

end

/-- What a ranking says of a name apart from the examples: the name, its total, and the sites that are not listed. -/
def figures (entry : RankedCall) : Text × Nat × Nat := (entry.name, entry.total.val, entry.remaining)

/-- The figures of a ranking are those of the names alone. -/
theorem map_figures_ranking (history : List CallSite) (limit examples : Nat) :
    ((ofSites history).ranking limit examples).map figures =
      ((rankedNames history).take limit).map fun name =>
        (name, (history.map CallSite.name).count name, (history.map CallSite.name).count name - examples) := by
  rw [ranking_eq, rankedNames, ← List.map_take, List.map_map, List.map_map]
  refine List.map_congr_left ?_
  intro bucket kept
  have inside := List.mem_mergeSort.1 (List.mem_of_mem_take kept)
  simp only [Function.comp_apply, figures, rankBucket, ← total_eq_count inside, Int.toNat_sub]

theorem map_total_ranking (history : List CallSite) (limit examples : Nat) :
    (((ofSites history).ranking limit examples).map fun entry => (entry.name, entry.total.val)) =
      ((rankedNames history).take limit).map fun name => (name, (history.map CallSite.name).count name) := by
  have totals := congrArg (List.map fun figure => (figure.1, figure.2.1)) (map_figures_ranking history limit examples)
  rwa [List.map_map, List.map_map] at totals

theorem examples_of_mem_ranking {history : List CallSite} {limit examples : Nat} {entry : RankedCall}
    (listed : entry ∈ (ofSites history).ranking limit examples) :
    entry.examples = (sitesOf history entry.name).take examples ∧
      entry.examples.length + entry.remaining = entry.total.val := by
  obtain ⟨bucket, inside, rfl⟩ := exists_bucket_of_mem_ranking _ limit examples listed
  simp only [rankBucket, sliceTo_natCast, List.length_take, Bucket.total]
  refine ⟨?_, by omega⟩
  rw [sites_of_groups (groups_ofSites history) inside]

/-- The ranking of a history lists the names that lead, ties by code point, each with its first call sites. A greater
limit only adds names, and the order of the history does not matter but for the examples. -/
theorem ranking_lists_leaders (history : List CallSite) (limit examples : Nat) :
    Leaders Text.Before (history.map CallSite.name) limit
      (((ofSites history).ranking limit examples).map fun entry => (entry.name, entry.total.val)) ∧
    (∀ entry ∈ (ofSites history).ranking limit examples,
      entry.examples = (history.filter fun site => site.name = entry.name).take examples ∧
      entry.examples.length + entry.remaining = entry.total.val) ∧
    (∀ more, limit ≤ more →
      (ofSites history).ranking limit examples <+: (ofSites history).ranking (more : Nat) examples) ∧
    ∀ other, history.Perm other →
      ((ofSites history).ranking limit examples).map figures =
        ((ofSites other).ranking limit examples).map figures := by
  refine ⟨?_, fun entry listed => examples_of_mem_ranking listed, ?_, ?_⟩
  · rw [map_total_ranking]
    exact leaders_take (rankedNames_perm history) (pairwise_rankedNames history) limit
  · intro more le
    rw [ranking_eq, ranking_eq]
    exact (List.take_prefix_take_left le).map _
  · intro other same
    rw [map_figures_ranking, map_figures_ranking, rankedNames_eq_of_perm same]
    simp only [(same.map CallSite.name).count_eq]

/-- Three names, two of them with equally many call sites. -/
def sampleHistory : List CallSite :=
  [("b", 1), ("a", 2), ("c", 3), ("b", 4), ("a", 5)].map fun (name, line) =>
    IndexOperation.sampleSite (.ofString name) line

/-- The tie goes to the smaller name though the other one came first, and also if the history is reversed. -/
theorem ranking_of_sampleHistory :
    ((ofSites sampleHistory).ranking 2 1).map figures = [(.ofString "a", 2, 1), (.ofString "b", 2, 1)] ∧
    (2 ≤ 3 ∧ (ofSites sampleHistory).ranking 2 1 <+: (ofSites sampleHistory).ranking 3 1) ∧
    sampleHistory.Perm sampleHistory.reverse ∧
    ((ofSites sampleHistory).ranking 2 1).map figures =
      ((ofSites sampleHistory.reverse).ranking 2 1).map figures := by
  have reversed : sampleHistory.Perm sampleHistory.reverse := (List.reverse_perm sampleHistory).symm
  have order : rankedNames sampleHistory = [.ofString "a", .ofString "b", .ofString "c"] :=
    rankedNames_eq (by decide) (by decide)
  refine ⟨?_, ⟨by decide, ?_⟩, reversed, ?_⟩
  · refine (map_figures_ranking sampleHistory 2 1).trans ?_
    rw [order]
    decide
  · exact (ranking_lists_leaders sampleHistory 2 1).2.2.1 3 (by decide)
  · exact (ranking_lists_leaders sampleHistory 2 1).2.2.2 _ reversed

end CallIndex

section

variable {α : Type} {le : α → α → Bool} (trans : ∀ a b c, le a b → le b c → le a c) (total : ∀ a b, le a b || le b a)
include trans total

-- Elements that count as equal form the same list before and after they are sorted.
private theorem filter_mergeSort {items : List α} {p : α → Bool}
    (ties : ∀ a ∈ items, ∀ b ∈ items, p a → p b → le a b) : (items.mergeSort le).filter p = items.filter p := by
  have equal : (items.filter p).Pairwise fun a b => le a b := by
    refine List.pairwise_of_forall_mem_list ?_
    intro a inside b inside'
    rw [List.mem_filter] at inside inside'
    exact ties a inside.1 b inside'.1 inside.2 inside'.2
  have kept := (List.sublist_mergeSort trans total equal List.filter_sublist).filter p
  rw [List.filter_filter] at kept
  simp only [Bool.and_self] at kept
  exact (kept.eq_of_length ((List.mergeSort_perm items le).filter p).length_eq.symm).symm

/-- A stable sort keeps whatever order there was between elements that count as equal. -/
theorem pairwise_mergeSort_ties {items : List α} {before : α → α → Prop} (original : items.Pairwise before) :
    (items.mergeSort le).Pairwise fun a b => le a b ∧ (le b a → before a b) := by
  have sorted := List.pairwise_mergeSort trans total items
  rw [List.pairwise_iff_forall_sublist] at sorted original ⊢
  intro a b pair
  refine ⟨sorted pair, ?_⟩
  intro back
  -- Both stand among the elements that count as equal to the first, and these were not moved against each other.
  have self : le a a := by simpa using total a a
  have ties : ∀ c ∈ items, ∀ d ∈ items, (le a c && le c a) → (le a d && le d a) → le c d := by
    intro c _ d _ equal equal'
    rw [Bool.and_eq_true] at equal equal'
    exact trans c a d equal.2 equal'.1
  have both : [a, b].filter (fun c => le a c && le c a) = [a, b] := by simp [self, sorted pair, back]
  have kept := pair.filter fun c => le a c && le c a
  rw [both, filter_mergeSort trans total ties] at kept
  exact original (kept.trans List.filter_sublist)

end

namespace CallTally

theorem pairwise_idxOf_eraseDups (names : List Text) :
    names.eraseDups.Pairwise fun name other => names.idxOf name < names.idxOf other := by
  induction names using List.reverseRecOn with
  | nil => exact .nil
  | append_singleton names name ih =>
    have earlier : names.eraseDups.Pairwise fun first second =>
        (names ++ [name]).idxOf first < (names ++ [name]).idxOf second := by
      refine ih.imp_of_mem ?_
      intro first second inside inside' before
      rw [List.mem_eraseDups] at inside inside'
      rwa [List.idxOf_append_of_mem inside, List.idxOf_append_of_mem inside']
    rw [eraseDups_concat]
    split
    · exact earlier
    · rename_i new
      rw [List.mem_eraseDups] at new
      refine List.pairwise_append.2 ⟨earlier, List.pairwise_singleton _ _, ?_⟩
      intro first inside last same
      rw [List.mem_eraseDups] at inside
      rw [List.mem_singleton.1 same, List.idxOf_append_of_mem inside, List.idxOf_append_of_notMem new]
      exact Nat.lt_add_right _ (List.idxOf_lt_length_iff.2 inside)

theorem map_name_ofNames (names : List Text) : (ofNames names).map CallTally.name = names.eraseDups := by
  have first := congrArg (List.map Prod.fst) (counts_ofNames names)
  simpa [counts, countsOf, Function.comp_def] using first

theorem ranked_perm (names : List Text) :
    ((ranked (ofNames names)).map CallTally.name).Perm names.eraseDups :=
  ((List.mergeSort_perm _ _).map CallTally.name).trans (List.Perm.of_eq (map_name_ofNames names))

/-- In the tallies of a file the name that came first wins a tie, since sorting keeps equal counts in order. -/
theorem pairwise_ranked (names : List Text) : ((ranked (ofNames names)).map CallTally.name).Pairwise
    (Leads (fun name other => names.idxOf name < names.idxOf other) names) := by
  have original : (ofNames names).Pairwise fun tally next => names.idxOf tally.name < names.idxOf next.name := by
    rw [← List.pairwise_map (R := fun name other => names.idxOf name < names.idxOf other), map_name_ofNames]
    exact pairwise_idxOf_eraseDups names
  have trans : ∀ a b c : CallTally, decide (b.count.val ≤ a.count.val) → decide (c.count.val ≤ b.count.val) →
      decide (c.count.val ≤ a.count.val) := by
    intro a b c first second
    rw [decide_eq_true_eq] at *
    exact Nat.le_trans second first
  have total : ∀ a b : CallTally, decide (b.count.val ≤ a.count.val) || decide (a.count.val ≤ b.count.val) := by
    intro a b
    simpa using Nat.le_total b.count.val a.count.val
  rw [List.pairwise_map]
  refine (pairwise_mergeSort_ties trans total original).imp_of_mem ?_
  intro tally next inside inside' ⟨falls, tie⟩
  rw [decide_eq_true_eq] at falls tie
  rw [Leads, ← count_of_mem (List.mem_mergeSort.1 inside), ← count_of_mem (List.mem_mergeSort.1 inside')]
  rcases Nat.lt_or_eq_of_le falls with more | equal
  · exact .inl more
  · exact .inr ⟨equal.symm, tie (Nat.le_of_eq equal.symm)⟩

theorem counts_ranked (names : List Text) (limit : Nat) : counts ((ranked (ofNames names)).take limit) =
    (((ranked (ofNames names)).map CallTally.name).take limit).map fun name => (name, names.count name) := by
  rw [counts, ← List.map_take, List.map_map]
  refine List.map_congr_left ?_
  intro tally kept
  rw [Function.comp_apply, count_of_mem (List.mem_mergeSort.1 (List.mem_of_mem_take kept))]

end CallTally

/-- Leaders that leave no name out have the occurrences of all names. -/
theorem Leaders.sum_counts {tie : Text → Text → Prop} {names : List Text} {limit : Nat} {top : List (Text × Nat)}
    (leaders : Leaders tie names limit top) (all : ∀ name ∈ names, name ∈ top.map Prod.fst) :
    (top.map Prod.snd).sum = names.length := by
  have same : (top.map Prod.fst).Perm names.dedup := by
    rw [List.perm_ext_iff_of_nodup leaders.distinct (List.nodup_dedup names)]
    intro name
    rw [List.mem_dedup]
    refine ⟨?_, all name⟩
    intro listed
    obtain ⟨entry, inside, rfl⟩ := List.mem_map.1 listed
    exact leaders.known entry inside
  have counts : top.map Prod.snd = (top.map Prod.fst).map names.count := by
    rw [List.map_map]
    exact List.map_congr_left leaders.counts
  -- The library counts by the equality test of a decidable equality, which is another instance than that of lists.
  have tests : (fun name => names.count name) = fun name => @List.count Text instBEqOfDecidableEq name names := by
    funext name
    rw [lawful_beq_subsingleton (List.instBEq : BEq Text) instBEqOfDecidableEq]
  calc (top.map Prod.snd).sum = ((top.map Prod.fst).map fun name => names.count name).sum := by rw [counts]
    _ = (names.dedup.map fun name => names.count name).sum := (same.map names.count).sum_eq
    _ = names.length := (congrArg (fun count => (names.dedup.map count).sum) tests).trans
      (List.sum_map_count_dedup_eq_length names)

namespace FileSummary

/-- The summary of a file lists the names that lead, ties by the first call site, all dependencies strictly ascending,
and every query text as it was found. -/
theorem ofFindings_lists_leaders (settings : Settings) (findings : FileFindings) :
    let summary := ofFindings settings findings
    let names := findings.callSites.map CallSite.name
    Leaders (fun name other => names.idxOf name < names.idxOf other) names settings.fileTopCalls
      (CallTally.counts summary.topCalls) ∧
    summary.callCount = findings.callSites.length ∧
    ((∀ name ∈ names, name ∈ summary.topCalls.map CallTally.name) →
      (summary.topCalls.map fun tally => tally.count.val).sum = summary.callCount) ∧
    summary.dependencies.Pairwise Text.Before ∧
    (∀ text, text ∈ summary.dependencies ↔ text ∈ findings.dependencies) ∧
    List.Forall₂ (fun entry finding => entry.line = finding.line ∧ entry.kind = finding.kind ∧
      entry.tag = finding.tag ∧ entry.text = finding.text) summary.queries findings.queries := by
  intro summary names
  have leaders : Leaders (fun name other => names.idxOf name < names.idxOf other) names settings.fileTopCalls
      (CallTally.counts summary.topCalls) := by
    have top := leaders_take (CallTally.ranked_perm names) (CallTally.pairwise_ranked names) settings.fileTopCalls
    rwa [← CallTally.counts_ranked] at top
  refine ⟨leaders, rfl, ?_, findings.dependencies.pairwise_toList, fun text => TextSet.mem_toList, ?_⟩
  · intro all
    have total := leaders.sum_counts (by rwa [CallTally.counts, List.map_map])
    rwa [CallTally.counts, List.map_map, List.length_map] at total
  · rw [show summary.queries = findings.queries.map (QueryEntry.ofFinding settings.previewLength) from rfl,
      List.forall₂_map_left_iff, List.forall₂_same]
    intro finding _
    exact ⟨rfl, rfl, rfl, rfl⟩

/-- The same calls as in the sample of an index, with two dependencies and a query. -/
def sampleFindings : FileFindings where
  fileName := "a.cs"
  filePath := "/a.cs"
  dependencies := .ofList ["b", "a"]
  callSites := CallIndex.sampleHistory
  queries := [⟨.callArgument, "b", "select", .one⟩]

/-- Here the tie goes to the name that was called first. With room for all names, their numbers add up. -/
theorem ofFindings_sampleFindings :
    CallTally.counts (ofFindings .usual sampleFindings).topCalls =
      [(.ofString "b", 2), (.ofString "a", 2), (.ofString "c", 1)] ∧
    (ofFindings .usual sampleFindings).dependencies = [.ofString "a", .ofString "b"] ∧
    (∀ name ∈ sampleFindings.callSites.map CallSite.name,
      name ∈ (ofFindings .usual sampleFindings).topCalls.map CallTally.name) ∧
    ((ofFindings .usual sampleFindings).topCalls.map fun tally => tally.count.val).sum =
      (ofFindings .usual sampleFindings).callCount := by
  let names := CallIndex.sampleHistory.map CallSite.name
  have order : (CallTally.ranked (CallTally.ofNames names)).map CallTally.name =
      [.ofString "b", .ofString "a", .ofString "c"] :=
    eq_of_pairwise_strict ((CallTally.ranked_perm names).trans (by decide)) (CallTally.pairwise_ranked names)
      (by decide) fun _ _ => Leads.asymm Nat.lt_asymm
  have dependencies : (TextSet.ofList ["b", "a"]).toList = [.ofString "a", .ofString "b"] :=
    eq_of_pairwise_strict ((List.mergeSort_perm _ _).trans (by decide)) (TextSet.pairwise_toList _) (by decide)
      fun _ _ => Text.Before.asymm
  have counts : CallTally.counts (ofFindings .usual sampleFindings).topCalls =
      [(.ofString "b", 2), (.ofString "a", 2), (.ofString "c", 1)] := by
    refine (CallTally.counts_ranked names _).trans ?_
    rw [order]
    decide
  have top : (ofFindings .usual sampleFindings).topCalls.map CallTally.name =
      [.ofString "b", .ofString "a", .ofString "c"] := by
    simpa [CallTally.counts, Function.comp_def] using congrArg (List.map Prod.fst) counts
  have all : ∀ name ∈ sampleFindings.callSites.map CallSite.name,
      name ∈ (ofFindings .usual sampleFindings).topCalls.map CallTally.name := by
    rw [top]
    decide
  refine ⟨counts, dependencies, all, ?_⟩
  exact (ofFindings_lists_leaders .usual sampleFindings).2.2.1 all

end FileSummary
end SqlSurvey
