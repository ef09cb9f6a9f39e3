import Mathlib.Data.List.Basic
import Mathlib.Data.List.Induction
import SqlSurvey.Proofs.CallHistories

/-! # Indexes that are combined

Several indexes grow side by side, and one may take in the call sites of another. It takes them bucket by bucket,
not in the order in which the other received them. Its own buckets come out as if it had received the history of
the other behind its own. -/
namespace SqlSurvey

private theorem eraseDups_filter (names : List Text) (keeps : Text → Bool) :
    (names.filter keeps).eraseDups = names.eraseDups.filter keeps := by
  -- From the end, a name is kept or dropped on both sides alike.
  induction names using List.reverseRecOn with
  | nil => rfl
  | append_singleton names name ih =>
    have mem : ∀ other, other ∈ names.eraseDups.filter keeps ↔ other ∈ names.eraseDups ∧ keeps other = true :=
      fun other => List.mem_filter
    rw [List.filter_append, eraseDups_concat]
    cases kept : keeps name with
    | false =>
      rw [List.filter_cons_of_neg (by simp [kept]), List.filter_nil, List.append_nil, ih]
      split
      · rfl
      · simp [kept]
    | true =>
      rw [List.filter_cons_of_pos kept, List.filter_nil, eraseDups_concat, ih]
      by_cases known : name ∈ names.eraseDups
      · rw [if_pos known, if_pos ((mem name).2 ⟨known, kept⟩)]
      · rw [if_neg known, if_neg (fun inside => known ((mem name).1 inside).1), List.filter_append]
        simp [kept]

theorem namesOf_append (first second : List CallSite) : namesOf (first ++ second) =
    namesOf first ++ (namesOf second).filter fun name => !(first.map CallSite.name).contains name := by
  rw [namesOf, List.map_append, List.eraseDups_append, List.removeAll, eraseDups_filter]
  rfl

theorem sitesOf_append (first second : List CallSite) (name : Text) :
    sitesOf (first ++ second) name = sitesOf first name ++ sitesOf second name := List.filter_append ..

/-- The call sites of a history in the order of their groups. -/
def gathered (history : List CallSite) : List CallSite := (namesOf history).flatMap (sitesOf history)

private theorem flatMap_ite_eq {names : List Text} (distinct : names.Nodup) (name : Text) (sites : List CallSite) :
    (names.flatMap fun other => if other = name then sites else []) = if name ∈ names then sites else [] := by
  induction names with
  | nil => rfl
  | cons first names ih =>
    rw [List.nodup_cons] at distinct
    rw [List.flatMap_cons, ih distinct.2]
    by_cases same : first = name
    · subst same
      simp [distinct.1]
    · simp [same, Ne.symm same]

theorem sitesOf_gathered (history : List CallSite) (name : Text) :
    sitesOf (gathered history) name = sitesOf history name := by
  have block : ∀ other, sitesOf (sitesOf history other) name =
      if other = name then sitesOf history name else [] := by
    intro other
    by_cases same : other = name
    · subst same
      simp [sitesOf]
    · rw [if_neg same]
      refine List.filter_eq_nil_iff.2 ?_
      intro site inside named
      rw [sitesOf, List.mem_filter, decide_eq_true_eq] at inside
      rw [decide_eq_true_eq] at named
      exact same (inside.2.symm.trans named)
  calc sitesOf (gathered history) name
      = (namesOf history).flatMap fun other => sitesOf (sitesOf history other) name := List.filter_flatMap
    _ = if name ∈ namesOf history then sitesOf history name else [] := by
      rw [funext block, flatMap_ite_eq (nodup_namesOf history)]
    _ = sitesOf history name := by
      by_cases known : name ∈ namesOf history
      · rw [if_pos known]
      · rw [if_neg known, sitesOf_eq_nil known]

private theorem eraseDups_flatMap {names : List Text} {block : Text → List Text} (distinct : names.Nodup)
    (nonempty : ∀ name ∈ names, block name ≠ []) (same : ∀ name, ∀ other ∈ block name, other = name) :
    (names.flatMap block).eraseDups = names := by
  induction names with
  | nil => rfl
  | cons first names ih =>
    rw [List.nodup_cons] at distinct
    have once : (block first).eraseDups = [first] := by
      obtain ⟨head, tail, made⟩ := List.exists_cons_of_ne_nil (nonempty first List.mem_cons_self)
      have equal := same first
      rw [made] at equal ⊢
      obtain rfl := equal head List.mem_cons_self
      rw [List.eraseDups_cons, List.filter_eq_nil_iff.2, List.eraseDups_nil]
      intro other inside
      simp [equal other (List.mem_cons_of_mem _ inside)]
    have others : (names.flatMap block).removeAll (block first) = names.flatMap block := by
      refine List.filter_eq_self.2 ?_
      intro other inside
      obtain ⟨name, listed, inside⟩ := List.mem_flatMap.1 inside
      rw [Bool.not_eq_true', ← Bool.not_eq_true, List.elem_iff]
      intro again
      exact distinct.1 (same first other again ▸ same name other inside ▸ listed)
    rw [List.flatMap_cons, List.eraseDups_append, once, others,
      ih distinct.2 fun name listed => nonempty name (List.mem_cons_of_mem _ listed)]
    rfl

theorem namesOf_gathered (history : List CallSite) : namesOf (gathered history) = namesOf history := by
  rw [namesOf, gathered, List.map_flatMap]
  refine eraseDups_flatMap (nodup_namesOf history) ?_ ?_
  · intro name known
    obtain ⟨site, inside, named⟩ := mem_namesOf.1 known
    exact List.ne_nil_of_mem (List.mem_map.2 ⟨site, List.mem_filter.2 ⟨inside, by simp [named]⟩, rfl⟩)
  · intro name other inside
    obtain ⟨site, belongs, rfl⟩ := List.mem_map.1 inside
    simpa using (List.mem_filter.1 belongs).2

/-- Behind any history, the order of the groups does as well as the order of the history. -/
theorem groupsOf_append_gathered (first second : List CallSite) :
    groupsOf (first ++ gathered second) = groupsOf (first ++ second) := by
  have names : namesOf (first ++ gathered second) = namesOf (first ++ second) := by
    rw [namesOf_append, namesOf_append, namesOf_gathered]
  have sites : ∀ name, sitesOf (first ++ gathered second) name = sitesOf (first ++ second) name := by
    intro name
    rw [sitesOf_append, sitesOf_append, sitesOf_gathered]
  simp only [groupsOf, names, sites]

namespace CallIndex

def ofSites (sites : List CallSite) : CallIndex := empty.merge sites

/-- Merging sites into an index is the same as having seen them after its own. -/
theorem merge_ofSites (first second : List CallSite) :
    (ofSites first).merge second = ofSites (first ++ second) := List.foldl_append.symm

/-- An index holds nothing but its groups. -/
theorem groups_injective {index other : CallIndex} (same : index.groups = other.groups) : index = other := by
  have injective : Function.Injective fun bucket : Bucket => (bucket.name, bucket.sites) := by
    rintro ⟨name, first, others⟩ ⟨name', first', others'⟩ equal
    simpa [Bucket.sites] using equal
  cases index with
  | mk buckets =>
    cases other with
    | mk buckets' => exact congrArg mk (List.map_injective_iff.2 injective same)

/-- An index takes in another one as it would take in the history of the other. -/
theorem combine_ofSites (first second : List CallSite) :
    (ofSites first).combine (ofSites second) = ofSites (first ++ second) := by
  have blocks : (ofSites second).buckets.flatMap Bucket.sites = gathered second := by
    have groups : (ofSites second).groups = groupsOf second := groups_ofSites second
    have flattened := congrArg (List.flatMap Prod.snd) groups
    rwa [CallIndex.groups, groupsOf, List.flatMap_map, List.flatMap_map] at flattened
  have merged : (ofSites first).combine (ofSites second) = (ofSites first).merge (gathered second) := by
    rw [← blocks, combine, merge, List.foldl_flatMap]
    rfl
  refine groups_injective ?_
  rw [merged, merge_ofSites]
  exact (groups_ofSites _).trans ((groupsOf_append_gathered first second).trans (groups_ofSites _).symm)

/-- An index of a history: nothing in the index depends on anything but the history. -/
structure Gathers (history : List CallSite) (index : CallIndex) : Prop where
  determined : index = ofSites history
  names : index.buckets.map Bucket.name = (history.map CallSite.name).eraseDups
  sites : ∀ bucket ∈ index.buckets, bucket.sites = history.filter fun site => site.name = bucket.name
  nonempty : ∀ bucket ∈ index.buckets, bucket.sites ≠ []
  size : index.size = (history.map CallSite.name).eraseDups.length
  totalCalls : index.totalCalls = history.length

theorem gathers_ofSites (history : List CallSite) : Gathers history (ofSites history) where
  determined := rfl
  names := map_name_of_groups (groups_ofSites history)
  sites _ inside := sites_of_groups (groups_ofSites history) inside
  nonempty _ _ := List.cons_ne_nil _ _
  size := size_of_groups (groups_ofSites history)
  totalCalls := by
    rw [ofSites, totalCalls_merge]
    exact Nat.zero_add _

end CallIndex

/-- An operation on indexes that are kept under keys. No index is combined with itself. -/
inductive IndexOperation (κ : Type) where
  | add (on : κ) (site : CallSite)
  | merge (on : κ) (sites : List CallSite)
  | mergeFindings (on : κ) (findings : FileFindings)
  | combine (on other : κ) (apart : on ≠ other)

namespace IndexOperation

variable {κ : Type} [DecidableEq κ]

def apply (indexes : κ → CallIndex) : IndexOperation κ → κ → CallIndex
  | add on site => Function.update indexes on ((indexes on).add site)
  | merge on sites => Function.update indexes on ((indexes on).merge sites)
  | mergeFindings on findings => Function.update indexes on ((indexes on).mergeFindings findings)
  | combine on other _ => Function.update indexes on ((indexes on).combine (indexes other))

/-- The histories with the call sites that the operation hands over. -/
def record (histories : κ → List CallSite) : IndexOperation κ → κ → List CallSite
  | add on site => Function.update histories on (histories on ++ [site])
  | merge on sites => Function.update histories on (histories on ++ sites)
  | mergeFindings on findings => Function.update histories on (histories on ++ findings.callSites)
  | combine on other _ => Function.update histories on (histories on ++ histories other)

def indexesAfter (operations : List (IndexOperation κ)) : κ → CallIndex :=
  operations.foldl apply fun _ => .empty

def historiesAfter (operations : List (IndexOperation κ)) : κ → List CallSite :=
  operations.foldl record fun _ => []

/-- One operation on indexes of histories gives indexes of the histories that record it. -/
private theorem apply_ofSites (histories : κ → List CallSite) (operation : IndexOperation κ) :
    apply (fun key => .ofSites (histories key)) operation =
      fun key => .ofSites (record histories operation key) := by
  have update : ∀ on (index : CallIndex) sites, index = .ofSites sites →
      Function.update (fun key => CallIndex.ofSites (histories key)) on index =
        fun key => .ofSites (Function.update histories on sites key) := by
    intro on index sites same
    funext key
    by_cases here : key = on
    · subst here
      simp [same]
    · simp [here]
  cases operation with
  | add on site => exact update on _ _ (CallIndex.merge_ofSites _ [site])
  | merge on sites => exact update on _ _ (CallIndex.merge_ofSites _ sites)
  | mergeFindings on findings => exact update on _ _ (CallIndex.merge_ofSites _ findings.callSites)
  | combine on other apart => exact update on _ _ (CallIndex.combine_ofSites _ _)

private theorem foldl_apply_ofSites (operations : List (IndexOperation κ)) (histories : κ → List CallSite) :
    operations.foldl apply (fun key => .ofSites (histories key)) =
      fun key => .ofSites (operations.foldl record histories key) := by
  induction operations generalizing histories with
  | nil => rfl
  | cons operation operations ih => rw [List.foldl_cons, List.foldl_cons, apply_ofSites, ih]

/-- After any operations each index is what its history alone would have made. -/
theorem indexesAfter_eq (operations : List (IndexOperation κ)) (key : κ) :
    indexesAfter operations key = .ofSites (historiesAfter operations key) :=
  congrFun (foldl_apply_ofSites operations fun _ => []) key

/-- Whatever was done to the indexes, each of them gathers its history. To combine two indexes leaves the second
as it is, and it puts their histories one behind the other: it is associative, and the empty index is neutral. -/
theorem indexesAfter_gathers_histories (operations : List (IndexOperation κ)) :
    (∀ key, (indexesAfter operations key).Gathers (historiesAfter operations key)) ∧
    (∀ on other apart, indexesAfter (operations ++ [combine on other apart]) other = indexesAfter operations other) ∧
    ∀ first second third : List CallSite,
      (CallIndex.ofSites first).combine (.ofSites second) = .ofSites (first ++ second) ∧
      ((CallIndex.ofSites first).combine (.ofSites second)).combine (.ofSites third) =
        (CallIndex.ofSites first).combine ((CallIndex.ofSites second).combine (.ofSites third)) ∧
      CallIndex.empty.combine (.ofSites first) = .ofSites first ∧
      (CallIndex.ofSites first).combine .empty = .ofSites first := by
  refine ⟨?_, ?_, ?_⟩
  · intro key
    rw [indexesAfter_eq]
    exact CallIndex.gathers_ofSites _
  · intro on other apart
    rw [indexesAfter, List.foldl_append]
    exact Function.update_of_ne apart.symm _ _
  · intro first second third
    have neutral : CallIndex.empty = .ofSites [] := rfl
    refine ⟨CallIndex.combine_ofSites first second, ?_, ?_, ?_⟩
    · simp only [CallIndex.combine_ofSites, List.append_assoc]
    · rw [neutral, CallIndex.combine_ofSites, List.nil_append]
    · rw [neutral, CallIndex.combine_ofSites, List.append_nil]

def sampleSite (name : Text) (line : Nat) : CallSite := ⟨name, "a.cs", "/a.cs", ⟨line + 1, Nat.le_add_left 1 line⟩⟩

/-- The first index has a call of `g` when it takes in calls of `f`, `g` and `f`. -/
def sampleOperations : List (IndexOperation Bool) :=
  [.add false (sampleSite "f" 1), .add true (sampleSite "g" 0), .merge false [sampleSite "g" 2, sampleSite "f" 3],
    .combine true false (by decide), .add false (sampleSite "h" 4)]

theorem sample_gathers_interleaved :
    (indexesAfter sampleOperations true).groups =
      [(.ofString "g", [sampleSite "g" 0, sampleSite "g" 2]), (.ofString "f", [sampleSite "f" 1, sampleSite "f" 3])] ∧
    (indexesAfter sampleOperations true).Gathers
      [sampleSite "g" 0, sampleSite "f" 1, sampleSite "g" 2, sampleSite "f" 3] ∧
    indexesAfter (sampleOperations ++ [.combine true false (by decide)]) false = indexesAfter sampleOperations false :=
  ⟨by decide, (indexesAfter_gathers_histories sampleOperations).1 true,
    (indexesAfter_gathers_histories sampleOperations).2.1 true false (by decide)⟩

end IndexOperation
end SqlSurvey
