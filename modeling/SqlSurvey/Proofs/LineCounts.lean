import SqlSurvey.LineTables

/-! # Lines count line breaks

The bisection of any table, in any order, ends between two starts: the one before that place is not behind the
offset, and the one at that place is. The starts that are not behind an offset come from the line breaks before it,
so the bisection counts these line breaks. -/
namespace SqlSurvey

/-- What the bisection knows of its two bounds: the start before the lower bound is not behind the offset, and the
start at the upper bound is. -/
structure Brackets (starts : Array Int) (offset : Int) (low high : Nat) : Prop where
  ordered : low ≤ high
  before : ∀ line, line + 1 = low → starts.getD line 0 ≤ offset
  behind : high < starts.size → offset < starts.getD high 0

namespace Brackets

variable {starts : Array Int} {offset : Int} {low high : Nat}

theorem whole (starts : Array Int) (offset : Int) : Brackets starts offset 0 starts.size where
  ordered := Nat.zero_le _
  before line next := absurd next (Nat.succ_ne_zero line)
  behind inside := absurd inside (Nat.lt_irrefl _)

/-- The invariant of the bisection when it goes on in the lower half. -/
theorem lower_half (h : Brackets starts offset low high) (range : low < high)
    (early : offset < starts.getD ((low + high) / 2) 0) : Brackets starts offset low ((low + high) / 2) where
  ordered := by omega
  before := h.before
  behind _ := early

/-- The invariant of the bisection when it goes on in the upper half. -/
theorem upper_half (h : Brackets starts offset low high) (range : low < high)
    (late : ¬ offset < starts.getD ((low + high) / 2) 0) : Brackets starts offset ((low + high) / 2 + 1) high where
  ordered := by omega
  before line next := by
    obtain rfl : line = (low + high) / 2 := Nat.succ.inj next
    exact Int.not_lt.1 late
  behind := h.behind

/-- The bounds meet at a place that is not behind the upper bound. -/
theorem bisect_meet (h : Brackets starts offset low high) :
    Brackets starts offset (bisect starts offset low high) (bisect starts offset low high) ∧
      bisect starts offset low high ≤ high := by
  fun_induction bisect starts offset low high with
  | case1 low high range early ih =>
    obtain ⟨meet, bound⟩ := ih (h.lower_half range early)
    exact ⟨meet, by omega⟩
  | case2 low high range late ih => exact ih (h.upper_half range late)
  | case3 low high range =>
    obtain rfl : low = high := Nat.le_antisymm h.ordered (Nat.le_of_not_lt range)
    exact ⟨h, Nat.le_refl _⟩

end Brackets

theorem bisect_append {front back : List Int} {offset : Int} (before : ∀ start ∈ front, start ≤ offset)
    (behind : ∀ start ∈ back, offset < start) :
    bisect (front ++ back).toArray offset 0 (front ++ back).toArray.size = front.length := by
  obtain ⟨meet, bound⟩ := (Brackets.whole (front ++ back).toArray offset).bisect_meet
  generalize bisect (front ++ back).toArray offset 0 (front ++ back).toArray.size = place at meet bound
  rw [List.size_toArray, List.length_append] at bound
  apply Nat.le_antisymm
  · apply Nat.le_of_not_lt
    intro past
    have inside : place - 1 - front.length < back.length := by omega
    have found : (front ++ back).toArray.getD (place - 1) 0 = back.get ⟨_, inside⟩ := by
      have later : front.length ≤ place - 1 := by omega
      simp [Array.getD_eq_getD_getElem?, List.getElem?_append_right later, inside]
    have early := meet.before (place - 1) (by omega)
    have late := behind _ (List.get_mem back ⟨_, inside⟩)
    omega
  · apply Nat.le_of_not_lt
    intro inside
    have found : (front ++ back).toArray.getD place 0 = front.get ⟨_, inside⟩ := by
      simp [Array.getD_eq_getD_getElem?, List.getElem?_append_left inside, inside]
    have late := meet.behind (by rw [List.size_toArray, List.length_append]; omega)
    have early := before _ (List.get_mem front ⟨_, inside⟩)
    omega

theorem startsAfterBreaks_append (position : Nat) (first second : Bytes) :
    startsAfterBreaks position (first ++ second) =
      startsAfterBreaks position first ++ startsAfterBreaks (position + first.length) second := by
  induction first generalizing position with
  | nil => rfl
  | cons byte first ih =>
    have next : position + 1 + first.length = position + (byte :: first).length := by
      rw [List.length_cons]
      omega
    simp only [List.cons_append, startsAfterBreaks, ih, next]
    split <;> rfl

theorem length_startsAfterBreaks (position : Nat) (bytes : Bytes) :
    (startsAfterBreaks position bytes).length = bytes.count 0x0A := by
  induction bytes generalizing position with
  | nil => rfl
  | cons byte bytes ih =>
    rw [startsAfterBreaks]
    by_cases breaks : byte = 0x0A
    · rw [if_pos breaks, List.length_cons, ih, breaks, List.count_cons_self]
    · rw [if_neg breaks, ih, List.count_cons_of_ne breaks]

theorem bounds_of_mem_startsAfterBreaks {position : Nat} {bytes : Bytes} {start : Int}
    (h : start ∈ startsAfterBreaks position bytes) : position < start ∧ start ≤ position + bytes.length := by
  induction bytes generalizing position with
  | nil => exact absurd h List.not_mem_nil
  | cons byte bytes ih =>
    have later : start ∈ startsAfterBreaks (position + 1) bytes →
        position < start ∧ start ≤ position + (byte :: bytes).length := by
      intro inside
      have bounds := ih inside
      rw [List.length_cons]
      omega
    rw [startsAfterBreaks] at h
    split at h
    · rcases List.mem_cons.1 h with rfl | inside
      · rw [List.length_cons]
        omega
      · exact later inside
    · exact later h

namespace SourceTree

variable (root : Node) (source : Bytes)

/-- The line of an offset is the number of line breaks before it. -/
theorem lineAt_ofSource (offset : Nat) :
    (ofSource root source).lineAt offset = ((source.take offset).count 0x0A : Nat) := by
  have parts : startsOf source =
      ((0 :: startsAfterBreaks 0 (source.take offset)) ++
        startsAfterBreaks (source.take offset).length (source.drop offset)).toArray := by
    have split := startsAfterBreaks_append 0 (source.take offset) (source.drop offset)
    rw [List.take_append_drop, Nat.zero_add] at split
    rw [startsOf, split]
    rfl
  have before : ∀ start ∈ 0 :: startsAfterBreaks 0 (source.take offset), start ≤ (offset : Int) := by
    intro start inside
    rcases List.mem_cons.1 inside with rfl | inside
    · omega
    · have bounds := bounds_of_mem_startsAfterBreaks inside
      rw [List.length_take] at bounds
      omega
  have behind : ∀ start ∈ startsAfterBreaks (source.take offset).length (source.drop offset),
      (offset : Int) < start := by
    intro start inside
    have bounds := bounds_of_mem_startsAfterBreaks inside
    -- Nothing is left behind an offset past the end.
    rw [List.length_take, List.length_drop] at bounds
    omega
  have place := bisect_append before behind
  rw [← parts, List.length_cons, length_startsAfterBreaks] at place
  rw [lineAt, ofSource, place]
  omega

theorem lineAt_ofSource_nonneg {offset : Int} (h : 0 ≤ offset) : 0 ≤ (ofSource root source).lineAt offset := by
  obtain ⟨n, rfl⟩ := Int.eq_ofNat_of_zero_le h
  rw [lineAt_ofSource]
  exact Int.natCast_nonneg _

theorem lineAt_ofSource_mono {first second : Int} (h : 0 ≤ first) (le : first ≤ second) :
    (ofSource root source).lineAt first ≤ (ofSource root source).lineAt second := by
  obtain ⟨n, rfl⟩ := Int.eq_ofNat_of_zero_le h
  obtain ⟨m, rfl⟩ := Int.eq_ofNat_of_zero_le (Int.le_trans h le)
  rw [lineAt_ofSource, lineAt_ofSource]
  have early : (source.take n).Sublist (source.take m) := (List.take_prefix_take_left (by omega)).sublist
  exact Int.ofNat_le.2 (early.count_le 0x0A)

/-- An offset behind other bytes is as many lines further down as these have line breaks. -/
theorem lineAt_ofSource_append (root' : Node) (front : Bytes) {offset : Int} (h : 0 ≤ offset) :
    (ofSource root' (front ++ source)).lineAt (offset + front.length) =
      (ofSource root source).lineAt offset + front.count 0x0A := by
  obtain ⟨n, rfl⟩ := Int.eq_ofNat_of_zero_le h
  have counted : ((front ++ source).take (front.length + n)).count 0x0A =
      front.count 0x0A + (source.take n).count 0x0A := by
    rw [List.take_length_add_append, List.count_append]
  rw [← Int.natCast_add, Nat.add_comm n, lineAt_ofSource, lineAt_ofSource, counted]
  omega

end SourceTree
end SqlSurvey
