import Mathlib.Data.List.Basic
import SqlSurvey.Proofs.LineCounts

/-! # Every offset is on one line

The bisection finds a line of an offset in any table: the offset is not before its start, and it is before the next
start. The starts of a source increase, so the offset has no other line. -/
namespace SqlSurvey

/-- The starts are one behind the places of the line feeds. -/
theorem startsAfterBreaks_eq_map (position : Nat) (bytes : Bytes) :
    startsAfterBreaks position bytes =
      (bytes.idxsOf 0x0A position).map fun place => ((place + 1 : Nat) : Int) := by
  induction bytes generalizing position with
  | nil => rfl
  | cons byte bytes ih =>
    rw [startsAfterBreaks, List.idxsOf_cons]
    by_cases breaks : byte = 0x0A
    · rw [if_pos breaks, if_pos (beq_iff_eq.2 breaks), List.map_cons, ih]
    · rw [if_neg breaks, if_neg (mt beq_iff_eq.1 breaks), ih]

namespace SourceTree

/-- The offset is not before the start of this line, and before the start of the next, if there is a next line. -/
def OnLine (tree : SourceTree) (line : Nat) (offset : Int) : Prop :=
  ∃ start ∈ tree.lineStarts[line]?, start ≤ offset ∧
    (line + 1 = tree.lineStarts.size ∨ ∃ next ∈ tree.lineStarts[line + 1]?, offset < next)

section Tables

variable {tree : SourceTree} {offset : Int}

private theorem getD_of_mem {starts : Array Int} {line : Nat} {start : Int} (h : start ∈ starts[line]?) :
    starts.getD line 0 = start := by
  rw [Array.getD_eq_getD_getElem?, h]
  rfl

/-- The bisection finds a line of the offset in any table whose first start is not behind it. -/
theorem exists_onLine {start : Int} (first : start ∈ tree.lineStarts[0]?) (le : start ≤ offset) :
    ∃ line : Nat, tree.lineAt offset = line ∧ tree.OnLine line offset := by
  obtain ⟨meet, bound⟩ := (Brackets.whole tree.lineStarts offset).bisect_meet
  rw [lineAt]
  cases place : bisect tree.lineStarts offset 0 tree.lineStarts.size with
  | zero =>
    rw [place] at meet
    have late := meet.behind (Array.getElem?_eq_some_iff.1 first).1
    rw [getD_of_mem first] at late
    omega
  | succ line =>
    rw [place] at meet bound
    have known : tree.lineStarts[line] ∈ tree.lineStarts[line]? := Array.getElem?_eq_getElem bound
    refine ⟨line, by omega, tree.lineStarts[line], known, ?_, ?_⟩
    · rw [← getD_of_mem known]
      exact meet.before line rfl
    · rcases Nat.eq_or_lt_of_le bound with last | next
      · exact Or.inl last
      · have following : tree.lineStarts[line + 1] ∈ tree.lineStarts[line + 1]? := Array.getElem?_eq_getElem next
        refine Or.inr ⟨tree.lineStarts[line + 1], following, ?_⟩
        rw [← getD_of_mem following]
        exact meet.behind next

-- The start of a later line is no earlier than the start of the next line, which is behind the offset.
private theorem OnLine.not_later (increasing : tree.lineStarts.toList.Pairwise (· < ·)) {line other : Nat}
    (h : tree.OnLine line offset) (h' : tree.OnLine other offset) : ¬ line < other := by
  intro later
  obtain ⟨start, found, before, -⟩ := h'
  obtain ⟨inside, rfl⟩ := Array.getElem?_eq_some_iff.1 found
  obtain ⟨-, -, -, last | ⟨next, following, behind⟩⟩ := h
  · omega
  · obtain ⟨insideNext, rfl⟩ := Array.getElem?_eq_some_iff.1 following
    rcases Nat.eq_or_lt_of_le later with rfl | later
    · exact absurd before (Int.not_le.2 behind)
    · have apart := List.pairwise_iff_getElem.1 increasing (line + 1) other insideNext inside later
      rw [Array.getElem_toList, Array.getElem_toList] at apart
      omega

/-- An offset lies on one line only. -/
theorem OnLine.unique (increasing : tree.lineStarts.toList.Pairwise (· < ·)) {line other : Nat}
    (h : tree.OnLine line offset) (h' : tree.OnLine other offset) : other = line :=
  Nat.le_antisymm (Nat.le_of_not_lt (h.not_later increasing h')) (Nat.le_of_not_lt (h'.not_later increasing h))

end Tables

variable (root : Node) (source : Bytes)

theorem lineStarts_ofSource : (ofSource root source).lineStarts.toList =
    0 :: (source.idxsOf 0x0A).map fun place => ((place + 1 : Nat) : Int) := by
  rw [← startsAfterBreaks_eq_map]
  rfl

theorem increasing_ofSource : (ofSource root source).lineStarts.toList.Pairwise (· < ·) := by
  rw [lineStarts_ofSource, List.pairwise_cons, List.pairwise_map]
  constructor
  · intro start inside
    obtain ⟨place, -, rfl⟩ := List.mem_map.1 inside
    omega
  · apply List.pairwise_idxsOf.imp
    intro first second apart
    omega

theorem lineAt_ofSource_of_neg {offset : Int} (h : offset < 0) : (ofSource root source).lineAt offset = -1 := by
  have behind : ∀ start ∈ 0 :: startsAfterBreaks 0 source, offset < start := by
    intro start inside
    rcases List.mem_cons.1 inside with rfl | inside
    · exact h
    · have bounds := bounds_of_mem_startsAfterBreaks inside
      omega
  have place : bisect (startsOf source) offset 0 (startsOf source).size = 0 :=
    bisect_append (fun _ inside => absurd inside List.not_mem_nil) behind
  rw [lineAt, ofSource, place]
  rfl

/-- No line is below -1, whatever the table. -/
theorem neg_one_le_lineAt (tree : SourceTree) (offset : Int) : -1 ≤ tree.lineAt offset := by
  rw [lineAt]
  omega

/-- The table of a source holds its beginning and the place after each line break, in increasing order. By it, the
line of an offset is the number of line breaks before the offset, or -1 before the source. It never goes back as the
offset grows, and no other line of the table has the offset between its start and the next. -/
theorem lineAt_ofSource_exact (root : Node) (source : Bytes) :
    (ofSource root source).lineStarts.toList =
        0 :: (source.idxsOf 0x0A).map (fun place => ((place + 1 : Nat) : Int)) ∧
      (ofSource root source).lineStarts.toList.Pairwise (· < ·) ∧
      (∀ offset : Int, (ofSource root source).lineAt offset =
        if 0 ≤ offset then (((source.take offset.toNat).count 0x0A : Nat) : Int) else -1) ∧
      (∀ first second : Int, first ≤ second →
        (ofSource root source).lineAt first ≤ (ofSource root source).lineAt second) ∧
      ∀ offset : Int, 0 ≤ offset → ∃ line : Nat, (ofSource root source).lineAt offset = line ∧
        (ofSource root source).OnLine line offset ∧
          ∀ other, (ofSource root source).OnLine other offset → other = line := by
  have increasing := increasing_ofSource root source
  refine ⟨lineStarts_ofSource root source, increasing, ?_, ?_, ?_⟩
  · intro offset
    by_cases inside : 0 ≤ offset
    · obtain ⟨n, rfl⟩ := Int.eq_ofNat_of_zero_le inside
      rw [if_pos inside, Int.toNat_natCast, lineAt_ofSource]
    · rw [if_neg inside]
      exact lineAt_ofSource_of_neg root source (Int.not_le.1 inside)
  · intro first second le
    by_cases inside : 0 ≤ first
    · exact lineAt_ofSource_mono root source inside le
    · rw [lineAt_ofSource_of_neg root source (Int.not_le.1 inside)]
      exact neg_one_le_lineAt _ second
  · intro offset inside
    -- The first start of a source is zero.
    have first : (0 : Int) ∈ (ofSource root source).lineStarts[0]? := rfl
    obtain ⟨line, found, here⟩ := exists_onLine first inside
    refine ⟨line, found, here, ?_⟩
    intro other there
    exact here.unique increasing there

def sampleBreaks : Bytes := Utf8.encodeChars "a\n\nb\n".toList

theorem lineAt_sampleBreaks :
    (ofSource default sampleBreaks).lineStarts.toList = [0, 2, 3, 5] ∧
      (ofSource default sampleBreaks).lineAt (-1) = -1 ∧ (ofSource default sampleBreaks).lineAt 1 = 0 ∧
      (ofSource default sampleBreaks).lineAt 2 = 1 ∧ (ofSource default sampleBreaks).lineAt 5 = 3 ∧
      (ofSource default sampleBreaks).lineAt 9 = 3 ∧
      (ofSource default sampleBreaks).lineAt (-1) ≤ (ofSource default sampleBreaks).lineAt 2 ∧
      (ofSource default sampleBreaks).OnLine 1 2 ∧
        ∀ other, (ofSource default sampleBreaks).OnLine other 2 → other = 1 := by
  obtain ⟨starts, -, counts, mono, lines⟩ := lineAt_ofSource_exact default sampleBreaks
  have second : (ofSource default sampleBreaks).lineAt 2 = 1 := counts 2
  obtain ⟨line, found, here, unique⟩ := lines 2 (by decide)
  obtain rfl : line = 1 := by omega
  exact ⟨starts, counts (-1), counts 1, second, counts 5, counts 9, mono (-1) 2 (by decide), here, unique⟩

end SourceTree
end SqlSurvey
