import SqlSurvey.Proofs.WrittenLiterals

/-! # Raw literals over several lines

The lines of a raw literal stand between its opening and its closing line, each behind the indentation of the closing
quotes. This layout is no part of the value: the value has the lines alone, joined by line feeds, and a line of blanks
counts as empty. -/
namespace SqlSurvey

namespace Text

theorem splitOn_append_cons {separator : CodePoint} {part : Text} (clean : separator ∉ part) (rest : Text) :
    splitOn separator (part ++ separator :: rest) = part :: splitOn separator rest := by
  induction part with
  | nil => simp [splitOn]
  | cons c part ih =>
    rw [List.mem_cons, not_or] at clean
    rw [List.cons_append, splitOn, if_neg (Ne.symm clean.1), ih clean.2]

theorem splitOn_of_not_mem {separator : CodePoint} {part : Text} (clean : separator ∉ part) :
    splitOn separator part = [part] := by
  induction part with
  | nil => rfl
  | cons c part ih =>
    rw [List.mem_cons, not_or] at clean
    rw [splitOn, if_neg (Ne.symm clean.1), ih clean.2]

/-- Parts that are each closed by the separator are found again, with what is behind the last one. -/
theorem splitOn_flatMap {separator : CodePoint} {parts : List Text} {last : Text}
    (clean : ∀ part ∈ parts, separator ∉ part) (unclosed : separator ∉ last) :
    splitOn separator ((parts.flatMap fun part => part ++ [separator]) ++ last) = parts ++ [last] := by
  induction parts with
  | nil => exact splitOn_of_not_mem unclosed
  | cons part parts ih =>
    have others := ih fun other inside => clean other (List.mem_cons_of_mem part inside)
    rw [List.flatMap_cons, List.append_assoc, List.append_assoc, List.singleton_append,
      splitOn_append_cons (clean part List.mem_cons_self), others, List.cons_append]

theorem withoutStart_append (start text : Text) : withoutStart start (start ++ text) = text := by
  have starts : start.isPrefixOf (start ++ text) := by simp
  rw [withoutStart, if_pos starts, List.drop_left]

theorem withoutEnd_singleton_of_ne {c : CodePoint} {text : Text} (other : text.getLast? ≠ some c) :
    withoutEnd [c] text = text := by
  rw [withoutEnd, if_neg]
  intro ends
  obtain ⟨before, rfl⟩ := List.isSuffixOf_iff_suffix.1 ends
  exact other List.getLast?_concat

theorem joinWith_eq_intercalate (separator : Text) (parts : List Text) :
    joinWith separator parts = separator.intercalate parts := by
  induction parts with
  | nil => rfl
  | cons part parts ih =>
    cases parts with
    | nil => simp [joinWith]
    | cons next others =>
      rw [joinWith, ih, List.intercalate_cons_cons]
      exact List.cons_ne_nil next others

end Text

inductive LineEnding where
  | feed
  | carriageFeed
deriving DecidableEq

namespace LineEnding

/-- What a line ending has before its line feed. -/
def carriage : LineEnding → Text
  | feed => []
  | carriageFeed => [.char '\r']

def text (ending : LineEnding) : Text := ending.carriage ++ [.char '\n']

end LineEnding

/-- Spaces and tabs. -/
def Text.IsMargin (text : Text) : Prop := ∀ c ∈ text, c = .char ' ' ∨ c = .char '\t'

instance (text : Text) : Decidable text.IsMargin :=
  inferInstanceAs (Decidable (∀ c ∈ text, c = .char ' ' ∨ c = .char '\t'))

/-- All of a raw literal over several lines but the lines: the length of its two runs of quotes, what stands behind the
first run, what stands before the second one and before each line, and the line ending. -/
structure RawLayout where
  quotes : Nat
  opening : Text
  indentation : Text
  ending : LineEnding
  one_le_quotes : 1 ≤ quotes
  opening_isMargin : opening.IsMargin
  indentation_isMargin : indentation.IsMargin

namespace RawLayout

def write (layout : RawLayout) (lines : List Text) : Text :=
  List.replicate layout.quotes (.char '"') ++ layout.opening ++ layout.ending.text ++
    (lines.flatMap fun line => layout.indentation ++ line ++ layout.ending.text) ++
    layout.indentation ++ List.replicate layout.quotes (.char '"')

/-- The lines of a literal as they stand between its runs of quotes, each without the line feed that closes it. -/
def closedLines (layout : RawLayout) (lines : List Text) : List Text :=
  (layout.opening :: lines.map (layout.indentation ++ ·)).map (· ++ layout.ending.carriage)

def body (layout : RawLayout) (lines : List Text) : Text :=
  ((layout.closedLines lines).flatMap fun line => line ++ [.char '\n']) ++ layout.indentation

section

variable (layout : RawLayout) {lines : List Text}

private theorem write_eq (lines : List Text) : layout.write lines =
    List.replicate layout.quotes (.char '"') ++ layout.body lines ++ List.replicate layout.quotes (.char '"') := by
  simp [write, body, closedLines, LineEnding.text, List.flatMap_map, Function.comp_def]

private theorem not_mem_of_isMargin {text : Text} (margin : text.IsMargin) {c : CodePoint} (space : c ≠ .char ' ')
    (tab : c ≠ .char '\t') : c ∉ text := by
  intro inside
  rcases margin c inside with same | same
  · exact space same
  · exact tab same

private theorem head?_body : (layout.body lines).head? ≠ some (.char '"') := by
  have start : layout.opening ++ layout.ending.text <+: layout.body lines := by
    rw [body, closedLines, List.map_cons, List.flatMap_cons, List.append_assoc layout.opening]
    exact (List.prefix_append _ _).trans (List.prefix_append _ _)
  have unquoted : .char '"' ∉ layout.opening ++ layout.ending.text := by
    rw [List.mem_append, not_or]
    refine ⟨not_mem_of_isMargin layout.opening_isMargin (by decide) (by decide), ?_⟩
    cases layout.ending <;> decide
  have nonempty : layout.opening ++ layout.ending.text ≠ [] := by simp [LineEnding.text]
  obtain ⟨c, front, opens⟩ := List.exists_cons_of_ne_nil nonempty
  obtain ⟨rest, same⟩ := start
  rw [← same, opens, List.cons_append, List.head?_cons]
  rintro ⟨⟩
  exact unquoted (opens ▸ List.mem_cons_self)

/-- Cut at its line feeds, the body falls into the opening line, the lines, and the indentation. -/
private theorem splitOn_body (clean : ∀ line ∈ lines, .char '\n' ∉ line) :
    Text.splitOn (.char '\n') (layout.body lines) = layout.closedLines lines ++ [layout.indentation] := by
  have margin {text : Text} (h : text.IsMargin) : .char '\n' ∉ text :=
    not_mem_of_isMargin h (by decide) (by decide)
  have carriage : .char '\n' ∉ layout.ending.carriage := by
    cases layout.ending <;> decide
  apply Text.splitOn_flatMap
  · intro line closed
    obtain ⟨content, inside, rfl⟩ := List.mem_map.1 closed
    rw [List.mem_append, not_or]
    refine ⟨?_, carriage⟩
    rcases List.mem_cons.1 inside with rfl | inside
    · exact margin layout.opening_isMargin
    · obtain ⟨line, listed, rfl⟩ := List.mem_map.1 inside
      rw [List.mem_append, not_or]
      exact ⟨margin layout.indentation_isMargin, clean line listed⟩
  · exact margin layout.indentation_isMargin

private theorem withoutEnd_carriage {ending : LineEnding} {line : Text}
    (kept : ending = .feed → line.getLast? ≠ some (.char '\r')) :
    Text.withoutEnd [.char '\r'] (line ++ ending.carriage) = line := by
  cases ending with
  | feed => rw [LineEnding.carriage, List.append_nil, Text.withoutEnd_singleton_of_ne (kept rfl)]
  | carriageFeed => exact Text.withoutEnd_append _ _

private theorem getLast?_of_isMargin {text : Text} (margin : text.IsMargin) : text.getLast? ≠ some (.char '\r') := by
  intro last
  exact not_mem_of_isMargin margin (by decide) (by decide) (List.mem_of_getLast? last)

private theorem getLast?_indented {line : Text} (kept : line.getLast? ≠ some (.char '\r')) :
    (layout.indentation ++ line).getLast? ≠ some (.char '\r') := by
  rw [List.getLast?_append]
  intro last
  rcases Option.or_eq_some_iff.1 last with last | ⟨-, last⟩
  · exact kept last
  · exact getLast?_of_isMargin layout.indentation_isMargin last

private theorem map_withoutEnd_closedLines
    (kept : layout.ending = .feed → ∀ line ∈ lines, line.getLast? ≠ some (.char '\r')) :
    (layout.closedLines lines).map (Text.withoutEnd [.char '\r']) =
      layout.opening :: lines.map (layout.indentation ++ ·) := by
  rw [closedLines, List.map_map]
  refine (List.map_congr_left ?_).trans (List.map_id _)
  intro content inside
  apply withoutEnd_carriage
  intro feed
  rcases List.mem_cons.1 inside with rfl | inside
  · exact getLast?_of_isMargin layout.opening_isMargin
  · obtain ⟨line, listed, rfl⟩ := List.mem_map.1 inside
    exact layout.getLast?_indented (kept feed line listed)

private theorem rawLine_indented (line : Text) :
    LiteralForm.rawLine layout.indentation (layout.indentation ++ line) =
      if line.all isBlank then [] else line := by
  have blank : layout.indentation.all isBlank := by
    rw [List.all_eq_true]
    intro c inside
    rcases layout.indentation_isMargin c inside with rfl | rfl <;> decide
  rw [LiteralForm.rawLine, Text.isBlank, List.all_append, blank, Bool.true_and, Text.withoutStart_append]

/-- The first line is dropped and the last one is the indentation of those between. -/
private theorem rawLines_between (first last : Text) (lines : List Text) :
    LiteralForm.rawLines (first :: lines ++ [last]) =
      Text.joinWith [.char '\n'] (lines.map (LiteralForm.rawLine last)) := by
  have closing : (first :: lines ++ [last]).getLastD [] = last := List.getLastD_concat
  have middle : ((first :: lines ++ [last]).drop 1).dropLast = lines := List.dropLast_concat
  rw [LiteralForm.rawLines, closing, middle]

end

/-- A raw literal over several lines denotes its lines: the opening line, the indentation and the closing line are
gone, and a line of blanks is empty. Quotes, blanks and carriage returns inside a line stay. -/
theorem rawValue_write (layout : RawLayout) {lines : List Text} (clean : ∀ line ∈ lines, .char '\n' ∉ line)
    (kept : layout.ending = .feed → ∀ line ∈ lines, line.getLast? ≠ some (.char '\r')) :
    LiteralForm.rawValue (layout.write lines) =
      [.char '\n'].intercalate (lines.map fun line => if line.all isBlank then [] else line) := by
  have feed : (layout.body lines).contains (.char '\n') := by simp [body, closedLines]
  have nonempty : layout.body lines ≠ [] := by simp [body, closedLines]
  have indentation : Text.withoutEnd [.char '\r'] layout.indentation = layout.indentation :=
    Text.withoutEnd_singleton_of_ne (getLast?_of_isMargin layout.indentation_isMargin)
  rw [write_eq, LiteralForm.rawValue_quoted layout.one_le_quotes nonempty layout.head?_body, if_pos feed,
    layout.splitOn_body clean, List.map_append, layout.map_withoutEnd_closedLines kept, List.map_singleton,
    indentation, rawLines_between, List.map_map, Text.joinWith_eq_intercalate]
  exact congrArg _ (List.map_congr_left fun line _ => layout.rawLine_indented line)

def sampleLayout : RawLayout where
  quotes := 3
  opening := " "
  indentation := "\t "
  ending := .carriageFeed
  one_le_quotes := by decide
  opening_isMargin := by decide
  indentation_isMargin := by decide

/-- More quotes than around the literal, a line of blanks, and a line that is indented further and ends in a carriage
return of its own. -/
def sampleLines : List Text := ["\"\"\"\"\\", "\u00a0\t", "", "  a\rb\r"]

/-- With line feeds alone, the last line would lose its carriage return, so it is left out there. -/
theorem rawValue_sampleLayout :
    ((∀ line ∈ sampleLines, .char '\n' ∉ line) ∧
      LiteralForm.rawValue (sampleLayout.write sampleLines) = .ofString "\"\"\"\"\\\n\n\n  a\rb\r") ∧
    (∀ line ∈ sampleLines.dropLast, line.getLast? ≠ some (.char '\r')) ∧
      LiteralForm.rawValue ({ sampleLayout with ending := .feed }.write sampleLines.dropLast) =
        .ofString "\"\"\"\"\\\n\n" := by
  have clean : ∀ line ∈ sampleLines, .char '\n' ∉ line := by decide
  have kept : ∀ line ∈ sampleLines.dropLast, line.getLast? ≠ some (.char '\r') := by decide
  refine ⟨⟨clean, ?_⟩, kept, ?_⟩
  · rw [rawValue_write sampleLayout clean (by decide)]
    decide
  · rw [rawValue_write _ (fun line inside => clean line (List.dropLast_subset _ inside)) fun _ => kept]
    decide

end RawLayout
end SqlSurvey
