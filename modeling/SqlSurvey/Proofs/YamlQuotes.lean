import SqlSurvey.Proofs.YamlPlainTexts

/-! # Quoted scalars read back

A text between single quotes is read run by run, as a plain one. Between double quotes a character stands for itself or
behind a backslash, and a backslash at the end of a line hides the break: the text is recovered character by character,
and each one leaves the reader in a state in which the next may come. -/
namespace SqlSurvey.Yaml

/-! ### Single quotes -/

theorem startsMarker_cons {c : CodePoint} (separated : separates c) (rest : Text) :
    startsMarker (c :: rest) = false := by
  have other : ∀ d, separates d = false → (d == c) = false := by
    intro d joined
    rw [beq_eq_false_iff_ne]
    rintro rfl
    simp [joined] at separated
  have dash := other (.char '-') (by decide)
  have dot := other (.char '.') (by decide)
  simp [startsMarker, Text.ofString, List.isPrefixOf, dash, dot]

theorem startsMarker_spaces {indent : Nat} (positive : 0 < indent) (rest : Text) :
    startsMarker (spaces indent ++ rest) = false := by
  cases indent with
  | zero => exact absurd positive (by simp)
  | succ indent => exact startsMarker_cons rfl _

/-- What a run between single quotes is read as. A next-line character in front is taken for the fold: alone it is read
as a space, and before other breaks it is dropped. -/
def seenRun (run : Text) : Text :=
  if run.head? = some (.char '\u0085') then
    if run.tail.isEmpty then [.char ' '] else run.tail.map seenAs
  else run.map seenAs

def seenQuoted (text : Text) : Text := (runs text).flatMap seenRun

theorem seenRun_of_not_mem {run : Text} (absent : .char '\u0085' ∉ run) : seenRun run = run := by
  have other : run.head? ≠ some (.char '\u0085') := fun starts => absent (List.mem_of_head? starts)
  rw [seenRun, if_neg other, map_seenAs absent]

theorem not_mem_seenRun (run : Text) : .char '\u0085' ∉ seenRun run := by
  have mapped : ∀ text : Text, .char '\u0085' ∉ text.map seenAs := by
    intro text inside
    obtain ⟨c, -, same⟩ := List.mem_map.1 inside
    exact seenAs_ne c same
  unfold seenRun
  split
  · split
    · decide
    · exact mapped run.tail
  · exact mapped run

section SingleQuotes

variable {indent : Nat} {gap : Gap} {run rest tail : Text}

private theorem hasNeighbours_append {first second : CodePoint → Bool}
    (apart : hasNeighbours first second (run ++ rest) = false) :
    hasNeighbours first second rest = false ∧
      ∀ nonempty : run ≠ [], first (run.getLast nonempty) → rest.head?.any second = false := by
  induction run with
  | nil => exact ⟨apart, fun nonempty => absurd rfl nonempty⟩
  | cons c run ih =>
    cases run with
    | nil =>
      cases rest with
      | nil => exact ⟨rfl, fun _ _ => rfl⟩
      | cons d rest =>
        rw [List.singleton_append, hasNeighbours, Bool.or_eq_false_iff] at apart
        exact ⟨apart.2, fun _ holds => by simp_all⟩
    | cons d run =>
      rw [List.cons_append, List.cons_append, hasNeighbours, Bool.or_eq_false_iff] at apart
      obtain ⟨later, ending⟩ := ih apart.2
      exact ⟨later, fun _ => by simpa using ending (List.cons_ne_nil d run)⟩

private theorem ne_quote_of_separates {c : CodePoint} (separated : separates c) : c ≠ .char '\'' := by
  rintro rfl
  simp [separates, isSpace, isBreak] at separated

theorem isBlank_of_isBreak {c : CodePoint} (breaks : isBreak c) : isBlank c = false := by
  simp only [isBreak, Bool.or_eq_true, beq_iff_eq] at breaks
  rcases breaks with ((rfl | rfl) | rfl) | rfl <;> rfl

private theorem readSingle_cons {c : CodePoint} (other : c ≠ .char '\'') :
    readSingle gap (c :: rest) =
      if isBlank c then readSingle (gap.addBlank c) rest
      else if isBreak c then if startsMarker rest then none else readSingle (gap.addBreak c) rest
      else prepend (gap.text ++ [c]) (readSingle .none rest) := by
  rw [readSingle.eq_def]
  exact if_neg other

private theorem readSingle_close (other : tail.head? ≠ some (.char '\'')) :
    readSingle gap (.char '\'' :: tail) = some (gap.text, tail) := by
  rw [readSingle, if_pos rfl]
  rintro rest rfl
  exact other rfl

private theorem readSingle_break {c : CodePoint} (breaks : isBreak c) (unmarked : startsMarker rest = false) :
    readSingle gap (c :: rest) = readSingle (gap.addBreak c) rest := by
  rw [readSingle_cons (ne_quote_of_separates (separates_of_isBreak breaks)), isBlank_of_isBreak breaks,
    if_neg (by simp), if_pos breaks, unmarked, if_neg (by simp)]

private theorem readSingle_blank {c : CodePoint} (blank : isSpace c) :
    readSingle gap (c :: rest) = readSingle (gap.addBlank c) rest := by
  rw [readSingle_cons (ne_quote_of_separates (separates_of_isSpace blank)), isBlank, blank, if_pos (by simp)]

private theorem readSingle_blanks (blank : ∀ c ∈ run, isSpace c) (nonempty : run ≠ []) :
    readSingle .none (run ++ rest) = readSingle (.blanks run) rest := by
  have onward : ∀ held run : Text, (∀ c ∈ run, isSpace c) →
      readSingle (.blanks held) (run ++ rest) = readSingle (.blanks (held ++ run)) rest := by
    intro held run
    induction run generalizing held with
    | nil => simp
    | cons c run ih =>
      intro blank
      rw [List.forall_mem_cons] at blank
      rw [List.cons_append, readSingle_blank blank.1, Gap.addBlank, ih _ blank.2, List.append_assoc]
      rfl
  obtain ⟨c, run, rfl⟩ := List.exists_cons_of_ne_nil nonempty
  rw [List.forall_mem_cons] at blank
  rw [List.cons_append, readSingle_blank blank.1, Gap.addBlank, onward _ _ blank.2]
  rfl

private theorem startsMarker_breaks (positive : 0 < indent) (breaks : ∀ c ∈ run, isBreak c) :
    startsMarker (run ++ spaces indent ++ rest) = false := by
  cases run with
  | nil => exact startsMarker_spaces positive rest
  | cons c run => exact startsMarker_cons (separates_of_isBreak (breaks c List.mem_cons_self)) _

private theorem readSingle_lines {first : CodePoint} {more : Text} (positive : 0 < indent)
    (breaks : ∀ c ∈ run, isBreak c) :
    readSingle (.lines first more) (run ++ spaces indent ++ rest) =
      readSingle (.lines first (more ++ run)) rest := by
  induction run generalizing more with
  | nil =>
    rw [List.nil_append, List.append_nil, spaces]
    clear positive
    induction indent with
    | zero => rfl
    | succ indent ih => rwa [List.replicate_succ, List.cons_append, readSingle_blank rfl]
  | cons c run ih =>
    rw [List.forall_mem_cons] at breaks
    rw [List.cons_append, List.cons_append, readSingle_break breaks.1 (startsMarker_breaks positive breaks.2),
      Gap.addBreak, ih breaks.2, List.append_assoc]
    rfl

private theorem readSingle_breaks {c : CodePoint} (positive : 0 < indent) (breaks : ∀ d ∈ c :: run, isBreak d) :
    readSingle .none (c :: run ++ spaces indent ++ rest) = readSingle (.lines c run) rest := by
  rw [List.forall_mem_cons] at breaks
  rw [List.cons_append, List.cons_append, readSingle_break breaks.1 (startsMarker_breaks positive breaks.2),
    Gap.addBreak, readSingle_lines positive breaks.2, List.nil_append]

private theorem readSingle_newLine (positive : 0 < indent) :
    readSingle .none (newLine indent ++ rest) = readSingle (.lines (.char '\n') []) rest := by
  have breaks : ∀ c ∈ [CodePoint.char '\n'], isBreak c := by simp [isBreak]
  exact readSingle_breaks positive breaks

/-- A run of breaks is held as it is seen: a line feed in front is written twice, and one of the two is the fold. A
next-line character in front is not, and is the fold itself. -/
private theorem readSingle_quotedBreaks (positive : 0 < indent) (nonempty : run ≠ []) (breaks : ∀ c ∈ run, isBreak c) :
    ∃ gap : Gap, gap.text = seenRun run ∧
      ∀ rest, readSingle .none ((quotedBreaks indent run).map seenAs ++ rest) = readSingle gap rest := by
  obtain ⟨c, run, rfl⟩ := List.exists_cons_of_ne_nil nonempty
  have blank : (List.replicate indent (CodePoint.char ' ')).map seenAs = spaces indent := List.map_replicate
  have seen : ∀ c ∈ run.map seenAs, isBreak c := by
    intro d inside
    obtain ⟨e, written, rfl⟩ := List.mem_map.1 inside
    rw [isBreak_seenAs]
    exact breaks e (List.mem_cons_of_mem c written)
  rw [quotedBreaks, List.head?_cons, List.map_append, List.map_append, blank, List.map_cons]
  by_cases feed : c = .char '\n'
  · subst feed
    rw [if_pos rfl]
    refine ⟨.lines (.char '\n') (.char '\n' :: run.map seenAs), rfl, fun rest => ?_⟩
    exact readSingle_breaks positive (List.forall_mem_cons.2 ⟨rfl, List.forall_mem_cons.2 ⟨rfl, seen⟩⟩)
  · rw [if_neg (by simpa using feed)]
    refine ⟨.lines (seenAs c) (run.map seenAs), ?_, fun rest =>
      readSingle_breaks positive (List.forall_mem_cons.2 ⟨?_, seen⟩)⟩
    · by_cases next : c = .char '\u0085'
      · subst next
        cases run <;> rfl
      · have itself : seenAs c = c := if_neg next
        rw [seenRun, List.head?_cons, if_neg (by simpa using next), List.map_cons, itself, Gap.text, if_pos feed]
    · rw [isBreak_seenAs]
      exact breaks c List.mem_cons_self

private theorem readSingle_word (nonempty : run ≠ []) (word : ∀ c ∈ run, isBlank c = false ∧ isBreak c = false) :
    readSingle gap (run.flatMap (fun c => if c = .char '\'' then [c, c] else [c]) ++ rest) =
      prepend (gap.text ++ run) (readSingle .none rest) := by
  induction run generalizing gap with
  | nil => exact absurd rfl nonempty
  | cons c run ih =>
    rw [List.forall_mem_cons] at word
    have step : ∀ rest, readSingle gap ((if c = .char '\'' then [c, c] else [c]) ++ rest) =
        prepend (gap.text ++ [c]) (readSingle .none rest) := by
      intro rest
      by_cases quote : c = .char '\''
      · subst quote
        rfl
      · rw [if_neg quote, List.singleton_append, readSingle_cons quote, word.1.1, if_neg (by simp), word.1.2,
          if_neg (by simp)]
    rw [List.flatMap_cons, List.append_assoc, step]
    cases run with
    | nil => rfl
    | cons d run =>
      rw [ih (List.cons_ne_nil d run) word.2, prepend_prepend, List.append_assoc]
      rfl

private theorem word_follows {kind : Kind} {pieces : List Text} (later : Runs (some kind) pieces) {c : CodePoint}
    (last : kindOf c = kind) (after : isBreak c → pieces.flatten.head?.any isSpace = false)
    (ahead : isSpace c → pieces.flatten.head?.any isBreak = false) (other : kind ≠ .word) :
    ∀ d ∈ pieces.flatten.head?, kindOf d = .word := by
  intro d starts
  have differs := later.kindOf_head_ne starts
  rw [Option.mem_def.1 starts, Option.any_some] at after ahead
  cases kind with
  | word => exact absurd rfl other
  | space =>
    cases head : kindOf d with
    | word => rfl
    | space => exact absurd head differs
    | lineBreak => simp [isBreak_of_kindOf head, isSpace_of_kindOf last] at ahead
  | lineBreak =>
    cases head : kindOf d with
    | word => rfl
    | space => simp [isSpace_of_kindOf head, isBreak_of_kindOf last] at after
    | lineBreak => exact absurd head differs

/-- One run is read as it is seen: what is held before it comes out with a word, and is nothing otherwise. -/
private theorem readSingle_run {start : Nat} {first : Bool} {kind : Kind} {pieces : List Text} (positive : 0 < indent)
    (nonempty : run ≠ []) (uniform : ∀ c ∈ run, kindOf c = kind) (known : ∀ c ∈ run, c ≠ .char '\t')
    (unheld : kind ≠ .word → gap = .none) :
    ∃ written column front next, singleQuotedRuns indent first start (run :: pieces) =
        written ++ singleQuotedRuns indent false column pieces ∧
      front ++ Gap.text next = gap.text ++ seenRun run ∧ (kind = .word → next = .none) ∧
      ∀ rest, readSingle gap (written.map seenAs ++ rest) = prepend front (readSingle next rest) := by
  have absent : kind ≠ .lineBreak → .char '\u0085' ∉ run := by
    intro other inside
    cases not_isBreak_of_kindOf (uniform _ inside) other
  rw [singleQuotedRuns]
  cases kind with
  | lineBreak =>
    have breaks : ∀ c ∈ run, isBreak c := fun c inside => isBreak_of_kindOf (uniform c inside)
    have some : run.any isBreak :=
      List.any_eq_true.2 ⟨_, List.getLast_mem nonempty, breaks _ (List.getLast_mem nonempty)⟩
    obtain rfl := unheld (by decide)
    obtain ⟨next, meant, reads⟩ := readSingle_quotedBreaks positive nonempty breaks
    rw [if_pos some]
    exact ⟨_, _, [], next, rfl, meant, by simp, fun rest => (reads rest).trans (prepend_nil _).symm⟩
  | space =>
    have blank : ∀ c ∈ run, isSpace c := fun c inside => isSpace_of_kindOf (uniform c inside)
    have single : run.flatMap (fun c => if c = .char '\'' then [c, c] else [c]) = run := by
      rw [List.flatMap_congr fun c inside => if_neg (ne_quote_of_separates (separates_of_isSpace (blank c inside)))]
      exact List.flatMap_singleton' run
    obtain rfl := unheld (by decide)
    rw [any_isBreak_of_uniform uniform (by decide), if_neg (by simp), single, seenRun_of_not_mem (absent (by decide))]
    split
    next folded =>
      have written : (newLine indent).map seenAs = newLine indent := congrArg (List.cons _) List.map_replicate
      simp only [foldsAt, Bool.and_eq_true, beq_iff_eq] at folded
      refine ⟨_, _, [], .lines (.char '\n') [], rfl, ?_, by simp, fun rest => ?_⟩
      · rw [folded.1.1.1]
        rfl
      · rw [written, readSingle_newLine positive, prepend_nil]
    next =>
      refine ⟨_, _, [], .blanks run, rfl, rfl, by simp, fun rest => ?_⟩
      rw [map_seenAs (absent (by decide)), readSingle_blanks blank nonempty, prepend_nil]
  | word =>
    have plain : ∀ c ∈ run, isBlank c = false ∧ isBreak c = false := by
      intro c inside
      have notSpace := not_isSpace_of_kindOf (uniform c inside) (by decide)
      exact ⟨by simp [isBlank, notSpace, known c inside], not_isBreak_of_kindOf (uniform c inside) (by decide)⟩
    have doubled : .char '\u0085' ∉ run.flatMap (fun c => if c = .char '\'' then [c, c] else [c]) := by
      intro inside
      obtain ⟨c, written, same⟩ := List.mem_flatMap.1 inside
      obtain rfl : .char '\u0085' = c := by
        split at same <;> simpa using same
      exact absent (by decide) written
    rw [any_isBreak_of_uniform uniform (by decide), if_neg (by simp), foldsAt_of_uniform start uniform (by decide),
      if_neg (by simp), seenRun_of_not_mem (absent (by decide))]
    refine ⟨_, _, gap.text ++ run, .none, rfl, List.append_nil _, fun _ => rfl, fun rest => ?_⟩
    rw [map_seenAs doubled, readSingle_word nonempty plain]

/-- A scalar between single quotes is read run by run. Behind a run of spaces or of breaks the reader holds the run, and
no other run of spaces or of breaks follows. -/
private theorem readSingle_runs {start : Nat} {first : Bool} {before : Option Kind} {pieces : List Text}
    (positive : 0 < indent) (closing : tail.head? ≠ some (.char '\'')) (shape : Runs before pieces)
    (known : ∀ c ∈ pieces.flatten, c ≠ .char '\t') (after : spaceAfterBreak pieces.flatten = false)
    (ahead : spaceBeforeBreak pieces.flatten = false)
    (held : gap = .none ∨ ∀ c ∈ pieces.flatten.head?, kindOf c = .word) :
    readSingle gap ((singleQuotedRuns indent first start pieces).map seenAs ++ .char '\'' :: tail) =
      some (gap.text ++ pieces.flatMap seenRun, tail) := by
  induction shape generalizing gap start first with
  | nil => simp [singleQuotedRuns, readSingle_close closing]
  | @cons before kind run pieces nonempty uniform differs later ih =>
    rw [List.flatten_cons] at known after ahead held
    rw [List.forall_mem_append] at known
    obtain ⟨afterLater, afterRun⟩ := hasNeighbours_append after
    obtain ⟨aheadLater, aheadRun⟩ := hasNeighbours_append ahead
    have unheld : kind ≠ .word → gap = .none := by
      intro other
      refine held.resolve_right fun word => other ?_
      obtain ⟨c, run, rfl⟩ := List.exists_cons_of_ne_nil nonempty
      rw [← uniform c List.mem_cons_self]
      exact word c rfl
    obtain ⟨written, column, front, next, splits, meant, free, reads⟩ :=
      readSingle_run positive nonempty uniform known.1 unheld
    have heldNext : next = .none ∨ ∀ c ∈ pieces.flatten.head?, kindOf c = .word := by
      by_cases word : kind = .word
      · exact .inl (free word)
      · exact .inr (word_follows later (uniform _ (List.getLast_mem nonempty)) (afterRun nonempty) (aheadRun nonempty)
          word)
    rw [splits, List.map_append, List.append_assoc, reads, ih known.2 afterLater aheadLater heldNext, prepend_some,
      ← List.append_assoc, meant, List.append_assoc, List.flatMap_cons]

theorem readSingle_singleQuoted {start : Nat} {text : Text} (allowed : allowsSingleQuotes text) (positive : 0 < indent)
    (closing : tail.head? ≠ some (.char '\'')) :
    readSingle .none ((singleQuotedRuns indent true start (runs text)).map seenAs ++ .char '\'' :: tail) =
      some (seenQuoted text, tail) := by
  simp only [allowsSingleQuotes, Bool.not_eq_true', Bool.or_eq_false_iff] at allowed
  obtain ⟨⟨after, ahead⟩, special⟩ := allowed
  have known : ∀ c ∈ text, c ≠ .char '\t' := by
    rintro c inside rfl
    exact List.any_eq_false.1 special _ inside (by decide)
  have flat := flatten_runs text
  exact readSingle_runs positive closing (runs_spec text) (by rwa [flat]) (by rwa [flat]) (by rwa [flat]) (.inl rfl)

end SingleQuotes

/-! ### Escapes -/

section Escapes

variable {rest : Text}

private theorem hexValue_upper :
    ∀ d < 16, (CodePoint.char d.digitChar.toUpper).hexValue? = some d := by decide

private theorem readDouble_code {digits : List Nat} {value : Nat} {c : CodePoint} (below : ∀ d ∈ digits, d < 16)
    (nonempty : digits ≠ []) (spells : digits.foldl (fun n d => n * 16 + d) value = c.toNat) :
    readDouble (.code digits.length value) (digits.map (fun d => .char d.digitChar.toUpper) ++ rest) =
      prepend [c] (readDouble (.within .none) rest) := by
  induction digits generalizing value with
  | nil => exact absurd rfl nonempty
  | cons d digits ih =>
    rw [List.forall_mem_cons] at below
    rw [List.map_cons, List.cons_append, readDouble, hexValue_upper d below.1]
    cases digits with
    | nil =>
      have known : CodePoint.ofNat? (value * 16 + d) = some c := by
        rw [show value * 16 + d = c.toNat from spells, CodePoint.ofNat?_toNat]
      simp [known]
    | cons e digits =>
      have more : (d :: e :: digits).length ≠ 1 := by simp
      simp only [if_neg more]
      exact ih below.2 (List.cons_ne_nil e digits) spells

/-- The number of a character behind its letter is read as the character. -/
private theorem readDouble_number {letter : CodePoint} {length : Nat} {c : CodePoint} (positive : 0 < length)
    (unmeant : escapes.lookup letter = none) (measured : codeLengths.lookup letter = some length)
    (notBreak : isBreak letter = false) (fits : c.toNat < 16 ^ length) :
    readDouble .escape (letter :: upperHex length c.toNat ++ rest) = prepend [c] (readDouble (.within .none) rest) := by
  obtain ⟨digits, written, count, below, spells⟩ := Text.exists_spelling_ofHex positive fits
  have upper : upperHex length c.toNat = digits.map fun d => .char d.digitChar.toUpper := by
    rw [upperHex, written, List.map_map]
    rfl
  rw [List.cons_append, readDouble, notBreak, if_neg (by simp), unmeant, measured, upper]
  subst count
  exact readDouble_code below (List.ne_nil_of_length_pos positive) spells

private theorem escapes_of_mem : ∀ pair ∈ escapeLetters,
    escapes.lookup (.char pair.2) = some pair.1 ∧ isBreak (.char pair.2) = false := by decide

theorem readDouble_escapeBody (c : CodePoint) :
    readDouble .escape (escapeBody c ++ rest) = prepend [c] (readDouble (.within .none) rest) := by
  unfold escapeBody
  split
  next letter found =>
    obtain ⟨front, back, table, -⟩ := List.lookup_eq_some_iff.1 found
    have listed : (c, letter) ∈ escapeLetters := by
      rw [table]
      exact List.mem_append_right front List.mem_cons_self
    obtain ⟨meant, notBreak⟩ := escapes_of_mem (c, letter) listed
    rw [List.singleton_append, readDouble, notBreak, if_neg (by simp), meant]
  next =>
    split
    next small => exact readDouble_number (by decide) (by decide) (by decide) (by decide) (by omega)
    next =>
      split
      next small => exact readDouble_number (by decide) (by decide) (by decide) (by decide) (by omega)
      next => exact readDouble_number (by decide) (by decide) (by decide) (by decide) (by have := c.toNat_lt; omega)

end Escapes

/-! ### States of the reader -/

namespace QuoteState

/-- What is held for the text. -/
def held : QuoteState → Text
  | within gap => gap.text
  | escape | code _ _ => []

/-- Whether a text may come next: behind a hidden break a space would be lost, and behind a backslash nothing but a
space stands for itself. -/
def Takes (text : Text) : QuoteState → Prop
  | within .none | within (.blanks _) => True
  | within (.escaped more) => more = [] ∧ text.head? ≠ some (.char ' ')
  | escape => text.head? = some (.char ' ')
  | within (.lines _ _) | code _ _ => False

/-- The state behind a fold before a text. -/
def afterFold (text : Text) : QuoteState :=
  if text.head? = some (.char ' ') then escape else within (.escaped [])

theorem takes_afterFold (text : Text) : (afterFold text).Takes text := by
  unfold afterFold
  split
  next space => exact space
  next other => exact ⟨rfl, other⟩

theorem held_afterFold (text : Text) : (afterFold text).held = [] := by
  unfold afterFold
  split <;> rfl

end QuoteState

section Quotes

variable {indent column : Nat} {state : QuoteState} {gap : Gap} {text rest tail : Text} {c : CodePoint}

private theorem ne_of_not_needsEscape {d : CodePoint} (itself : needsEscape c = false) (other : needsEscape d) :
    c ≠ d := by
  rintro rfl
  simp [itself] at other

private theorem readDouble_itself (itself : needsEscape c = false) (notSpace : isSpace c = false) :
    readDouble (.within gap) (c :: rest) = prepend (gap.text ++ [c]) (readDouble (.within .none) rest) := by
  have other : ∀ d, needsEscape d → (c == d) = false := fun d special =>
    beq_eq_false_iff_ne.2 (ne_of_not_needsEscape itself special)
  have notBlank : isBlank c = false := by
    rw [isBlank, notSpace, other (.char '\t') (by decide)]
    rfl
  have notBreak : isBreak c = false := by
    rw [isBreak, other (.char '\n') (by decide), other (.char '\u0085') (by decide),
      other (.char '\u2028') (by decide), other (.char '\u2029') (by decide)]
    rfl
  rw [readDouble, if_neg (ne_of_not_needsEscape itself rfl), if_neg (ne_of_not_needsEscape itself rfl), notBlank,
    if_neg (by simp), notBreak, if_neg (by simp)]

/-- A character that stands for itself is read in every state that takes it. -/
private theorem readDouble_step (itself : needsEscape c = false) (ready : state.Takes (c :: text)) :
    ∃ front next, front ++ QuoteState.held next = state.held ++ [c] ∧ (∀ text, QuoteState.Takes text next) ∧
      next ≠ .escape ∧ ∀ rest, readDouble state (c :: rest) = prepend front (readDouble next rest) := by
  cases space : isSpace c with
  | true =>
    obtain rfl : c = .char ' ' := by simpa [isSpace] using space
    cases state with
    | escape => exact ⟨[.char ' '], .within .none, rfl, fun _ => trivial, by simp, fun _ => rfl⟩
    | code left value => exact ready.elim
    | within gap =>
      refine ⟨[], .within (gap.addBlank (.char ' ')), ?_, ?_, by simp, fun rest => (prepend_nil _).symm⟩
      all_goals
        cases gap with
        | none => intros; trivial
        | blanks held => intros; trivial
        | lines first more => exact ready.elim
        | escaped more => exact absurd rfl ready.2
  | false =>
    cases state with
    | escape =>
      obtain rfl : c = .char ' ' := by simpa [QuoteState.Takes] using ready
      cases space
    | code left value => exact ready.elim
    | within gap =>
      exact ⟨gap.text ++ [c], .within .none, by simp [QuoteState.held, Gap.text], fun _ => trivial, by simp,
        fun rest => readDouble_itself itself space⟩

private theorem readDouble_spaces (count : Nat) :
    readDouble (.within (.escaped [])) (spaces count ++ rest) = readDouble (.within (.escaped [])) rest := by
  induction count with
  | zero => rfl
  | succ count ih => exact ih

private theorem readDouble_escapedFold (positive : 0 < indent) :
    readDouble (.within gap) (escapedFold indent text ++ rest) =
      prepend gap.text (readDouble (.afterFold text) rest) := by
  have hidden : ∀ rest, readDouble (.within gap) (.char '\\' :: newLine indent ++ rest) =
      prepend gap.text (readDouble (.within (.escaped [])) rest) := by
    intro rest
    rw [← readDouble_spaces indent]
    have step : readDouble .escape (.char '\n' :: (spaces indent ++ rest)) =
        readDouble (.within (.escaped [])) (spaces indent ++ rest) := by
      rw [readDouble, if_pos (show isBreak (.char '\n') from rfl), startsMarker_spaces positive, if_neg (by simp)]
    exact congrArg (prepend gap.text) step
  rw [escapedFold, List.append_assoc, hidden, QuoteState.afterFold]
  split
  · exact congrArg (prepend gap.text) (prepend_nil _)
  · rfl

/-- The text between double quotes is read character by character. Behind a backslash the line must have room for a
space, since the fold before it would otherwise come between the two. -/
private theorem readDouble_from {first fresh : Bool} (positive : 0 < indent) (room : indent < width)
    (ready : state.Takes text) (roomy : state = .escape → column ≤ width) :
    readDouble state (doubleQuotedFrom indent first fresh column text ++ .char '"' :: tail) =
      some (state.held ++ text, tail) := by
  induction text generalizing state first fresh column with
  | nil =>
    cases state with
    | within gap => simp [doubleQuotedFrom, readDouble, QuoteState.held]
    | escape => cases ready
    | code left value => exact ready.elim
  | cons c text ih =>
    have fits : ∀ text, columnAfterFold indent text ≤ width := by
      intro text
      unfold columnAfterFold
      split <;> omega
    rw [doubleQuotedFrom]
    split
    next special =>
      -- Behind a backslash only a space is taken, and it has no escape.
      obtain ⟨gap, rfl⟩ : ∃ gap, state = .within gap := by
        cases state with
        | within gap => exact ⟨gap, rfl⟩
        | escape =>
          obtain rfl : c = .char ' ' := by simpa [QuoteState.Takes] using ready
          cases special
        | code left value => exact ready.elim
      have step : ∀ rest, readDouble (.within gap) (.char '\\' :: escapeBody c ++ rest) =
          prepend (gap.text ++ [c]) (readDouble (.within .none) rest) := by
        intro rest
        rw [← prepend_prepend, ← readDouble_escapeBody c]
        rfl
      dsimp only
      split
      next =>
        rw [List.append_assoc, List.append_assoc, step, readDouble_escapedFold positive,
          ih (QuoteState.takes_afterFold text) (fun _ => fits text), QuoteState.held_afterFold]
        simp [QuoteState.held, Gap.text]
      next =>
        have takes : QuoteState.Takes text (.within .none) := trivial
        rw [List.append_assoc, step, ih takes (by simp)]
        simp [QuoteState.held, Gap.text]
    next itself =>
      rw [Bool.not_eq_true] at itself
      split
      next folded =>
        simp only [Bool.and_eq_true, decide_eq_true_eq] at folded
        obtain ⟨gap, rfl⟩ : ∃ gap, state = .within gap := by
          cases state with
          | within gap => exact ⟨gap, rfl⟩
          | escape => exact absurd (roomy rfl) (by omega)
          | code left value => exact ready.elim
        obtain ⟨front, next, meant, takes, other, reads⟩ :=
          readDouble_step itself (QuoteState.takes_afterFold (c :: text))
        rw [List.append_assoc, readDouble_escapedFold positive, List.cons_append, reads,
          ih (takes text) (fun behind => absurd behind other), prepend_some, prepend_some, ← List.append_assoc front,
          meant, QuoteState.held_afterFold]
        simp [QuoteState.held]
      next =>
        obtain ⟨front, next, meant, takes, other, reads⟩ := readDouble_step itself ready
        rw [List.cons_append, reads, ih (takes text) (fun behind => absurd behind other), prepend_some,
          ← List.append_assoc, meant, List.append_assoc]
        rfl

/-- Between double quotes every text is read back. -/
theorem readDouble_doubleQuoted (positive : 0 < indent) (room : indent < width) :
    readDouble (.within .none) (doubleQuotedFrom indent true true column text ++ .char '"' :: tail) =
      some (text, tail) :=
  readDouble_from positive room trivial (by simp)

end Quotes

end SqlSurvey.Yaml
