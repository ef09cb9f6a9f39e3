import SqlSurvey.Proofs.FittingTexts
import SqlSurvey.Proofs.YamlReading

/-! # Plain scalars read back

A text is written in runs of spaces, of breaks and of other characters. A reader that has come to the end of a run
holds what the run stands for, so that a text without quotes is recovered run by run. It is not taken for anything but
a text. -/
namespace SqlSurvey.Yaml

/-! ### Runs -/

inductive Kind where
  | space
  | lineBreak
  | word
deriving DecidableEq

def kindOf (c : CodePoint) : Kind := if isSpace c then .space else if isBreak c then .lineBreak else .word

/-- Runs of one kind each, of which no two neighbours are of one kind; `before` is the kind of the run before. -/
inductive Runs : Option Kind → List Text → Prop
  | nil {before : Option Kind} : Runs before []
  | cons {before : Option Kind} {kind : Kind} {run : Text} {rest : List Text} (nonempty : run ≠ [])
      (uniform : ∀ c ∈ run, kindOf c = kind) (differs : before ≠ some kind) (later : Runs (some kind) rest) :
      Runs before (run :: rest)

theorem isBreak_of_isSpace {c : CodePoint} (h : isSpace c) : isBreak c = false := by
  rw [isSpace, beq_iff_eq] at h
  rw [h]
  rfl

theorem isSpace_of_kindOf {c : CodePoint} (h : kindOf c = .space) : isSpace c := by
  unfold kindOf at h
  split at h
  · assumption
  · split at h <;> cases h

theorem isBreak_of_kindOf {c : CodePoint} (h : kindOf c = .lineBreak) : isBreak c := by
  unfold kindOf at h
  split at h
  · cases h
  · split at h
    · assumption
    · cases h

theorem not_isSpace_of_kindOf {c : CodePoint} {kind : Kind} (h : kindOf c = kind) (other : kind ≠ .space) :
    isSpace c = false := by
  subst h
  cases space : isSpace c with
  | true => simp [kindOf, space] at other
  | false => rfl

theorem not_isBreak_of_kindOf {c : CodePoint} {kind : Kind} (h : kindOf c = kind) (other : kind ≠ .lineBreak) :
    isBreak c = false := by
  subst h
  cases lineBreak : isBreak c with
  | true =>
    cases space : isSpace c with
    | true => exact absurd (isBreak_of_isSpace space) (by simp [lineBreak])
    | false => simp [kindOf, space, lineBreak] at other
  | false => rfl

private def sameRun (a b : CodePoint) : Bool := isSpace a == isSpace b && isBreak a == isBreak b

private theorem kindOf_eq_iff (a b : CodePoint) : kindOf a = kindOf b ↔ sameRun a b := by
  unfold kindOf sameRun
  cases spaceA : isSpace a with
  | true =>
    rw [isBreak_of_isSpace spaceA]
    cases spaceB : isSpace b with
    | true => simp [isBreak_of_isSpace spaceB]
    | false => cases isBreak b <;> simp
  | false =>
    cases spaceB : isSpace b with
    | true => cases isBreak a <;> simp
    | false => cases isBreak a <;> cases isBreak b <;> simp

private theorem uniform_of_isChain {run : Text} {c : CodePoint} (chain : (c :: run).IsChain fun a b => sameRun a b) :
    ∀ d ∈ c :: run, kindOf d = kindOf c := by
  induction run generalizing c with
  | nil => simp
  | cons d run ih =>
    rw [List.isChain_cons_cons] at chain
    have same := (kindOf_eq_iff c d).2 chain.1
    intro e inside
    rcases List.mem_cons.1 inside with rfl | inside
    · rfl
    · rw [ih chain.2 e inside, same]

private theorem runs_of_chains {before : Option Kind} {pieces : List Text}
    (uniform : ∀ run ∈ pieces, run ≠ [] ∧ run.IsChain fun a b => sameRun a b)
    (apart : pieces.IsChain fun a b => ∃ ha hb, sameRun (a.getLast ha) (b.head hb) = false)
    (first : ∀ run ∈ pieces.head?, ∀ c ∈ run.head?, before ≠ some (kindOf c)) : Runs before pieces := by
  induction pieces generalizing before with
  | nil => exact .nil
  | cons run pieces ih =>
    rw [List.forall_mem_cons] at uniform
    obtain ⟨⟨nonempty, chain⟩, later⟩ := uniform
    obtain ⟨c, run, rfl⟩ := List.exists_cons_of_ne_nil nonempty
    have kinds := uniform_of_isChain chain
    refine .cons nonempty kinds (first _ rfl c rfl) (ih later (List.IsChain.tail apart) ?_)
    intro next following d starts same
    obtain ⟨others, rfl⟩ : ∃ others, pieces = next :: others := List.head?_eq_some_iff.1 following
    obtain ⟨ends, begins, differ⟩ := (List.isChain_cons_cons.1 apart).1
    have last := kinds _ (List.getLast_mem ends)
    have head : next.head begins = d := List.head_eq_iff_head?_eq_some begins |>.2 starts
    rw [head, ← Bool.not_eq_true, ← kindOf_eq_iff, last] at differ
    exact differ (Option.some.inj same)

theorem runs_spec (text : Text) : Runs none (runs text) :=
  runs_of_chains (fun _ inside => ⟨List.ne_nil_of_mem_splitBy inside, List.isChain_of_mem_splitBy inside⟩)
    (List.isChain_getLast_head_splitBy sameRun text) (by simp)

theorem foldsAt_of_uniform {run : Text} {kind : Kind} (column : Nat) (uniform : ∀ c ∈ run, kindOf c = kind)
    (other : kind ≠ .space) : foldsAt column run = false := by
  rw [foldsAt, Bool.and_eq_false_iff, beq_eq_false_iff_ne]
  refine .inl ?_
  rintro rfl
  exact other (uniform (.char ' ') List.mem_cons_self).symm

theorem any_isBreak_of_uniform {run : Text} {kind : Kind} (uniform : ∀ c ∈ run, kindOf c = kind)
    (other : kind ≠ .lineBreak) : run.any isBreak = false := by
  rw [List.any_eq_false]
  intro c inside
  simp [not_isBreak_of_kindOf (uniform c inside) other]

theorem Runs.kindOf_head_ne {kind : Kind} {pieces : List Text} (shape : Runs (some kind) pieces) {c : CodePoint}
    (starts : pieces.flatten.head? = some c) : kindOf c ≠ kind := by
  cases shape with
  | nil => cases starts
  | @cons _ next run rest nonempty uniform differs later =>
    obtain ⟨d, run, rfl⟩ := List.exists_cons_of_ne_nil nonempty
    obtain rfl : d = c := Option.some.inj starts
    rw [uniform d List.mem_cons_self]
    rintro rfl
    exact differs rfl

/-! ### Steps of a reader -/

theorem prepend_prepend {α : Type} (front more : Text) (result : Option (Text × α)) :
    prepend front (prepend more result) = prepend (front ++ more) result := by
  cases result with
  | none => rfl
  | some found => simp [prepend]

@[simp] theorem prepend_some {α : Type} (front text : Text) (rest : α) :
    prepend front (some (text, rest)) = some (front ++ text, rest) := rfl

@[simp] theorem prepend_nil {α : Type} (result : Option (Text × α)) : prepend [] result = result := by
  cases result with
  | none => rfl
  | some found => rfl

/-- What a reader takes a character for, where no carriage return stands. -/
def seenAs (c : CodePoint) : CodePoint := if c = .char '\u0085' then .char '\n' else c

@[simp] theorem isBreak_seenAs (c : CodePoint) : isBreak (seenAs c) = isBreak c := by
  unfold seenAs
  split
  next same => rw [same]; rfl
  next => rfl

@[simp] theorem isSpace_seenAs (c : CodePoint) : isSpace (seenAs c) = isSpace c := by
  unfold seenAs
  split
  next same => rw [same]; rfl
  next => rfl

theorem seenAs_ne (c : CodePoint) : seenAs c ≠ .char '\u0085' := by
  unfold seenAs
  split
  next => decide
  next other => exact other

theorem map_seenAs {text : Text} (absent : .char '\u0085' ∉ text) : text.map seenAs = text := by
  have same : ∀ c ∈ text, seenAs c = id c := by
    intro c inside
    refine if_neg ?_
    rintro rfl
    exact absent inside
  rw [List.map_congr_left same, List.map_id]

/-- A text that is over, or that goes on at a column to the left of the least one. -/
def Outdented (least : Nat) (tail : Text) : Prop :=
  tail = [] ∨ ∃ column c rest, tail = spaces column ++ c :: rest ∧ column < least ∧ isSpace c = false ∧
    isBreak c = false

theorem isSpace_of_mem_spaces {count : Nat} {c : CodePoint} (h : c ∈ spaces count) : isSpace c := by
  rw [List.eq_of_mem_replicate h]
  rfl

theorem skip_spaces {run : Text} (blank : ∀ c ∈ run, isSpace c) (column : Nat) (rest : Text) :
    skip column (run ++ rest) = skip (column + run.length) rest := by
  induction run generalizing column with
  | nil => rfl
  | cons c run ih =>
    rw [List.forall_mem_cons] at blank
    rw [List.cons_append, skip, if_pos blank.1, ih blank.2, List.length_cons]
    congr 1
    omega

theorem separates_of_isSpace {c : CodePoint} (h : isSpace c) : separates c := by
  rw [separates, h]
  rfl

theorem separates_of_isBreak {c : CodePoint} (h : isBreak c) : separates c := by
  rw [separates, h]
  simp

theorem isSpace_of_separates {c : CodePoint} (h : separates c = false) : isSpace c = false := by
  simp only [separates, Bool.or_eq_false_iff] at h
  exact h.1.1.1.1

theorem isBreak_of_separates {c : CodePoint} (h : separates c = false) : isBreak c = false := by
  simp only [separates, Bool.or_eq_false_iff] at h
  exact h.1.1.1.2

theorem separates_of_not_isSpecial {c : CodePoint} (known : isSpecial c = false) (notBreak : isBreak c = false)
    (notSpace : isSpace c = false) : separates c = false := by
  have other : ∀ d, isSpecial d → (c == d) = false := by
    intro d special
    rw [beq_eq_false_iff_ne]
    rintro rfl
    simp [known] at special
  rw [separates, notSpace, notBreak, other (.char '\t') (by decide), other (.char '\r') (by decide),
    other (.char '\x00') (by decide)]
  rfl

section Plain

variable {least column : Nat} {gap : Gap} {run rest tail : Text}

private theorem readPlain_blanks (blank : ∀ c ∈ run, isSpace c) (nonempty : run ≠ []) :
    readPlain least .none column (run ++ rest) = readPlain least (.blanks run) (column + run.length) rest := by
  have onward : ∀ (held run : Text) (column : Nat), (∀ c ∈ run, isSpace c) →
      readPlain least (.blanks held) column (run ++ rest) =
        readPlain least (.blanks (held ++ run)) (column + run.length) rest := by
    intro held run
    induction run generalizing held with
    | nil => simp
    | cons c run ih =>
      intro column blank
      rw [List.forall_mem_cons] at blank
      rw [List.cons_append, readPlain, if_pos blank.1, Gap.addBlank, ih _ _ blank.2, List.append_assoc,
        List.length_cons, Nat.add_assoc, Nat.add_comm 1]
      rfl
  obtain ⟨c, run, rfl⟩ := List.exists_cons_of_ne_nil nonempty
  rw [List.forall_mem_cons] at blank
  rw [List.cons_append, readPlain, if_pos blank.1, Gap.addBlank, onward _ _ _ blank.2, List.length_cons,
    Nat.add_assoc, Nat.add_comm 1]
  rfl

private theorem readPlain_indentation (blank : ∀ c ∈ run, isSpace c) (first : CodePoint) (more : Text) :
    readPlain least (.lines first more) column (run ++ rest) =
      readPlain least (.lines first more) (column + run.length) rest := by
  induction run generalizing column with
  | nil => rfl
  | cons c run ih =>
    rw [List.forall_mem_cons] at blank
    rw [List.cons_append, readPlain, if_pos blank.1, Gap.addBlank, ih blank.2, List.length_cons]
    congr 1
    omega

private theorem readPlain_newLine {indent : Nat} :
    readPlain least .none column (newLine indent ++ rest) = readPlain least (.lines (.char '\n') []) indent rest := by
  have step : readPlain least .none column (newLine indent ++ rest) =
      readPlain least (.lines (.char '\n') []) 0 (spaces indent ++ rest) := rfl
  rw [step, readPlain_indentation (fun _ => isSpace_of_mem_spaces), spaces, List.length_replicate, Nat.zero_add]

private theorem readPlain_outdented (outdented : Outdented least tail) :
    readPlain least (.lines (.char '\n') []) 0 tail = some ([], skip 0 tail) := by
  rcases outdented with rfl | ⟨start, c, rest, rfl, left, notSpace, notBreak⟩
  · rfl
  · rw [readPlain_indentation (fun _ => isSpace_of_mem_spaces), skip_spaces (fun _ => isSpace_of_mem_spaces),
      spaces, List.length_replicate, Nat.zero_add]
    simp [readPlain, skip, notSpace, notBreak, Gap.isLines, left]

private theorem readPlain_word (nonempty : run ≠ []) (word : ∀ c ∈ run, separates c = false)
    (last : run.getLast? ≠ some (.char ':')) (first : gap.isNone ∨ run.head? ≠ some (.char '#'))
    (indented : gap.isLines → least ≤ column) :
    readPlain least gap column (run ++ rest) =
      prepend (gap.text ++ run) (readPlain least .none (column + run.length) rest) := by
  induction run generalizing gap column with
  | nil => exact absurd rfl nonempty
  | cons c run ih =>
    rw [List.forall_mem_cons] at word
    have notSpace : isSpace c = false := isSpace_of_separates word.1
    have notBreak : isBreak c = false := isBreak_of_separates word.1
    have inside : ¬ (gap.isLines && column < least) := by
      simp only [Bool.and_eq_true, decide_eq_true_eq]
      rintro ⟨lines, left⟩
      exact absurd (indented lines) (by omega)
    have unmarked : ¬ (separates c || c == .char ':' && startsSeparated (run ++ rest) ||
        c == .char '#' && !gap.isNone) := by
      simp only [word.1, Bool.false_or, Bool.or_eq_true, Bool.and_eq_true, beq_iff_eq, not_or]
      constructor
      · rintro ⟨rfl, separated⟩
        cases run with
        | nil => exact last rfl
        | cons d run => simp [startsSeparated, word.2] at separated
      · rintro ⟨rfl, held⟩
        simp_all
    rw [List.cons_append, readPlain, notSpace, notBreak, if_neg (by simp), if_neg (by simp), if_neg inside,
      if_neg unmarked]
    cases run with
    | nil => rfl
    | cons d run =>
      rw [ih (List.cons_ne_nil d run) word.2 (by simpa using last) (.inl rfl) (by simp [Gap.isLines]), prepend_prepend]
      simp [Gap.text, Nat.add_assoc, Nat.add_comm]

private theorem hasInnerMark_append {before : CodePoint} (nonempty : run ≠ [])
    (unmarked : hasInnerMark before (run ++ rest) = false) :
    hasInnerMark (run.getLast nonempty) rest = false ∧
      (startsSeparated rest → run.getLast? ≠ some (.char ':')) ∧
      (separates before → run.head? ≠ some (.char '#')) := by
  induction run generalizing before with
  | nil => exact absurd rfl nonempty
  | cons c run ih =>
    rw [List.cons_append, hasInnerMark, Bool.or_eq_false_iff, Bool.or_eq_false_iff] at unmarked
    obtain ⟨⟨colon, sign⟩, later⟩ := unmarked
    have head : separates before → (c :: run).head? ≠ some (.char '#') := by
      rintro separated starts
      simp_all
    cases run with
    | nil => exact ⟨later, by rintro separated ends; simp_all, head⟩
    | cons d run =>
      obtain ⟨onward, ending, -⟩ := ih (List.cons_ne_nil d run) later
      exact ⟨by simpa using onward, by simpa using ending, head⟩

private theorem hasInnerMark_of_hasMark {text : Text} (before : CodePoint) (unmarked : hasMark text = false) :
    hasInnerMark before text = false := by
  cases text with
  | nil => rfl
  | cons c text =>
    simp only [hasMark, Bool.or_eq_false_iff] at unmarked
    obtain ⟨-, ⟨marks, starts⟩, later⟩ := unmarked
    have notSign : (c == .char '#') = false := by
      rw [beq_eq_false_iff_ne]
      rintro rfl
      simp [Text.ofString] at marks
    have notColon : (c == .char ':' && startsSeparated text) = false := by
      rw [Bool.and_eq_false_iff, beq_eq_false_iff_ne]
      by_cases colon : c = .char ':'
      · subst colon
        simpa [Text.ofString] using starts
      · exact .inl colon
    rw [hasInnerMark, notSign, notColon, later]
    rfl

private theorem startsSeparated_of_runs {pieces : List Text} (shape : Runs (some .word) pieces) :
    startsSeparated pieces.flatten := by
  cases flat : pieces.flatten with
  | nil => rfl
  | cons c text =>
    have other : kindOf c ≠ .word := shape.kindOf_head_ne (by rw [flat]; rfl)
    cases kind : kindOf c with
    | space => exact separates_of_isSpace (isSpace_of_kindOf kind)
    | lineBreak => exact separates_of_isBreak (isBreak_of_kindOf kind)
    | word => exact absurd kind other

/-- A plain scalar is read run by run. At the start of a run of spaces nothing is held; behind it the reader holds the
spaces, or the fold that stands for one, and a word follows. -/
private theorem readPlain_runs {indent start : Nat} {before : Option Kind} {previous : CodePoint} {pieces : List Text}
    (inner : least ≤ indent) (outdented : Outdented least tail) (shape : Runs before pieces)
    (known : ∀ c ∈ pieces.flatten, separates c = false ∨ isSpace c)
    (unmarked : hasInnerMark previous pieces.flatten = false)
    (ends : pieces.flatten.getLast?.any isSpace = false)
    (held : gap = .none ∨
      before = some .space ∧ separates previous ∧ pieces ≠ [] ∧ (gap.isLines → least ≤ column)) :
    readPlain least gap column (plainRuns indent start pieces ++ .char '\n' :: tail) =
      some (gap.text ++ pieces.flatten, skip 0 tail) := by
  induction shape generalizing gap column start previous with
  | nil =>
    rcases held with rfl | ⟨-, -, nonempty, -⟩
    · exact readPlain_outdented outdented
    · exact absurd rfl nonempty
  | @cons before kind run pieces nonempty uniform differs later ih =>
    rw [List.flatten_cons] at known unmarked ends
    rw [List.forall_mem_append] at known
    obtain ⟨onward, ending, starting⟩ := hasInnerMark_append nonempty unmarked
    have endsLater : pieces.flatten.getLast?.any isSpace = false := by
      cases flat : pieces.flatten with
      | nil => rfl
      | cons d more =>
        rwa [flat, List.getLast?_append_of_ne_nil _ (List.cons_ne_nil d more)] at ends
    cases kind with
    | lineBreak =>
      obtain ⟨c, run, rfl⟩ := List.exists_cons_of_ne_nil nonempty
      have breaks := isBreak_of_kindOf (uniform c List.mem_cons_self)
      rcases known.1 c List.mem_cons_self with apart | space
      · simp [isBreak_of_separates apart] at breaks
      · simp [isBreak_of_isSpace space] at breaks
    | word =>
      have word : ∀ c ∈ run, separates c = false := fun c inside =>
        (known.1 c inside).resolve_right (by simp [not_isSpace_of_kindOf (uniform c inside) (by decide)])
      rw [plainRuns, foldsAt_of_uniform start uniform (by decide), if_neg (by simp), List.append_assoc,
        readPlain_word nonempty word (ending (startsSeparated_of_runs later)),
        ih known.2 onward endsLater (.inl rfl)]
      · simp [Gap.text]
      · rcases held with rfl | ⟨-, separated, -, -⟩
        · exact .inl rfl
        · exact .inr (starting separated)
      · rcases held with rfl | ⟨-, -, -, indented⟩
        · simp [Gap.isLines]
        · exact indented
    | space =>
      have blank : ∀ c ∈ run, isSpace c := fun c inside => isSpace_of_kindOf (uniform c inside)
      have more : pieces ≠ [] := by
        rintro rfl
        rw [List.flatten_nil, List.append_nil, List.getLast?_eq_some_getLast nonempty, Option.any_some,
          blank _ (List.getLast_mem nonempty)] at ends
        cases ends
      have separated := separates_of_isSpace (blank _ (List.getLast_mem nonempty))
      obtain rfl : gap = .none := held.resolve_right fun behind => differs behind.1
      rw [plainRuns]
      split
      next folded =>
        rw [foldsAt, Bool.and_eq_true, beq_iff_eq] at folded
        rw [List.append_assoc, readPlain_newLine,
          ih known.2 onward endsLater (.inr ⟨rfl, separated, more, fun _ => inner⟩), folded.1]
        rfl
      next =>
        rw [List.append_assoc, readPlain_blanks blank nonempty,
          ih known.2 onward endsLater (.inr ⟨rfl, separated, more, by simp [Gap.isLines]⟩)]
        rfl

private theorem separates_of_allowsPlain {text : Text} (allowed : allowsPlain text) :
    ∀ c ∈ text, separates c = false ∨ isSpace c := by
  simp only [allowsPlain, Bool.not_eq_true', Bool.or_eq_false_iff] at allowed
  obtain ⟨⟨⟨⟨⟨⟨-, breaks⟩, special⟩, -⟩, -⟩, -⟩, -⟩ := allowed
  intro c inside
  cases space : isSpace c with
  | true => exact .inr rfl
  | false =>
    exact .inl (separates_of_not_isSpecial (by simpa using List.any_eq_false.1 special c inside)
      (by simpa using List.any_eq_false.1 breaks c inside) space)

/-- A text that may stand without quotes is read back, however its lines are folded. -/
theorem readPlain_plain {indent start : Nat} {text : Text} (allowed : allowsPlain text) (inner : least ≤ indent)
    (outdented : Outdented least tail) :
    readPlain least .none column (plainRuns indent start (runs text) ++ .char '\n' :: tail) =
      some (text, skip 0 tail) := by
  have known := separates_of_allowsPlain allowed
  simp only [allowsPlain, Bool.not_eq_true', Bool.or_eq_false_iff] at allowed
  obtain ⟨⟨⟨-, last⟩, mark⟩, -⟩ := allowed
  have flat := flatten_runs text
  rw [readPlain_runs inner outdented (runs_spec text) (by rwa [flat])
    (by rw [flat]; exact hasInnerMark_of_hasMark (.char 'a') mark) (by rwa [flat]) (.inl rfl), flat]
  rfl

/-- A plain text starts with a word, which no fold cuts. -/
theorem startsPlain_plain {indent start : Nat} {text : Text} (allowed : allowsPlain text) :
    startsPlain (plainRuns indent start (runs text) ++ .char '\n' :: tail) := by
  have known := separates_of_allowsPlain allowed
  simp only [allowsPlain, Bool.not_eq_true', Bool.or_eq_false_iff] at allowed
  obtain ⟨⟨⟨⟨⟨⟨nonempty, -⟩, -⟩, first⟩, -⟩, mark⟩, -⟩ := allowed
  have flat := flatten_runs text
  have shape := runs_spec text
  generalize runs text = pieces at flat shape ⊢
  subst flat
  cases shape with
  | nil => cases nonempty
  | @cons _ kind run pieces full uniform differs later =>
    obtain ⟨c, run, rfl⟩ := List.exists_cons_of_ne_nil full
    have kindC := uniform c List.mem_cons_self
    have notSpace : isSpace c = false := by simpa using first
    have joined : separates c = false := (known c (by simp)).resolve_right (by simp [notSpace])
    obtain rfl : kind = .word := by
      cases kind with
      | space => simp [isSpace_of_kindOf kindC] at notSpace
      | lineBreak => exact absurd (isBreak_of_kindOf kindC) (by simp [isBreak_of_separates joined])
      | word => rfl
    have onward : startsSeparated (run ++ pieces.flatten) = false →
        ∀ rest, startsSeparated (run ++ rest) = false := by
      intro separate rest
      cases run with
      | nil => simp [startsSeparated_of_runs later] at separate
      | cons d run => exact separate
    simp only [hasMark, List.flatten_cons, List.cons_append, Bool.or_eq_false_iff] at mark
    obtain ⟨-, ⟨marks, signs⟩, -⟩ := mark
    rw [plainRuns, foldsAt_of_uniform start uniform (by simp), if_neg (by simp), List.append_assoc, List.cons_append,
      startsPlain]
    split
    next sign =>
      rw [sign, Bool.true_and] at signs
      rw [onward signs]
      rfl
    next =>
      rw [joined, marks]
      rfl

theorem readPlain_single (nonempty : run ≠ []) (word : ∀ c ∈ run, separates c = false)
    (last : run.getLast? ≠ some (.char ':')) (outdented : Outdented least tail) :
    readPlain least .none column (run ++ .char '\n' :: tail) = some (run, skip 0 tail) := by
  have ending : readPlain least .none (column + run.length) (.char '\n' :: tail) = some ([], skip 0 tail) :=
    readPlain_outdented outdented
  rw [readPlain_word nonempty word last (.inl rfl) (by simp [Gap.isLines]), ending, prepend_some, List.append_nil]
  rfl

end Plain

/-! ### Plain words -/

private theorem isNatural_of_natural? {digits : Text} {n : Nat} (h : natural? digits = some n) : IsNatural digits := by
  unfold natural? at h
  split at h
  · cases h
  · rename_i natural
    simp only [Bool.or_eq_true, Bool.and_eq_true, List.isEmpty_iff, Bool.not_eq_true', decide_eq_true_eq, beq_iff_eq,
      not_or, not_and, Bool.not_eq_false] at natural
    obtain ⟨⟨nonempty, digital⟩, zero⟩ := natural
    refine ⟨nonempty, List.all_eq_true.1 digital, fun starts => ?_⟩
    have := List.length_pos_iff.2 nonempty
    have : ¬ 1 < digits.length := fun long => zero long starts
    omega

private theorem natural?_ofNat (n : Nat) : natural? (Text.ofNat n) = some n := by
  have digital : (Text.ofNat n).all CodePoint.isDigit :=
    List.all_eq_true.2 fun _ => Text.isDigit_of_mem_ofNat
  have zero : ¬ (1 < (Text.ofNat n).length ∧ (Text.ofNat n).head? = some (.char '0')) := by
    rintro ⟨long, starts⟩
    have := Text.length_ofNat_of_zero starts
    omega
  simp only [natural?, List.isEmpty_eq_false_iff.2 (Text.ofNat_ne_nil n), digital, Text.decimalNumber_ofNat]
  simpa using zero

private theorem integerWord_of_decimal? {text : Text} {n : Int} (h : decimal? text = some n) :
    integerWord.fits text := by
  unfold decimal? at h
  split at h
  all_goals obtain ⟨m, digits, -⟩ := Option.map_eq_some_iff.1 h
  · exact integerWord_fits (isNatural_of_natural? digits) (.inr (.inl rfl))
  · exact integerWord_fits (isNatural_of_natural? digits) (.inr (.inr rfl))
  · exact integerWord_fits (isNatural_of_natural? digits) (.inl rfl)

/-- A text that may stand without quotes means itself. -/
theorem resolve_of_allowsPlain {text : Text} (allowed : allowsPlain text) : resolve text = some (.text text) := by
  simp only [allowsPlain, Bool.not_eq_true', Bool.or_eq_false_iff] at allowed
  have free := allowed.2
  have other : ∀ word ∈ [booleanWord, nullWord, integerWord], word.fits text = false := by
    intro word listed
    rw [← Bool.not_eq_true]
    intro fits
    have reserved : reservedWord.fits text := Pattern.fits_any (List.mem_append_left _ listed) fits
    simp [free] at reserved
  have notNumber : decimal? text = none := by
    rw [Option.eq_none_iff_forall_ne_some]
    intro n found
    have := integerWord_of_decimal? found
    simp [other integerWord (by simp)] at this
  rw [resolve, notNumber]
  dsimp only
  rw [other nullWord (by simp), if_neg (by simp), other booleanWord (by simp), if_neg (by simp), free,
    if_neg (by simp)]

theorem resolve_ofInt (n : Int) : resolve (Text.ofInt n) = some (.int n) := by
  have number : decimal? (Text.ofInt n) = some n := by
    cases n with
    | ofNat n =>
      have starts : ∀ c digits, Text.ofNat n = c :: digits → c.isDigit := by
        intro c digits written
        exact Text.isDigit_of_mem_ofNat (by rw [written]; exact List.mem_cons_self)
      have unsigned : decimal? (Text.ofNat n) = (natural? (Text.ofNat n)).map Int.ofNat := by
        unfold decimal?
        split
        next found => exact absurd (starts _ _ found) (by decide)
        next found => exact absurd (starts _ _ found) (by decide)
        next => rfl
      rw [Text.ofInt, unsigned, natural?_ofNat]
      rfl
    | negSucc n =>
      rw [Text.ofInt, decimal?, natural?_ofNat]
      rfl
  rw [resolve, number]

end SqlSurvey.Yaml
