import SqlSurvey.Proofs.YamlPlainTexts

/-! # Literal blocks read back

The lines of a block give the text back up to the breaks at its end, and the hint behind the mark of the block says
which of those are kept. -/
namespace SqlSurvey.Yaml

/-! ### Lines -/

/-- What the lines of a text stand for. The break that ends an unfinished last line is not one of the text. -/
def recovered (chomping : Chomping) : BlockState → Text → Text
  | .start _ ended empty, [] => chomp chomping ended empty
  | .inside, [] => chomp chomping [.char '\n'] []
  | .start _ ended empty, c :: rest =>
    if isBreak c then recovered chomping (.start 0 ended (empty ++ [c])) rest
    else ended ++ empty ++ c :: recovered chomping .inside rest
  | .inside, c :: rest =>
    if isBreak c then recovered chomping (.start 0 [c] []) rest else c :: recovered chomping .inside rest

section Lines

variable {indent least : Nat} {chomping : Chomping} {ended empty text rest tail : Text}

private theorem readLiteral_spaces {count column : Nat} (fits : column + count ≤ indent) :
    readLiteral indent chomping (.start column ended empty) (spaces count ++ rest) =
      readLiteral indent chomping (.start (column + count) ended empty) rest := by
  induction count generalizing column with
  | zero => rfl
  | succ count ih =>
    have inside : column < indent := by omega
    have step : readLiteral indent chomping (.start column ended empty) (.char ' ' :: (spaces count ++ rest)) =
        readLiteral indent chomping (.start (column + 1) ended empty) (spaces count ++ rest) := by
      rw [readLiteral, if_neg (by decide), if_pos inside, if_pos (by decide)]
    rw [spaces, List.replicate_succ, List.cons_append, ← spaces, step, ih (by omega)]
    congr 2
    omega

private theorem readLiteral_outdented (outdented : Outdented least tail) (inner : least ≤ indent) :
    readLiteral indent chomping (.start 0 ended empty) tail = (chomp chomping ended empty, skip 0 tail) := by
  rcases outdented with rfl | ⟨column, c, rest, rfl, left, notSpace, notBreak⟩
  · rfl
  · rw [readLiteral_spaces (by omega), skip_spaces (fun _ => isSpace_of_mem_spaces), spaces, List.length_replicate,
      Nat.zero_add, readLiteral, notBreak, if_neg (by simp), if_pos (by omega), notSpace, if_neg (by simp), skip,
      notSpace, if_neg (by simp), notBreak, if_neg (by simp)]

private theorem literalLines_start {c : CodePoint} (notBreak : isBreak c = false) :
    literalLines indent true (c :: text) ++ tail = spaces indent ++ c :: (literalLines indent false text ++ tail) := by
  simp [literalLines, notBreak, spaces]

/-- Lines of a block are read as the text they were written for, from the start of a line and from within one. -/
private theorem readLiteral_literalLines (chomping : Chomping) (outdented : Outdented least tail)
    (inner : least ≤ indent) (text : Text) :
    (∀ ended empty, readLiteral indent chomping (.start 0 ended empty) (literalLines indent true text ++ tail) =
        (recovered chomping (.start 0 ended empty) text, skip 0 tail)) ∧
      readLiteral indent chomping .inside (literalLines indent false text ++ tail) =
        (recovered chomping .inside text, skip 0 tail) := by
  induction text with
  | nil =>
    exact ⟨fun ended empty => readLiteral_outdented outdented inner, readLiteral_outdented outdented inner⟩
  | cons c text ih =>
    obtain ⟨atStart, inside⟩ := ih
    cases breaks : isBreak c with
    | true =>
      constructor
      · intro ended empty
        rw [literalLines, if_pos breaks, List.cons_append, readLiteral, if_pos breaks, atStart, recovered,
          if_pos breaks]
      · rw [literalLines, if_pos breaks, List.cons_append, readLiteral, if_pos breaks, atStart, recovered,
          if_pos breaks]
    | false =>
      constructor
      · intro ended empty
        rw [literalLines_start breaks, readLiteral_spaces (by omega), readLiteral, breaks, if_neg (by simp),
          if_neg (by omega), inside, recovered, breaks, if_neg (by simp)]
      · have lead : literalLines indent false (c :: text) ++ tail = c :: (literalLines indent false text ++ tail) := by
          simp [literalLines, breaks]
        rw [lead, readLiteral, breaks, if_neg (by simp), inside, recovered, breaks, if_neg (by simp)]

/-! ### Endings -/

def chompingOf (text : Text) : Chomping :=
  match text.reverse with
  | [] => .clip
  | last :: before => if !isBreak last then .strip else if before.head?.all isBreak then .keep else .clip

/-- Whether a text is recovered from every state. -/
private def Recovers (chomping : Chomping) (text : Text) : Prop :=
  (∀ ended empty, recovered chomping (.start 0 ended empty) text = ended ++ empty ++ text) ∧
    recovered chomping .inside text = text

/-- What comes before an ending makes no difference to it. -/
private theorem recovers_append {ending : Text} (whole : Recovers chomping ending) (text : Text) :
    Recovers chomping (text ++ ending) := by
  induction text with
  | nil => exact whole
  | cons c text ih =>
    obtain ⟨atStart, inside⟩ := ih
    cases breaks : isBreak c <;> simp [Recovers, recovered, breaks, atStart, inside]

/-- The hint that is written for a text keeps as many breaks as the text ends with. -/
private theorem recovers_chompingOf (nonempty : text ≠ []) : Recovers (chompingOf text) text := by
  obtain ⟨before, last, rfl⟩ := (List.eq_nil_or_concat' text).resolve_left nonempty
  cases breaks : isBreak last with
  | false =>
    have ending : chompingOf (before ++ [last]) = .strip := by simp [chompingOf, breaks]
    rw [ending]
    exact recovers_append (by simp [Recovers, recovered, breaks, chomp]) before
  | true =>
    cases more : before.getLast?.all isBreak with
    | true =>
      have ending : chompingOf (before ++ [last]) = .keep := by simp [chompingOf, breaks, more]
      rw [ending]
      exact recovers_append (by simp [Recovers, recovered, breaks, chomp]) before
    | false =>
      have ending : chompingOf (before ++ [last]) = .clip := by simp [chompingOf, breaks, more]
      rcases List.eq_nil_or_concat' before with rfl | ⟨front, other, rfl⟩
      · cases more
      · have notBreak : isBreak other = false := by simpa using more
        rw [ending, List.append_assoc]
        exact recovers_append (by simp [Recovers, recovered, notBreak, breaks, chomp]) front

/-! ### Hints -/

private def signOf : Chomping → Text
  | .strip => [.char '-']
  | .clip => []
  | .keep => [.char '+']

private theorem literalHints_eq (step : Nat) :
    literalHints step text =
      (if text.head?.any fun c => isSpace c || isBreak c then Text.ofNat step else []) ++ signOf (chompingOf text) := by
  rw [literalHints, chompingOf]
  congr 1
  cases text.reverse with
  | nil => rfl
  | cons last before =>
    dsimp only
    split
    · rfl
    · split <;> rfl

private theorem readHints_literalHints {step : Nat} (least : 1 < step) (greatest : step < 10) :
    readHints (literalHints step text ++ .char '\n' :: rest) =
      (if text.head?.any (fun c => isSpace c || isBreak c) then some step else none, chompingOf text,
        .char '\n' :: rest) := by
  rw [literalHints_eq]
  split
  · interval_cases step <;> cases chompingOf text <;> rfl
  · cases chompingOf text <;> rfl

private theorem leadingColumn_spaces {c : CodePoint} (notSpace : isSpace c = false) (notBreak : isBreak c = false)
    (column count : Nat) : leadingColumn column column (spaces count ++ c :: rest) = column + count := by
  induction count generalizing column with
  | zero => simp [spaces, leadingColumn, notSpace, notBreak]
  | succ count ih =>
    have step : leadingColumn column column (.char ' ' :: (spaces count ++ c :: rest)) =
        leadingColumn (column + 1) (column + 1) (spaces count ++ c :: rest) := by
      rw [leadingColumn, if_pos (by decide), Nat.max_eq_right (Nat.le_succ column)]
    rw [spaces, List.replicate_succ, List.cons_append, ← spaces, step, ih]
    omega

private theorem readBlock_literal {column step : Nat} (nonempty : text ≠ []) (least : 1 < step) (greatest : step < 10)
    (outdented : Outdented (column + 1) tail) :
    readBlock (column + 1)
        (literalHints step text ++ .char '\n' :: (literalLines (column + step) true text ++ tail)) =
      some (text, skip 0 tail) := by
  have inner : column + 1 ≤ column + step := by omega
  have lines := (readLiteral_literalLines (chompingOf text) outdented inner text).1 [] []
  rw [(recovers_chompingOf nonempty).1] at lines
  rw [readBlock, readHints_literalHints least greatest]
  simp only [lineEnd, show isSpace (.char '\n') = false from rfl, show isBreak (.char '\n') = true from rfl,
    Bool.false_eq_true, if_false, if_true, Option.map_some, Option.some.injEq]
  cases hinted : text.head?.any fun c => isSpace c || isBreak c with
  | true =>
    have indent : max (column + 1) 1 + step - 1 = column + step := by omega
    simp only [if_true, indent]
    exact lines
  | false =>
    obtain ⟨c, text, rfl⟩ := List.exists_cons_of_ne_nil nonempty
    obtain ⟨notSpace, notBreak⟩ : isSpace c = false ∧ isBreak c = false := by simpa using hinted
    have indent : max (max (column + 1) 1) (leadingColumn 0 0 (literalLines (column + step) true (c :: text) ++ tail)) =
        column + step := by
      rw [literalLines_start notBreak, leadingColumn_spaces notSpace notBreak]
      omega
    simp only [Bool.false_eq_true, if_false, indent]
    exact lines

/-! ### Seen texts -/

private theorem chompingOf_seen (text : Text) : chompingOf (text.map seenAs) = chompingOf text := by
  rw [chompingOf, chompingOf, ← List.map_reverse]
  cases text.reverse with
  | nil => rfl
  | cons last before =>
    have more : (before.map seenAs).head?.all isBreak = before.head?.all isBreak := by
      cases before <;> simp
    rw [List.map_cons]
    dsimp only
    rw [isBreak_seenAs, more]

private theorem literalHints_seen (step : Nat) (text : Text) :
    (literalHints step text).map seenAs = literalHints step (text.map seenAs) := by
  have absent : .char '\u0085' ∉ literalHints step text := fun inside =>
    absurd (isMark_of_mem_literalHints inside) (by decide)
  have head : ((text.map seenAs).head?.any fun c => isSpace c || isBreak c) =
      text.head?.any fun c => isSpace c || isBreak c := by
    cases text with
    | nil => rfl
    | cons c text => simp
  rw [map_seenAs absent, literalHints_eq, literalHints_eq, head, chompingOf_seen]

private theorem literalLines_seen (indent : Nat) (start : Bool) (text : Text) :
    (literalLines indent start text).map seenAs = literalLines indent start (text.map seenAs) := by
  have blank : (List.replicate indent (CodePoint.char ' ')).map seenAs = List.replicate indent (.char ' ') :=
    List.map_replicate
  induction text generalizing start with
  | nil => cases start <;> rfl
  | cons c text ih =>
    rw [List.map_cons, literalLines, literalLines, isBreak_seenAs]
    split
    · rw [List.map_cons, ih]
    · cases start <;> simp [ih, blank]

/-- A literal block is read as the text with line feeds for the next-line characters. -/
theorem readBlock_seen {column step : Nat} (nonempty : text ≠ []) (least : 1 < step) (greatest : step < 10)
    (outdented : Outdented (column + 1) tail) :
    readBlock (column + 1) ((literalHints step text ++
        .char '\n' :: literalLines (column + step) true text).map seenAs ++ tail) =
      some (text.map seenAs, skip 0 tail) := by
  rw [List.map_append, List.map_cons, literalHints_seen, literalLines_seen, List.append_assoc]
  exact readBlock_literal (by simpa using nonempty) least greatest outdented

end Lines

end SqlSurvey.Yaml
