import SqlSurvey.JsonReading
import SqlSurvey.JsonWriting
import SqlSurvey.Proofs.EncodedTexts
import SqlSurvey.Proofs.ReportValues
import SqlSurvey.Proofs.WrittenNumbers

/-! # Reports in JSON and back

What is written for a value is read back as that value, whatever the indentation. The text of each part is read up to
what follows it, so the reading of a list or a record is put together from the readings of its parts. A report whose
texts can be encoded is therefore recovered from its file, and no other report has the same file. -/
namespace SqlSurvey
namespace Json

/-! ### Strings -/

private theorem readString_skip (front done rest : Text) :
    readString front.length done (front ++ rest) = readString 0 done rest := by
  induction front with
  | nil => rfl
  | cons c front ih => exact ih

private theorem readString_raw {c : CodePoint} (done rest : Text) (quote : c ≠ .char '"')
    (backslash : c ≠ .char '\\') (visible : ¬ c.toNat < 0x20) :
    readString 0 done (c :: rest) = readString 0 (c :: done) rest := by
  rw [readString, if_neg visible]
  · exact quote
  · exact backslash

private theorem fourDigits_ofHex {n : Nat} (h : n < 16 ^ 4) : fourDigits? (Text.ofHex 4 n) = some n := by
  have positive : 0 < 4 := by decide
  have hex : (Text.ofHex 4 n).all CodePoint.isHex := by
    apply List.all_eq_true.2
    intro d inside
    exact Text.isHex_of_mem_ofHex positive h inside
  rw [fourDigits?, if_pos ⟨Text.length_ofHex positive h, hex⟩, Text.hexNumber_ofHex positive h]

private theorem readString_control {c : CodePoint} (done rest : Text) (h : c.toNat < 0x20) :
    readString 0 done (Text.ofString "\\u" ++ Text.ofHex 4 c.toNat ++ rest) = readString 0 (c :: done) rest := by
  have fits : c.toNat < 16 ^ 4 := by omega
  have count : (Text.ofHex 4 c.toNat).length = 4 := Text.length_ofHex (by decide) fits
  have digits : (Text.ofHex 4 c.toNat ++ rest).take 4 = Text.ofHex 4 c.toNat := List.take_left' count
  have front : (CodePoint.char 'u' :: Text.ofHex 4 c.toNat).length = 5 := by rw [List.length_cons, count]
  have start : Text.ofString "\\u" ++ Text.ofHex 4 c.toNat ++ rest =
      .char '\\' :: .char 'u' :: (Text.ofHex 4 c.toNat ++ rest) := rfl
  have skipped := readString_skip (CodePoint.char 'u' :: Text.ofHex 4 c.toNat) (c :: done) rest
  rw [front, List.cons_append] at skipped
  have known : (CodePoint.ofNat? c.toNat).getD .replacement = c := by rw [CodePoint.ofNat?_toNat]; rfl
  rw [start, readString]
  simp only [digits, fourDigits_ofHex fits]
  rw [if_neg (by omega)]
  exact (congrArg (fun d => readString 5 (d :: done) (.char 'u' :: (Text.ofHex 4 c.toNat ++ rest))) known).trans
    skipped

private theorem readString_escapeCharacter (c : CodePoint) (done rest : Text) :
    readString 0 done (escapeCharacter c ++ rest) = readString 0 (c :: done) rest := by
  unfold escapeCharacter
  split
  · rfl
  · rfl
  · rfl
  · rfl
  · rfl
  · rfl
  · rfl
  · rename_i quote backslash _ _ _ _ _
    by_cases control : c.toNat < 0x20
    · rw [if_pos control]
      exact readString_control done rest control
    · rw [if_neg control]
      exact readString_raw done rest quote backslash control

/-- An escaped text is read back up to the closing quote, behind whatever was read before. -/
private theorem readString_flatMap (text done rest : Text) :
    readString 0 done (text.flatMap escapeCharacter ++ .char '"' :: rest) = some (done.reverse ++ text, rest) := by
  induction text generalizing done with
  | nil =>
    rw [List.append_nil]
    rfl
  | cons c text ih =>
    rw [List.flatMap_cons, List.append_assoc, readString_escapeCharacter, ih, List.reverse_cons, List.append_assoc,
      List.singleton_append]

/-! ### Numbers -/

/-- What may follow a value: nothing, a comma or a line break. -/
def Ends (rest : Text) : Prop := ∀ c ∈ rest.head?, c = .char ',' ∨ c = .char '\n'

private theorem not_isDigit_of_ends {rest : Text} (ends : Ends rest) : ∀ c ∈ rest.head?, ¬ c.isDigit := by
  intro c first
  rcases ends c first with rfl | rfl
  · decide
  · decide

private theorem takeWhile_ofNat (n : Nat) {rest : Text} (h : ∀ c ∈ rest.head?, ¬ c.isDigit) :
    (Text.ofNat n ++ rest).takeWhile CodePoint.isDigit = Text.ofNat n := by
  rw [List.takeWhile_append_of_pos fun _ => Text.isDigit_of_mem_ofNat]
  cases rest with
  | nil => simp
  | cons c rest => simp [h c rfl]

private theorem dropWhile_ofNat (n : Nat) {rest : Text} (h : ∀ c ∈ rest.head?, ¬ c.isDigit) :
    (Text.ofNat n ++ rest).dropWhile CodePoint.isDigit = rest := by
  rw [List.dropWhile_append_of_pos fun _ => Text.isDigit_of_mem_ofNat]
  cases rest with
  | nil => rfl
  | cons c rest => simp [h c rfl]

private theorem readExponent_of_ends {rest : Text} (ends : Ends rest) : readExponent rest = none := by
  cases rest with
  | nil => rfl
  | cons c rest =>
    rcases ends c rfl with rfl | rfl
    · rfl
    · rfl

private theorem digit_not_sign {c : CodePoint} (h : c.isDigit) : c ≠ .char '-' ∧ c ≠ .char '+' := by
  constructor
  · rintro rfl
    exact absurd h (by decide)
  · rintro rfl
    exact absurd h (by decide)

private theorem readExponent_ofInt (n : Int) {rest : Text} (ends : Ends rest) :
    readExponent (.char 'e' :: (Text.ofInt n ++ rest)) = some (n, rest) := by
  have digits := not_isDigit_of_ends ends
  cases n with
  | ofNat n =>
    obtain ⟨c, others, written⟩ := List.exists_cons_of_ne_nil (Text.ofNat_ne_nil n)
    have digit : c.isDigit := Text.isDigit_of_mem_ofNat (n := n) (written ▸ List.mem_cons_self)
    obtain ⟨minus, plus⟩ := digit_not_sign digit
    have whole := takeWhile_ofNat n digits
    have after := dropWhile_ofNat n digits
    rw [written] at whole after
    simp only [Text.ofInt, written, List.cons_append, readExponent] at whole after ⊢
    split
    · rename_i same
      exact absurd (List.cons.inj same).1 minus
    · rename_i same
      exact absurd (List.cons.inj same).1 plus
    · simp [whole, after, ← written, Text.ofNat_ne_nil]
  | negSucc n =>
    have value : -((n + 1 : Nat) : Int) = Int.negSucc n := rfl
    simp [readExponent, Text.ofInt, takeWhile_ofNat _ digits, dropWhile_ofNat _ digits, Text.ofNat_ne_nil,
      ← value]

/-- The value that the digits of a natural number and what follows them give. -/
private theorem readUnsigned_ofNat (n : Nat) {rest : Text} (h : ∀ c ∈ rest.head?, ¬ c.isDigit)
    (point : rest.head? ≠ some (.char '.')) :
    readUnsigned (Text.ofNat n ++ rest) = match readExponent rest with
      | some (exponent, rest) => some (.decimal n exponent, rest)
      | none => some (.int n, rest) := by
  have plain : ¬ ((Text.ofNat n).isEmpty ∨
      ((Text.ofNat n).head? = some (.char '0') ∧ (Text.ofNat n).length ≠ 1)) := by
    rintro (empty | ⟨zero, long⟩)
    · exact Text.ofNat_ne_nil n (List.isEmpty_iff.1 empty)
    · exact long (Text.length_ofNat_of_zero zero)
  simp only [readUnsigned, takeWhile_ofNat n h, dropWhile_ofNat n h]
  rw [if_neg plain, Text.decimalNumber_ofNat]
  split
  · exact absurd rfl point
  · rfl

private theorem readNumber_ofInt (n : Int) {rest : Text} (digits : ∀ c ∈ rest.head?, ¬ c.isDigit)
    (point : rest.head? ≠ some (.char '.')) :
    readNumber (Text.ofInt n ++ rest) = match readExponent rest with
      | some (exponent, rest) => some (.decimal n exponent, rest)
      | none => some (.int n, rest) := by
  cases n with
  | ofNat n =>
    obtain ⟨c, others, written⟩ := List.exists_cons_of_ne_nil (Text.ofNat_ne_nil n)
    have digit : c.isDigit := Text.isDigit_of_mem_ofNat (n := n) (written ▸ List.mem_cons_self)
    have unsigned := readUnsigned_ofNat n digits point
    rw [written, List.cons_append] at unsigned
    rw [Text.ofInt, written, List.cons_append, readNumber, unsigned]
    · rfl
    · exact fun _ same => (digit_not_sign digit).1 (List.cons.inj same).1
  | negSucc n =>
    rw [Text.ofInt, List.cons_append, readNumber, readUnsigned_ofNat (n + 1) digits point]
    cases readExponent rest with
    | none => rfl
    | some found => rfl

private theorem ofInt_start (n : Int) :
    ∃ c others, Text.ofInt n = c :: others ∧ (c.isDigit ∨ c = .char '-') := by
  cases n with
  | ofNat n =>
    obtain ⟨c, others, written⟩ := List.exists_cons_of_ne_nil (Text.ofNat_ne_nil n)
    exact ⟨c, others, written, .inl (Text.isDigit_of_mem_ofNat (n := n) (written ▸ List.mem_cons_self))⟩
  | negSucc n => exact ⟨_, _, rfl, .inr rfl⟩

private theorem ne_of_number {c : CodePoint} (start : c.isDigit ∨ c = .char '-') (other : CodePoint)
    (h : ¬ (other.isDigit ∨ other = .char '-')) : c ≠ other := by
  rintro rfl
  exact h start

private theorem isSpace_of_number {c : CodePoint} (start : c.isDigit ∨ c = .char '-') : isSpace c = false := by
  have space := ne_of_number start (.char ' ') (by decide)
  have feed := ne_of_number start (.char '\n') (by decide)
  have carriage := ne_of_number start (.char '\r') (by decide)
  have tab := ne_of_number start (.char '\t') (by decide)
  simp [isSpace, space, feed, carriage, tab]

private theorem readScalar_number {c : CodePoint} (start : c.isDigit ∨ c = .char '-') (rest : Text) :
    readScalar (c :: rest) = readNumber (c :: rest) := by
  have n := (ne_of_number start (.char 'n') (by decide)).symm
  have t := (ne_of_number start (.char 't') (by decide)).symm
  have f := (ne_of_number start (.char 'f') (by decide)).symm
  have noWord : words.find? (·.1.isPrefixOf (c :: rest)) = none := by
    simp [words, Text.ofString, n, t, f]
  rw [readScalar, noWord]

/-! ### Values -/

private theorem skipSpace_cons {c : CodePoint} (h : isSpace c = false) (rest : Text) :
    skipSpace (c :: rest) = c :: rest := by
  rw [skipSpace, List.dropWhile_cons_of_neg (by simp [h])]

private theorem skipSpace_append {blanks : Text} (h : ∀ c ∈ blanks, isSpace c) (rest : Text) :
    skipSpace (blanks ++ rest) = skipSpace rest :=
  List.dropWhile_append_of_pos h

private theorem isSpace_of_mem_lineBreak {indent level : Nat} : ∀ c ∈ lineBreak indent level, isSpace c := by
  intro c inside
  rcases List.mem_cons.1 inside with rfl | inside
  · rfl
  · rw [List.eq_of_mem_replicate inside]
    rfl

private theorem readValue_append (blanks : Text) (h : ∀ c ∈ blanks, isSpace c) (fuel : Nat) (rest : Text) :
    readValue fuel (blanks ++ rest) = readValue fuel rest := by
  cases fuel with
  | zero => rfl
  | succ fuel => rw [readValue, skipSpace_append h, readValue]

private theorem readItems_lineBreak (fuel indent level : Nat) (rest : Text) :
    readItems fuel (lineBreak indent level ++ rest) = readItems fuel rest := by
  cases fuel with
  | zero => rfl
  | succ fuel => rw [readItems, readValue_append _ isSpace_of_mem_lineBreak, readItems]

private theorem readFields_lineBreak (fuel indent level : Nat) (rest : Text) :
    readFields fuel (lineBreak indent level ++ rest) = readFields fuel rest := by
  cases fuel with
  | zero => rfl
  | succ fuel => rw [readFields, skipSpace_append isSpace_of_mem_lineBreak, readFields]

private theorem readValue_scalar (fuel : Nat) {c : CodePoint} (rest : Text) (space : isSpace c = false)
    (quote : c ≠ .char '"') (bracket : c ≠ .char '[') (brace : c ≠ .char '\x7b') :
    readValue (fuel + 1) (c :: rest) = readScalar (c :: rest) := by
  rw [readValue, skipSpace_cons space]
  split
  · exact absurd (List.cons.inj ‹_›).1 quote
  · exact absurd (List.cons.inj ‹_›).1 bracket
  · exact absurd (List.cons.inj ‹_›).1 brace
  · rfl

def valueText (indent level : Nat) (value : Value) : Text :=
  (chunks indent level value).flatMap Chunk.toText

/-- The text of items or fields, the first one behind `lead`. -/
def itemsText (indent level : Nat) (lead : Text) (items : List Value) : Text :=
  (itemChunks indent level lead items).flatMap Chunk.toText

def fieldsText (indent level : Nat) (lead : Text) (fields : List (Text × Value)) : Text :=
  (fieldChunks indent level lead fields).flatMap Chunk.toText

private theorem exists_chunk_of_scalar (indent level : Nat) {value : Value} (scalar : value.isScalar) :
    ∃ chunk, chunks indent level value = [chunk] := by
  cases value with
  | bool b => cases b <;> exact ⟨_, rfl⟩
  | list items => cases scalar
  | record fields => cases scalar
  | _ => exact ⟨_, rfl⟩

private theorem itemsText_cons (indent level : Nat) (lead : Text) (item : Value) (items : List Value) :
    itemsText indent level lead (item :: items) = lead ++ (valueText indent level item ++
      itemsText indent level (.char ',' :: lineBreak indent level) items) := by
  have led : (withLead lead item (chunks indent level item)).flatMap Chunk.toText =
      lead ++ valueText indent level item := by
    unfold withLead valueText
    split
    · rename_i scalar
      obtain ⟨chunk, alone⟩ := exists_chunk_of_scalar indent level scalar
      simp [alone]
    · rfl
  rw [itemsText, itemChunks, List.flatMap_append, led, List.append_assoc]
  rfl

private theorem fieldsText_cons (indent level : Nat) (lead name : Text) (value : Value)
    (fields : List (Text × Value)) :
    fieldsText indent level lead ((name, value) :: fields) = lead ++ (string name ++ (Text.ofString ": " ++
      (valueText indent level value ++ fieldsText indent level (.char ',' :: lineBreak indent level) fields))) := by
  simp [fieldsText, fieldChunks, nameAndValueChunks, valueText, Chunk.toText]

private theorem valueText_list (indent level : Nat) (item : Value) (items : List Value) :
    valueText indent level (.list (item :: items)) = .char '[' :: (itemsText indent (level + 1)
      (lineBreak indent (level + 1)) (item :: items) ++ (lineBreak indent level ++ [.char ']'])) := by
  rw [valueText, chunks, List.flatMap_append, ← itemsText, itemsText_cons, itemsText_cons]
  · simp [Chunk.toText]
  · simp

private theorem valueText_record (indent level : Nat) (field : Text × Value) (fields : List (Text × Value)) :
    valueText indent level (.record (field :: fields)) = .char '\x7b' :: (fieldsText indent (level + 1)
      (lineBreak indent (level + 1)) (field :: fields) ++ (lineBreak indent level ++ [.char '\x7d'])) := by
  rw [valueText, chunks]
  · simp [fieldsText, Chunk.toText]
  · simp

/-- The text of a value starts with what starts no other part of a list or a record. -/
private theorem valueText_start (indent level : Nat) (value : Value) :
    ∃ c others, valueText indent level value = c :: others ∧ isSpace c = false ∧
      c ≠ .char ']' ∧ c ≠ .char '\x7d' := by
  have number : ∀ (n : Int) (rest : Text), ∃ c others, Text.ofInt n ++ rest = c :: others ∧ isSpace c = false ∧
      c ≠ .char ']' ∧ c ≠ .char '\x7d' := by
    intro n rest
    obtain ⟨c, others, written, start⟩ := ofInt_start n
    exact ⟨c, others ++ rest, by rw [written, List.cons_append], isSpace_of_number start,
      ne_of_number start _ (by decide), ne_of_number start _ (by decide)⟩
  unfold valueText
  cases value with
  | null => exact ⟨_, _, rfl, rfl, by decide, by decide⟩
  | bool b => cases b <;> exact ⟨_, _, rfl, rfl, by decide, by decide⟩
  | int n => simpa [chunks, Chunk.toText] using number n []
  | decimal mantissa exponent => simpa [chunks, Chunk.toText] using number mantissa _
  | text t => exact ⟨_, _, rfl, rfl, by decide, by decide⟩
  | list items =>
    cases items with
    | nil => exact ⟨_, _, rfl, rfl, by decide, by decide⟩
    | cons item items => exact ⟨_, _, valueText_list indent level item items, rfl, by decide, by decide⟩
  | record fields =>
    cases fields with
    | nil => exact ⟨_, _, rfl, rfl, by decide, by decide⟩
    | cons field fields => exact ⟨_, _, valueText_record indent level field fields, rfl, by decide, by decide⟩

/-- The text of a value is read back, whatever ends it. Each nested read begins at a character of its own, so there is
fuel enough if it exceeds twice the length of the text. -/
def Reads (value : Value) : Prop :=
  ∀ (indent level fuel : Nat) (rest : Text), Ends rest → 2 * (valueText indent level value).length < fuel →
    readValue fuel (valueText indent level value ++ rest) = some (value, rest)

private theorem ends_lineBreak (indent level : Nat) (rest : Text) : Ends (lineBreak indent level ++ rest) := by
  intro c first
  exact .inr (Option.some.inj first).symm

private theorem ends_comma (rest : Text) : Ends (.char ',' :: rest) := by
  intro c first
  exact .inl (Option.some.inj first).symm

private theorem readValue_string (fuel : Nat) (text rest : Text) :
    readValue (fuel + 1) (string text ++ rest) = some (.text text, rest) := by
  have read := readString_flatMap text [] rest
  rw [string, List.cons_append, List.cons_append, List.append_assoc, List.singleton_append, readValue,
    skipSpace_cons rfl]
  simp only
  rw [read]
  rfl

private theorem readValue_number (n : Int) (rest : Text) (fuel : Nat) :
    readValue (fuel + 1) (Text.ofInt n ++ rest) = readNumber (Text.ofInt n ++ rest) := by
  obtain ⟨c, others, written, start⟩ := ofInt_start n
  rw [written, List.cons_append, readValue_scalar fuel _ (isSpace_of_number start) (ne_of_number start _ (by decide))
    (ne_of_number start _ (by decide)) (ne_of_number start _ (by decide)), readScalar_number start]

private theorem reads_scalar {value : Value} (scalar : value.isScalar) : Reads value := by
  intro indent level fuel rest ends enough
  obtain ⟨fuel, rfl⟩ : ∃ less, fuel = less + 1 := ⟨fuel - 1, by omega⟩
  cases value with
  | null => rfl
  | bool b =>
    cases b with
    | false => rfl
    | true => rfl
  | int n =>
    have point : rest.head? ≠ some (.char '.') := by
      intro first
      exact absurd (ends _ first) (by decide)
    rw [valueText, chunks, List.flatMap_singleton, Chunk.toText, List.nil_append, readValue_number,
      readNumber_ofInt n (not_isDigit_of_ends ends) point, readExponent_of_ends ends]
  | decimal mantissa exponent =>
    have digits : ∀ c ∈ (.char 'e' :: (Text.ofInt exponent ++ rest) : Text).head?, ¬ c.isDigit := by
      intro c first
      cases first
      decide
    rw [valueText, chunks, List.flatMap_singleton, Chunk.toText, List.append_assoc, List.cons_append, readValue_number,
      readNumber_ofInt mantissa digits (by simp), readExponent_ofInt exponent ends]
  | text t => rw [valueText, chunks, List.flatMap_singleton, Chunk.toText, readValue_string]
  | list items => cases scalar
  | record fields => cases scalar

/-- If each item is read back, so are all of them with the closing bracket. The fuel left for an item is enough since
every item has a first character. -/
private theorem readItems_itemsText (indent level : Nat) {item : Value} {items : List Value} (reads : Reads item)
    (others : ∀ item ∈ items, Reads item) (fuel outer : Nat) (rest : Text)
    (enough : 2 * (valueText indent level item ++
      itemsText indent level (.char ',' :: lineBreak indent level) items).length + 1 < fuel) :
    readItems fuel (valueText indent level item ++
      (itemsText indent level (.char ',' :: lineBreak indent level) items ++
        (lineBreak indent outer ++ .char ']' :: rest))) = some (item :: items, rest) := by
  induction items generalizing item fuel with
  | nil =>
    obtain ⟨fuel, rfl⟩ : ∃ less, fuel = less + 1 := ⟨fuel - 1, by omega⟩
    have empty : itemsText indent level (.char ',' :: lineBreak indent level) [] = [] := rfl
    rw [empty, List.append_nil] at enough
    rw [empty, List.nil_append, readItems, reads _ _ _ _ (ends_lineBreak _ _ _) (by omega)]
    simp only
    rw [skipSpace_append isSpace_of_mem_lineBreak, skipSpace_cons rfl]
    rfl
  | cons next items ih =>
    obtain ⟨fuel, rfl⟩ : ∃ less, fuel = less + 1 := ⟨fuel - 1, by omega⟩
    rw [itemsText_cons] at enough ⊢
    simp only [List.length_append, List.length_cons] at enough
    simp only [List.append_assoc, List.cons_append]
    rw [readItems, reads _ _ _ _ (ends_comma _) (by omega)]
    simp only
    rw [skipSpace_cons rfl]
    simp only
    have later := ih (others next List.mem_cons_self)
      (fun item inside => others item (List.mem_cons_of_mem next inside)) fuel (by
        simp only [List.length_append]
        omega)
    rw [readItems_lineBreak, later]
    rfl

/-- A field is read up to what follows its value. -/
private theorem readFields_step (fuel indent level : Nat) (name : Text) {value : Value} (reads : Reads value)
    {rest : Text} (ends : Ends rest) (enough : 2 * (valueText indent level value).length < fuel) :
    readFields (fuel + 1) (string name ++ (Text.ofString ": " ++ (valueText indent level value ++ rest))) =
      match skipSpace rest with
      | .char ',' :: rest => (readFields fuel rest).map fun (fields, rest) => ((name, value) :: fields, rest)
      | .char '\x7d' :: rest => some ([(name, value)], rest)
      | _ => none := by
  have start : string name ++ (Text.ofString ": " ++ (valueText indent level value ++ rest)) =
      .char '"' :: (name.flatMap escapeCharacter ++ .char '"' :: .char ':' :: .char ' ' ::
        (valueText indent level value ++ rest)) := by
    simp [string, Text.ofString]
  rw [start, readFields, skipSpace_cons rfl]
  simp only
  have led : readValue fuel (.char ' ' :: (valueText indent level value ++ rest)) = some (value, rest) :=
    (readValue_append [.char ' '] (by simp [isSpace]) fuel _).trans (reads _ _ _ _ ends enough)
  rw [readString_flatMap]
  simp only
  rw [skipSpace_cons rfl]
  simp only
  rw [led]
  rfl

private theorem readFields_fieldsText (indent level : Nat) (name : Text) {value : Value}
    {fields : List (Text × Value)} (reads : Reads value) (others : ∀ field ∈ fields, Reads field.2)
    (fuel outer : Nat) (rest : Text)
    (enough : 2 * (valueText indent level value ++
      fieldsText indent level (.char ',' :: lineBreak indent level) fields).length + 1 < fuel) :
    readFields fuel (string name ++ (Text.ofString ": " ++ (valueText indent level value ++
      (fieldsText indent level (.char ',' :: lineBreak indent level) fields ++
        (lineBreak indent outer ++ .char '\x7d' :: rest))))) = some ((name, value) :: fields, rest) := by
  induction fields generalizing name value fuel with
  | nil =>
    obtain ⟨fuel, rfl⟩ : ∃ less, fuel = less + 1 := ⟨fuel - 1, by omega⟩
    have empty : fieldsText indent level (.char ',' :: lineBreak indent level) [] = [] := rfl
    rw [empty, List.append_nil] at enough
    rw [empty, List.nil_append, readFields_step fuel indent level name reads (ends_lineBreak _ _ _) (by omega),
      skipSpace_append isSpace_of_mem_lineBreak, skipSpace_cons rfl]
    rfl
  | cons next fields ih =>
    obtain ⟨fuel, rfl⟩ : ∃ less, fuel = less + 1 := ⟨fuel - 1, by omega⟩
    obtain ⟨nextName, nextValue⟩ := next
    rw [fieldsText_cons] at enough ⊢
    simp only [List.length_append, List.length_cons] at enough
    simp only [List.append_assoc, List.cons_append]
    rw [readFields_step fuel indent level name reads (ends_comma _) (by omega), skipSpace_cons rfl]
    simp only
    have later := ih nextName (others _ List.mem_cons_self)
      (fun field inside => others field (List.mem_cons_of_mem _ inside)) fuel (by
        simp only [List.length_append]
        omega)
    rw [readFields_lineBreak, later]
    rfl

/-- The text of every value is read back, by induction on the value. -/
theorem reads (value : Value) : Reads value := by
  induction value using Value.induction with
  | scalar value scalar => exact reads_scalar scalar
  | list items ih =>
    intro indent level fuel rest ends enough
    obtain ⟨fuel, rfl⟩ : ∃ less, fuel = less + 1 := ⟨fuel - 1, by omega⟩
    cases items with
    | nil => rfl
    | cons item items =>
      rw [valueText_list, itemsText_cons] at enough ⊢
      simp only [List.length_append, List.length_cons] at enough
      have read := readItems_itemsText indent (level + 1) (ih item List.mem_cons_self)
        (fun other inside => ih other (List.mem_cons_of_mem item inside)) fuel level rest (by
          simp only [List.length_append]
          omega)
      obtain ⟨c, others, start, space, bracket, -⟩ := valueText_start indent (level + 1) item
      simp only [List.cons_append, List.append_assoc, List.nil_append]
      rw [readValue, skipSpace_cons rfl]
      simp only
      rw [start, List.cons_append] at read ⊢
      rw [skipSpace_append isSpace_of_mem_lineBreak, skipSpace_cons space]
      split
      · exact absurd (List.cons.inj ‹_›).1 bracket
      · rw [read]
        rfl
  | record fields ih =>
    intro indent level fuel rest ends enough
    obtain ⟨fuel, rfl⟩ : ∃ less, fuel = less + 1 := ⟨fuel - 1, by omega⟩
    cases fields with
    | nil => rfl
    | cons field fields =>
      obtain ⟨name, value⟩ := field
      rw [valueText_record, fieldsText_cons] at enough ⊢
      simp only [List.length_append, List.length_cons] at enough
      have read := readFields_fieldsText indent (level + 1) name (ih _ List.mem_cons_self)
        (fun other inside => ih other (List.mem_cons_of_mem _ inside)) fuel level rest (by
          simp only [List.length_append]
          omega)
      simp only [List.cons_append, List.append_assoc, List.nil_append]
      rw [readValue, skipSpace_cons rfl]
      simp only
      rw [string, List.cons_append, List.cons_append] at read ⊢
      rw [skipSpace_append isSpace_of_mem_lineBreak, skipSpace_cons rfl]
      exact congrArg (Option.map fun x => (Value.record x.1, x.2)) read

/-- What is written is read back. -/
theorem parse_render (indent : Int) (value : Value) : parse (render indent value) = some value := by
  have whole := reads value indent.toNat 0 (2 * (render indent value).length + 2) [] (by simp [Ends])
    (by rw [render, valueText]; omega)
  rw [List.append_nil] at whole
  rw [parse, show render indent value = valueText indent.toNat 0 value from rfl] at *
  rw [whole]
  rfl

/-! ### Bytes -/

private theorem isEncodable_escapeCharacter {c : CodePoint} :
    Text.IsEncodable (escapeCharacter c) ↔ c.isSurrogate = false := by
  unfold escapeCharacter
  split
  any_goals exact iff_of_true (Text.isEncodable_ofString _) rfl
  split
  · rename_i control
    refine iff_of_true (Text.isEncodable_append.2 ⟨Text.isEncodable_ofString _, ?_⟩) ?_
    · intro d inside
      obtain ⟨d, -, rfl⟩ := List.mem_map.1 inside
      rfl
    · cases c with
      | char c => rfl
      | surrogate offset =>
        simp only [CodePoint.toNat] at control
        omega
  · simp [Text.IsEncodable]

private theorem isEncodable_string {text : Text} : Text.IsEncodable (string text) ↔ text.IsEncodable := by
  have escaped : Text.IsEncodable (text.flatMap escapeCharacter) ↔ text.IsEncodable := by
    rw [Text.IsEncodable, List.forall_mem_flatMap]
    exact forall₂_congr fun c _ => isEncodable_escapeCharacter
  rw [string, List.cons_append, Text.isEncodable_cons, Text.isEncodable_append, escaped]
  exact and_iff_left (by decide)

private theorem isEncodable_ofInt (n : Int) : Text.IsEncodable (Text.ofInt n) := by
  have digits : ∀ n, Text.IsEncodable (Text.ofNat n) := by
    intro n c inside
    obtain ⟨c, -, rfl⟩ := List.mem_map.1 inside
    rfl
  cases n with
  | ofNat n => exact digits n
  | negSucc n => exact Text.isEncodable_cons.2 (digits (n + 1))

private theorem isEncodable_lineBreak (indent level : Nat) : Text.IsEncodable (lineBreak indent level) := by
  intro c inside
  rcases List.mem_cons.1 inside with rfl | inside
  · rfl
  · rw [List.eq_of_mem_replicate inside]
    rfl

private theorem isEncodable_itemsText {indent level : Nat} {items : List Value} {lead : Text}
    (leads : lead.IsEncodable) : Text.IsEncodable (itemsText indent level lead items) ↔
      ∀ item ∈ items, Text.IsEncodable (valueText indent level item) := by
  induction items generalizing lead with
  | nil => exact iff_of_true (fun _ inside => absurd inside List.not_mem_nil) (List.forall_mem_nil _)
  | cons item items ih =>
    rw [itemsText_cons, Text.isEncodable_append, Text.isEncodable_append,
      ih (Text.isEncodable_cons.2 (isEncodable_lineBreak indent level)), List.forall_mem_cons]
    exact and_iff_right leads

private theorem isEncodable_fieldsText {indent level : Nat} {fields : List (Text × Value)} {lead : Text}
    (leads : lead.IsEncodable) : Text.IsEncodable (fieldsText indent level lead fields) ↔
      ∀ field ∈ fields, field.1.IsEncodable ∧ Text.IsEncodable (valueText indent level field.2) := by
  induction fields generalizing lead with
  | nil => exact iff_of_true (fun _ inside => absurd inside List.not_mem_nil) (List.forall_mem_nil _)
  | cons field fields ih =>
    obtain ⟨name, value⟩ := field
    rw [fieldsText_cons, Text.isEncodable_append, Text.isEncodable_append, Text.isEncodable_append,
      Text.isEncodable_append, ih (Text.isEncodable_cons.2 (isEncodable_lineBreak indent level)), isEncodable_string,
      List.forall_mem_cons, and_assoc]
    rw [and_iff_right leads, and_iff_right (Text.isEncodable_ofString _)]

/-- The text of a value has surrogates exactly if a text in it has. -/
theorem isEncodable_valueText (indent level : Nat) (value : Value) :
    Text.IsEncodable (valueText indent level value) ↔ ∀ t ∈ value.texts, t.IsEncodable := by
  have closed : ∀ (level : Nat) (c : Char), Text.IsEncodable (lineBreak indent level ++ [.char c]) := fun level c =>
    Text.isEncodable_append.2 ⟨isEncodable_lineBreak indent level, Text.isEncodable_cons.2 (by simp [Text.IsEncodable])⟩
  have plain : ∀ {level : Nat} {value : Value}, value.texts = [] → Text.IsEncodable (valueText indent level value) →
      (Text.IsEncodable (valueText indent level value) ↔ ∀ t ∈ value.texts, t.IsEncodable) := by
    intro level value none encodable
    exact iff_of_true encodable (by simp [none])
  induction value using Value.induction generalizing level with
  | scalar value scalar =>
    cases value with
    | null => exact plain rfl (Text.isEncodable_ofString "null")
    | bool b =>
      cases b with
      | false => exact plain rfl (Text.isEncodable_ofString "false")
      | true => exact plain rfl (Text.isEncodable_ofString "true")
    | int n =>
      refine plain rfl ?_
      rw [valueText, chunks, List.flatMap_singleton, Chunk.toText]
      exact isEncodable_ofInt n
    | decimal mantissa exponent =>
      refine plain rfl ?_
      rw [valueText, chunks, List.flatMap_singleton, Chunk.toText]
      exact Text.isEncodable_append.2 ⟨isEncodable_ofInt mantissa, Text.isEncodable_cons.2 (isEncodable_ofInt exponent)⟩
    | text t =>
      rw [valueText, chunks, List.flatMap_singleton, Chunk.toText, isEncodable_string]
      simp [Value.texts]
    | list items => cases scalar
    | record fields => cases scalar
  | list items ih =>
    cases items with
    | nil => exact plain rfl (Text.isEncodable_ofString "[]")
    | cons item items =>
      rw [valueText_list, Text.isEncodable_cons, Text.isEncodable_append, and_iff_left (closed level _),
        isEncodable_itemsText (isEncodable_lineBreak indent _), Value.texts]
      simp only [Value.mem_itemTexts]
      constructor
      · rintro h t ⟨other, inside, held⟩
        exact (ih other inside (level + 1)).1 (h other inside) t held
      · intro h other inside
        exact (ih other inside (level + 1)).2 fun t held => h t ⟨other, inside, held⟩
  | record fields ih =>
    cases fields with
    | nil => exact plain rfl (Text.isEncodable_ofString "\x7b\x7d")
    | cons field fields =>
      rw [valueText_record, Text.isEncodable_cons, Text.isEncodable_append, and_iff_left (closed level _),
        isEncodable_fieldsText (isEncodable_lineBreak indent _), Value.texts]
      simp only [Value.mem_fieldTexts]
      constructor
      · rintro h t ⟨other, inside, rfl | held⟩
        · exact (h other inside).1
        · exact (ih other inside (level + 1)).1 (h other inside).2 t held
      · intro h other inside
        refine ⟨h _ ⟨other, inside, .inl rfl⟩, (ih other inside (level + 1)).2 ?_⟩
        exact fun t held => h t ⟨other, inside, .inr held⟩

private theorem numbers_itemChunks {indent level : Nat} {items : List Value} {lead : Text}
    (h : ∀ item ∈ items, (chunks indent level item).filterMap Chunk.number? = item.integers) :
    (itemChunks indent level lead items).filterMap Chunk.number? = Value.itemIntegers items := by
  induction items generalizing lead with
  | nil => rfl
  | cons item items ih =>
    rw [List.forall_mem_cons] at h
    have led : (withLead lead item (chunks indent level item)).filterMap Chunk.number? = item.integers := by
      rw [← h.1, withLead]
      split
      · rw [List.filterMap_map]
        exact congrArg (List.filterMap · _) (funext (Chunk.number?_after lead))
      · rfl
    rw [itemChunks, List.filterMap_append, led, ih h.2, Value.itemIntegers]

private theorem numbers_fieldChunks {indent level : Nat} {fields : List (Text × Value)} {lead : Text}
    (h : ∀ field ∈ fields, (chunks indent level field.2).filterMap Chunk.number? = field.2.integers) :
    (fieldChunks indent level lead fields).filterMap Chunk.number? = Value.fieldIntegers fields := by
  induction fields generalizing lead with
  | nil => rfl
  | cons field fields ih =>
    obtain ⟨name, value⟩ := field
    rw [List.forall_mem_cons] at h
    rw [fieldChunks, List.filterMap_append, ih h.2, Value.fieldIntegers, Value.namedIntegers, ← h.1]
    rfl

/-- The numbers among the chunks of a value are its integers. -/
theorem numbers_chunks (indent level : Nat) (value : Value) :
    (chunks indent level value).filterMap Chunk.number? = value.integers := by
  induction value using Value.induction generalizing level with
  | scalar value scalar =>
    cases value with
    | bool b => cases b <;> rfl
    | list items => cases scalar
    | record fields => cases scalar
    | _ => rfl
  | list items ih =>
    cases items with
    | nil => rfl
    | cons item items =>
      rw [chunks, List.filterMap_append, numbers_itemChunks fun other inside => ih other inside (level + 1),
        Value.integers]
      · exact List.append_nil _
      · simp
  | record fields ih =>
    cases fields with
    | nil => rfl
    | cons field fields =>
      rw [chunks, List.filterMap_append, List.filterMap_cons_none rfl,
        numbers_fieldChunks fun other inside => ih other inside (level + 1), Value.integers]
      · exact List.append_nil _
      · simp

end Json

namespace ReportWriter

end ReportWriter

namespace SurveyReport

end SurveyReport
end SqlSurvey
