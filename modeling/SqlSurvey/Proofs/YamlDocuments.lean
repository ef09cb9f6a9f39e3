import SqlSurvey.Proofs.YamlLiterals
import SqlSurvey.Proofs.YamlQuotes

/-! # YAML documents read back

Every regular value is read from its document. A reader sees a line feed for each next-line character, and what it
makes of a text follows from the style of the text. Where the next line starts is what ends a scalar, a list or a
record: each is read up to a line that starts to its left. -/
namespace SqlSurvey.Yaml

/-! ### What is read -/

/-- What a text is read as, by the style in which it is written. -/
def seenText (block : Bool) (text : Text) : Text :=
  match styleOf block text with
  | .plain | .doubleQuoted => text
  | .singleQuoted => seenQuoted text
  | .literal => text.map seenAs

mutual
def seen (layout : Layout) (field : Option Text) : Value → Value
  | .text t => .text (seenText (wantsBlock layout field t) t)
  | .list items => .list (seenInItems layout items)
  | .record fields => .record (seenInFields layout fields)
  | .null => .null
  | .bool b => .bool b
  | .int n => .int n
  | .decimal mantissa exponent => .decimal mantissa exponent
termination_by structural value => value

def seenInItems (layout : Layout) : List Value → List Value
  | [] => []
  | item :: items => seen layout none item :: seenInItems layout items
termination_by structural items => items

def seenInFields (layout : Layout) : List (Text × Value) → List (Text × Value)
  | [] => []
  | field :: fields => seenInField layout field :: seenInFields layout fields
termination_by structural fields => fields

def seenInField (layout : Layout) : Text × Value → Text × Value
  | (name, value) => (name, seen layout (some name) value)
termination_by structural field => field
end

/-! ### Values on one line -/

/-- The text starts with a character that is neither a space nor a break. -/
def Starts (text : Text) : Prop := ∃ c rest, text = c :: rest ∧ isSpace c = false ∧ isBreak c = false

/-- The text starts with a scalar or an empty list or record that is read as a value. -/
structure ReadsInline (least : Nat) (text : Text) (value : Value) (next : Place) : Prop where
  starts : Starts text
  notItem : startsItem text = false
  notName : readName? text = none
  reads : readInline least text = some (value, next)

section Inline

variable {least : Nat} {text rest tail : Text} {value : Value} {next : Place}

private theorem ne_of_nameCharacter {c d : CodePoint} (letter : nameCharacters.has c)
    (other : nameCharacters.has d = false) : c ≠ d := by
  rintro rfl
  simp [letter] at other

private theorem separates_of_nameCharacter {c : CodePoint} (letter : nameCharacters.has c) : separates c = false := by
  have other : ∀ d, nameCharacters.has d = false → (c == d) = false := fun d no =>
    beq_eq_false_iff_ne.2 (ne_of_nameCharacter letter no)
  simp only [separates, isSpace, isBreak, other (.char ' ') (by decide), other (.char '\n') (by decide),
    other (.char '\u0085') (by decide), other (.char '\u2028') (by decide), other (.char '\u2029') (by decide),
    other (.char '\t') (by decide), other (.char '\r') (by decide), other (.char '\x00') (by decide)]
  rfl

private theorem readName?_eq_some {name : Text} (h : readName? text = some (name, rest)) :
    text = name ++ .char ':' :: rest ∧ IsName name ∧ startsSeparated rest := by
  obtain ⟨after, whole⟩ := List.takeWhile_prefix (l := text) nameCharacters.has
  have dropped : text.drop (text.takeWhile nameCharacters.has).length = after :=
    (congrArg (List.drop (text.takeWhile nameCharacters.has).length) whole).symm.trans List.drop_left
  unfold readName? at h
  dsimp only at h
  rw [dropped] at h
  split at h
  · split at h
    · rename_i fits
      cases h
      exact ⟨whole.symm, fits⟩
    · cases h
  · cases h

private theorem readPlain_name {column : Nat} {name : Text} (letters : ∀ c ∈ name, nameCharacters.has c)
    (separated : startsSeparated rest) : readPlain least .none column (name ++ .char ':' :: rest) = none := by
  induction name generalizing column with
  | nil => simp [readPlain, isSpace, isBreak, Gap.isLines, separated]
  | cons c name ih =>
    rw [List.forall_mem_cons] at letters
    have joined := separates_of_nameCharacter letters.1
    rw [List.cons_append, readPlain, isSpace_of_separates joined, if_neg (by simp), isBreak_of_separates joined,
      if_neg (by simp), if_neg (by simp [Gap.isLines]), ih letters.2]
    split <;> rfl

private theorem ReadsInline.of_plain {meant : Text} (plain : startsPlain text)
    (reads : readPlain least .none 0 text = some (meant, next)) (resolves : resolve meant = some value) :
    ReadsInline least text value next where
  starts := by
    cases text with
    | nil => cases plain
    | cons c rest =>
      refine ⟨c, rest, rfl, ?_⟩
      rw [startsPlain] at plain
      split at plain
      next sign =>
        have known : ∀ c ∈ Text.ofString "?:-", isSpace c = false ∧ isBreak c = false := by decide
        exact known c (List.contains_iff_mem.1 sign)
      next =>
        have joined : separates c = false := by
          simp only [Bool.and_eq_true, Bool.not_eq_true'] at plain
          exact plain.1
        exact ⟨isSpace_of_separates joined, isBreak_of_separates joined⟩
  notItem := by
    unfold startsItem
    split
    · simpa [startsPlain, Text.ofString] using plain
    · rfl
  notName := by
    rw [Option.eq_none_iff_forall_ne_some]
    rintro ⟨name, rest⟩ found
    obtain ⟨rfl, named, separated⟩ := readName?_eq_some found
    rw [readPlain_name named.2.2.1 separated] at reads
    cases reads
  reads := by
    unfold readInline
    split
    case _ | _ | _ | _ | _ => cases plain
    case _ => rw [if_pos plain, reads]; simp [resolves]

/-- The marks with which a value may start on its line. -/
private def openings : List CodePoint := [.char '[', .char '\x7b', .char '\'', .char '"', .char '|']

private theorem ReadsInline.of_opening {c : CodePoint} (opening : c ∈ openings)
    (reads : readInline least (c :: rest) = some (value, next)) : ReadsInline least (c :: rest) value next where
  starts := by
    have known : ∀ c ∈ openings, isSpace c = false ∧ isBreak c = false := by decide
    exact ⟨c, rest, rfl, known c opening⟩
  notItem := by
    have known : ∀ c ∈ openings, c ≠ .char '-' := by decide
    unfold startsItem
    split
    · rename_i same
      exact absurd (List.cons.inj same).1 (known c opening)
    · rfl
  notName := by
    have known : ∀ c ∈ openings, nameCharacters.has c = false := by decide
    rw [Option.eq_none_iff_forall_ne_some]
    rintro ⟨name, rest⟩ found
    obtain ⟨whole, named, -⟩ := readName?_eq_some found
    obtain ⟨d, name, rfl⟩ := List.exists_cons_of_ne_nil named.1
    have letter := named.2.2.1 d List.mem_cons_self
    rw [← (List.cons.inj whole).1, known c opening] at letter
    cases letter
  reads := reads

private theorem startsPlain_of_nameCharacter {c : CodePoint} (letter : nameCharacters.has c) :
    startsPlain (c :: rest) := by
  have apart : ∀ marks : Text, (∀ d ∈ marks, nameCharacters.has d = false) → marks.contains c = false := by
    intro marks no
    rw [← Bool.not_eq_true, List.contains_iff_mem]
    exact fun inside => ne_of_nameCharacter letter (no c inside) rfl
  rw [startsPlain, apart (Text.ofString "?:-") (by decide), if_neg (by simp), separates_of_nameCharacter letter,
    apart (Text.ofString "#,[]\x7b\x7d&*!|>'\"%@`") (by decide)]
  rfl

/-- A word of simple characters, maybe behind a minus sign, is read as what it resolves to. -/
private theorem readsInline_word {sign word : Text} (signed : sign = [] ∨ sign = [.char '-']) (nonempty : word ≠ [])
    (letters : ∀ c ∈ word, nameCharacters.has c) (resolves : resolve (sign ++ word) = some value)
    (outdented : Outdented least tail) :
    ReadsInline least (sign ++ word ++ .char '\n' :: tail) value (skip 0 tail) := by
  have joined : ∀ c ∈ sign ++ word, separates c = false := by
    rw [List.forall_mem_append]
    refine ⟨?_, fun c inside => separates_of_nameCharacter (letters c inside)⟩
    rcases signed with rfl | rfl <;> decide
  have last : (sign ++ word).getLast? ≠ some (.char ':') := by
    rw [List.getLast?_append_of_ne_nil _ nonempty]
    exact fun ends => ne_of_nameCharacter (letters _ (List.mem_of_getLast? ends)) (by decide) rfl
  have plain : startsPlain (sign ++ word ++ .char '\n' :: tail) := by
    obtain ⟨c, word, rfl⟩ := List.exists_cons_of_ne_nil nonempty
    have letter := letters c List.mem_cons_self
    rcases signed with rfl | rfl
    · exact startsPlain_of_nameCharacter letter
    · have digit := separates_of_nameCharacter letter
      simp [startsPlain, startsSeparated, Text.ofString, digit]
  exact .of_plain plain (readPlain_single (by simp [nonempty]) joined last outdented) resolves

private theorem readsInline_int (n : Int) (outdented : Outdented least tail) :
    ReadsInline least (Text.ofInt n ++ .char '\n' :: tail) (.int n) (skip 0 tail) := by
  have digits : ∀ n, ∀ c ∈ Text.ofNat n, nameCharacters.has c := by
    intro n c inside
    have digit := Text.isDigit_of_mem_ofNat inside
    exact List.any_eq_true.2 ⟨(0x30, 0x39), by decide, digit⟩
  cases n with
  | ofNat n => exact readsInline_word (.inl rfl) (Text.ofNat_ne_nil n) (digits n) (resolve_ofInt n) outdented
  | negSucc n =>
    exact readsInline_word (.inr rfl) (Text.ofNat_ne_nil (n + 1)) (digits (n + 1)) (resolve_ofInt (.negSucc n))
      outdented

theorem allows_of_styleOf (block : Bool) (text : Text) :
    (styleOf block text = .plain → allowsPlain text) ∧
      (styleOf block text = .singleQuoted → allowsSingleQuotes text) ∧ (styleOf block text = .literal → block) := by
  unfold styleOf
  split
  next asked => exact ⟨by split <;> simp, by split <;> simp, fun _ => asked⟩
  next =>
    split
    next allowed => exact ⟨fun _ => allowed, by simp, by simp⟩
    next =>
      split
      next allowed => exact ⟨by simp, fun _ => allowed, by simp⟩
      next => exact ⟨by simp, by simp, by simp⟩

theorem not_mem_of_allowsPlain (allowed : allowsPlain text) : .char '\u0085' ∉ text := by
  simp only [allowsPlain, Bool.not_eq_true', Bool.or_eq_false_iff] at allowed
  obtain ⟨⟨⟨⟨⟨⟨-, breaks⟩, -⟩, -⟩, -⟩, -⟩, -⟩ := allowed
  intro inside
  exact List.any_eq_false.1 breaks _ inside rfl

/-- A text in any of the four styles is read up to the end of its lines. -/
private theorem readsInline_scalar {column start step : Nat} {block : Bool} (least : 1 < step) (greatest : step < 10)
    (room : column + step < width) (nonempty : block → text ≠ []) (outdented : Outdented (column + 1) tail) :
    ReadsInline (column + 1) ((scalar step (column + step) start block text).map seenAs ++ tail)
      (.text (seenText block text)) (skip 0 tail) := by
  obtain ⟨plain, single, literal⟩ := allows_of_styleOf block text
  have standing : ∀ c, c ∈ scalar step (column + step) start block text → IsMark c ∨ Stands block text c :=
    fun c => mem_scalar
  unfold scalar at standing ⊢
  unfold seenText
  cases style : styleOf block text with
  | plain =>
    have allowed := plain style
    have absent : .char '\u0085' ∉ plainRuns (column + step) start (runs text) ++ [.char '\n'] := by
      intro inside
      rw [style] at standing
      rcases standing _ inside with mark | ⟨written, -⟩
      · exact absurd mark (by decide)
      · exact not_mem_of_allowsPlain allowed written
    rw [map_seenAs absent, List.append_assoc]
    exact .of_plain (startsPlain_plain allowed) (readPlain_plain allowed (by omega) outdented)
      (resolve_of_allowsPlain allowed)
  | singleQuoted =>
    dsimp only
    rw [List.cons_append, List.map_cons, List.map_append, List.cons_append, List.append_assoc]
    refine .of_opening (by decide) ?_
    have whole : readSingle .none ((singleQuotedRuns (column + step) true (start + 1) (runs text)).map seenAs ++
        .char '\'' :: .char '\n' :: tail) = some (seenQuoted text, .char '\n' :: tail) :=
      readSingle_singleQuoted (single style) (by omega) (by simp)
    exact (congrArg closed whole).trans rfl
  | doubleQuoted =>
    have absent : .char '\u0085' ∉ (.char '"' :: doubleQuotedFrom (column + step) true true (start + 1) text ++
        Text.ofString "\"\n" : Text) := by
      intro inside
      rw [style] at standing
      rcases standing _ inside with mark | ⟨-, itself⟩
      · exact absurd mark (by decide)
      · exact absurd (itself style) (by decide)
    rw [map_seenAs absent, List.cons_append, List.cons_append, List.append_assoc]
    refine .of_opening (by decide) ?_
    have whole : readDouble (.within .none) (doubleQuotedFrom (column + step) true true (start + 1) text ++
        .char '"' :: .char '\n' :: tail) = some (text, .char '\n' :: tail) :=
      readDouble_doubleQuoted (by omega) room
    exact (congrArg closed whole).trans rfl
  | literal =>
    dsimp only
    rw [List.cons_append, List.map_cons, List.cons_append]
    refine .of_opening (by decide) ?_
    have whole := readBlock_seen (nonempty (literal style)) least greatest outdented
    exact congrArg (Option.map fun found => (Value.text found.1, found.2)) whole

private theorem readsInline_fixed (word : String) (nonempty : Text.ofString word ≠ [])
    (letters : ∀ c ∈ Text.ofString word, nameCharacters.has c) (resolves : resolve (Text.ofString word) = some value)
    (outdented : Outdented least tail) :
    ReadsInline least (Text.ofString word ++ [.char '\n'] ++ tail) value (skip 0 tail) := by
  rw [List.append_assoc]
  exact readsInline_word (.inl rfl) nonempty letters resolves outdented

private theorem map_inline {layout : Layout} {field : Option Text} {indent start : Nat}
    (bare : placedTexts field value = []) :
    (inline layout field indent start value).map seenAs = inline layout field indent start value := by
  refine map_seenAs fun inside => ?_
  rcases mem_inline inside with mark | ⟨leaf, placed, -⟩
  · exact absurd mark (by decide)
  · rw [bare] at placed
    cases placed

theorem readsInline_inline {layout : Layout} (narrow : 1 < layout.step) (wide : layout.step < 10) {depth : Nat}
    (regular : Regular depth value) (flat : hasLines value = false) (field : Option Text) (start : Nat) {column : Nat}
    (room : column + layout.step < width) (outdented : Outdented (column + 1) tail) :
    ReadsInline (column + 1) ((inline layout field (column + layout.step) start value).map seenAs ++ tail)
      (seen layout field value) (skip 0 tail) := by
  cases value with
  | null =>
    rw [map_inline rfl]
    exact readsInline_fixed "null" (by decide) (by decide) rfl outdented
  | bool b =>
    rw [map_inline rfl]
    cases b with
    | false => exact readsInline_fixed "false" (by decide) (by decide) rfl outdented
    | true => exact readsInline_fixed "true" (by decide) (by decide) rfl outdented
  | int n =>
    rw [map_inline rfl, inline, List.append_assoc]
    exact readsInline_int n outdented
  | decimal mantissa exponent =>
    cases regular with
    | scalar _ whole => exact absurd rfl (whole mantissa exponent)
  | text t =>
    refine readsInline_scalar narrow wide room ?_ outdented
    rintro block rfl
    simp [wantsBlock] at block
  | list items =>
    obtain rfl : items = [] := by simpa [hasLines] using flat
    rw [map_inline rfl]
    exact .of_opening (by decide) rfl
  | record fields =>
    obtain rfl : fields = [] := by simpa [hasLines] using flat
    rw [map_inline rfl]
    exact .of_opening (by decide) rfl

end Inline

/-! ### Lists and records -/

theorem Outdented.mono {least other : Nat} {tail : Text} (outdented : Outdented least tail) (le : least ≤ other) :
    Outdented other tail := by
  rcases outdented with rfl | ⟨column, c, rest, rfl, left, notSpace, notBreak⟩
  · exact .inl rfl
  · exact .inr ⟨column, c, rest, rfl, by omega, notSpace, notBreak⟩

/-- What may come behind the lines of a value at a column: something to their left or, behind a list, what is not an
item of it. -/
def Follows (column : Nat) (tail : Text) : Value → Prop
  | .record _ => Outdented column tail
  | _ => Outdented (column + 1) tail ∧ ¬ ((skip 0 tail).column = column ∧ startsItem (skip 0 tail).rest)

section Documents

variable {layout : Layout} {depth column least fuel : Nat} {text rest tail : Text} {value item : Value}
  {items : List Value} {fields : List (Text × Value)}

private theorem Starts.append (starts : Starts text) (tail : Text) : Starts (text ++ tail) := by
  obtain ⟨c, rest, rfl, other⟩ := starts
  exact ⟨c, rest ++ tail, rfl, other⟩

private theorem Starts.length_pos (starts : Starts text) : 0 < text.length := by
  obtain ⟨c, rest, rfl, -⟩ := starts
  exact Nat.succ_pos rest.length

private theorem skip_starts (starts : Starts text) (start count : Nat) :
    skip start (spaces count ++ text) = ⟨start + count, text⟩ := by
  obtain ⟨c, rest, rfl, notSpace, notBreak⟩ := starts
  rw [skip_spaces (fun _ => isSpace_of_mem_spaces), spaces, List.length_replicate, skip, notSpace, if_neg (by simp),
    notBreak, if_neg (by simp)]

private theorem outdented_starts (starts : Starts text) (column : Nat) :
    Outdented (column + 1) (spaces column ++ text) := by
  obtain ⟨c, rest, rfl, notSpace, notBreak⟩ := starts
  exact .inr ⟨column, c, rest, rfl, by omega, notSpace, notBreak⟩

private theorem skip_outdented (outdented : Outdented column tail) :
    (skip 0 tail).rest = [] ∨ (skip 0 tail).column < column := by
  rcases outdented with rfl | ⟨start, c, rest, rfl, left, notSpace, notBreak⟩
  · exact .inl rfl
  · rw [skip_starts ⟨c, rest, rfl, notSpace, notBreak⟩, Nat.zero_add]
    exact .inr left

private theorem follows_of_outdented (outdented : Outdented column tail) (value : Value) :
    Follows column tail value := by
  have other : ¬ ((skip 0 tail).column = column ∧ startsItem (skip 0 tail).rest) := by
    rintro ⟨same, starts⟩
    rcases skip_outdented outdented with ended | left
    · rw [ended] at starts
      cases starts
    · omega
  cases value with
  | record fields => exact outdented
  | null | bool | int | decimal | text | list => exact ⟨outdented.mono (by omega), other⟩

/-- What a reader sees behind the dash of an item. -/
private def itemText (layout : Layout) (column : Nat) (item : Value) : Text :=
  if hasLines item then spaces (layout.step - 1) ++ (lines layout (column + layout.step) [] item).map seenAs
  else .char ' ' :: (inline layout none (column + layout.step) (column + 2) item).map seenAs

/-- What a reader sees behind the colon of a field. -/
private def heldText (layout : Layout) (column : Nat) (name : Text) (value : Value) : Text :=
  if hasLines value then
    .char '\n' :: (spaces (innerColumn layout column value) ++
      (lines layout (innerColumn layout column value) [] value).map seenAs)
  else .char ' ' :: (inline layout (some name) (column + layout.step) (column + name.length + 2) value).map seenAs

/-- What a reader sees of a list from its first dash on. -/
private def itemsText (layout : Layout) (column : Nat) (items : List Value) : Text :=
  (itemLines layout column [] items).map seenAs

/-- What a reader sees of a record from its first name on. -/
private def fieldsText (layout : Layout) (column : Nat) (fields : List (Text × Value)) : Text :=
  (fieldLines layout column [] fields).map seenAs

private theorem map_spaces (count : Nat) : (spaces count).map seenAs = spaces count := List.map_replicate

private theorem map_name {name : Text} (named : IsName name) : name.map seenAs = name :=
  map_seenAs fun inside => absurd (named.2.2.1 _ inside) (by decide)

private theorem lines_lead (lead : Text) (has : hasLines value) :
    lines layout column lead value = lead ++ lines layout column [] value := by
  cases value with
  | list items =>
    cases items with
    | nil => cases has
    | cons item items => simp [lines, itemLines]
  | record fields =>
    cases fields with
    | nil => cases has
    | cons field fields => simp [lines, fieldLines]
  | null | bool | int | decimal | text => cases has

private def laterItems (layout : Layout) (column : Nat) : List Value → Text
  | [] => []
  | item :: items => spaces column ++ itemsText layout column (item :: items)

private def laterFields (layout : Layout) (column : Nat) : List (Text × Value) → Text
  | [] => []
  | field :: fields => spaces column ++ fieldsText layout column (field :: fields)

private theorem itemsText_cons :
    itemsText layout column (item :: items) =
      .char '-' :: (itemText layout column item ++ laterItems layout column items) := by
  have later : (itemLines layout column (spaces column) items).map seenAs = laterItems layout column items := by
    cases items with
    | nil => rfl
    | cons item items =>
      have ahead : itemLines layout column (spaces column) (item :: items) =
          spaces column ++ itemLines layout column [] (item :: items) := by simp [itemLines]
      rw [ahead, List.map_append, map_spaces]
      rfl
  rw [itemsText, itemLines, itemText, List.nil_append, List.cons_append, List.map_cons, List.map_append, later]
  congr 2
  split
  · rw [List.map_append, map_spaces]
  · rfl

private theorem fieldsText_cons {name : Text} (named : IsName name) :
    fieldsText layout column ((name, value) :: fields) =
      name ++ .char ':' :: (heldText layout column name value ++ laterFields layout column fields) := by
  have later : (fieldLines layout column (spaces column) fields).map seenAs = laterFields layout column fields := by
    cases fields with
    | nil => rfl
    | cons field fields =>
      have ahead : fieldLines layout column (spaces column) (field :: fields) =
          spaces column ++ fieldLines layout column [] (field :: fields) := by simp [fieldLines]
      rw [ahead, List.map_append, map_spaces]
      rfl
  rw [fieldsText, fieldLines, List.nil_append, fieldLine_eq, List.map_append, later, List.map_append, map_name named,
    List.map_cons, List.append_assoc, List.cons_append, heldText]
  congr 3
  split
  next has => rw [lines_lead _ has, List.map_cons, List.map_append, map_spaces]; rfl
  next => rfl

private theorem startsItem_itemsText (narrow : 1 < layout.step) (nonempty : items ≠ []) :
    startsItem (itemsText layout column items ++ tail) := by
  obtain ⟨item, items, rfl⟩ := List.exists_cons_of_ne_nil nonempty
  rw [itemsText_cons, itemText]
  split
  · obtain ⟨count, more⟩ : ∃ count, layout.step - 1 = count + 1 := ⟨layout.step - 2, by omega⟩
    rw [more]
    rfl
  · rfl

private theorem startsSeparated_heldText {name : Text} :
    startsSeparated (heldText layout column name value ++ rest) := by
  unfold heldText
  split <;> rfl

private theorem readName?_name {name : Text} (named : IsName name) (separated : startsSeparated rest) :
    readName? (name ++ .char ':' :: rest) = some (name, rest) := by
  have taken : (name ++ .char ':' :: rest).takeWhile nameCharacters.has = name := by
    rw [List.takeWhile_append_of_pos named.2.2.1]
    exact List.append_nil name
  simp only [readName?, taken, List.drop_left]
  rw [if_pos ⟨named, separated⟩]

private theorem startsItem_name {name : Text} (named : IsName name) : startsItem (name ++ rest) = false := by
  obtain ⟨c, name, rfl⟩ := List.exists_cons_of_ne_nil named.1
  have letter := named.2.2.1 c List.mem_cons_self
  unfold startsItem
  split
  · rename_i same
    exact absurd (List.cons.inj same).1 (ne_of_nameCharacter letter (by decide))
  · rfl

private theorem opens_fieldsText (layout : Layout) (column : Nat) (tail : Text) (nonempty : fields ≠ [])
    (named : ∀ field ∈ fields, IsName field.1) :
    startsItem (fieldsText layout column fields ++ tail) = false ∧
      (readName? (fieldsText layout column fields ++ tail)).isSome := by
  obtain ⟨⟨name, value⟩, fields, rfl⟩ := List.exists_cons_of_ne_nil nonempty
  have simple := named (name, value) List.mem_cons_self
  rw [fieldsText_cons simple, List.append_assoc, List.cons_append, List.append_assoc,
    readName?_name simple startsSeparated_heldText]
  exact ⟨startsItem_name simple, rfl⟩

private theorem starts_itemsText (layout : Layout) (column : Nat) (item : Value) (items : List Value) :
    Starts (itemsText layout column (item :: items)) := by
  rw [itemsText_cons]
  exact ⟨_, _, rfl, rfl, rfl⟩

private theorem starts_fieldsText (layout : Layout) (column : Nat) {field : Text × Value} (named : IsName field.1)
    (fields : List (Text × Value)) : Starts (fieldsText layout column (field :: fields)) := by
  obtain ⟨name, value⟩ := field
  rw [fieldsText_cons named]
  obtain ⟨c, name, rfl⟩ := List.exists_cons_of_ne_nil named.1
  have joined := separates_of_nameCharacter (named.2.2.1 c List.mem_cons_self)
  exact ⟨_, _, rfl, isSpace_of_separates joined, isBreak_of_separates joined⟩

/-- A regular value with lines is a list or a record that is not empty. -/
private theorem list_or_record (regular : Regular depth value) (has : hasLines value) :
    (∃ item items, value = .list (item :: items)) ∨
      ∃ field fields, value = .record (field :: fields) ∧ ∀ other ∈ field :: fields, IsName other.1 := by
  cases regular with
  | scalar isScalar whole =>
    cases value with
    | list items => cases isScalar
    | record fields => cases isScalar
    | null | bool | int | decimal | text => cases has
  | @list depth items all =>
    cases items with
    | nil => cases has
    | cons item items => exact .inl ⟨item, items, rfl⟩
  | @record depth fields distinct named all =>
    cases fields with
    | nil => cases has
    | cons field fields => exact .inr ⟨field, fields, rfl, named⟩

private theorem starts_lines (layout : Layout) (column : Nat) (regular : Regular depth value) (has : hasLines value) :
    Starts ((lines layout column [] value).map seenAs) := by
  rcases list_or_record regular has with ⟨item, items, rfl⟩ | ⟨field, fields, rfl, named⟩
  · exact starts_itemsText layout column item items
  · exact starts_fieldsText layout column (named field List.mem_cons_self) fields

/-! ### Steps of the readers -/

/-- One item is read, and the rest of the list if a dash stands at the same column. -/
private theorem readItems_step {next : Place} (inside : column < (skip (column + 1) text).column)
    (reads : readNode fuel (column + 1) (skip (column + 1) text) = some (item, next)) :
    readItems (fuel + 1) column (.char '-' :: text) =
      if next.column = column && startsItem next.rest then
        (readItems fuel column next.rest).map fun found => (item :: found.1, found.2)
      else some ([item], next) := by
  rw [readItems]
  simp only [List.drop_succ_cons, List.drop_zero, if_pos inside, reads, Option.map_eq_bind]
  rfl

private theorem readFields_step {name : Text} {earlier : List Text} {next : Place} (named : IsName name)
    (separated : startsSeparated rest) (new : name ∉ earlier) (reads : readHeld fuel column rest = some (value, next)) :
    readFields (fuel + 1) column earlier (name ++ .char ':' :: rest) =
      if next.column = column && !next.rest.isEmpty then
        (readFields fuel column (name :: earlier) next.rest).map fun found => ((name, value) :: found.1, found.2)
      else some ([(name, value)], next) := by
  have unseen : ¬ earlier.contains name := by simpa using new
  rw [readFields, readName?_name named separated]
  simp only [Option.bind_eq_bind, Option.bind_some, if_neg unseen, reads, Option.map_eq_bind]
  rfl

/-- The lines of a value are read at every column that leaves room for its depth. -/
private def ReadsBack (layout : Layout) (depth : Nat) (value : Value) : Prop :=
  ∀ {column least fuel : Nat} {tail : Text}, hasLines value → column + 9 * depth < width →
    Follows column tail value → 3 * ((lines layout column [] value).map seenAs ++ tail).length ≤ fuel →
    ∀ field, readNode fuel least ⟨column, (lines layout column [] value).map seenAs ++ tail⟩ =
      some (seen layout field value, skip 0 tail)

private theorem readNode_inline {next : Place} {start : Nat} (inline : ReadsInline least text value next) :
    readNode (fuel + 1) least ⟨start, text⟩ = some (value, next) := by
  rw [readNode, inline.notItem, if_neg (by simp), inline.notName, if_neg (by simp), inline.reads]

section Steps

variable (narrow : 1 < layout.step) (wide : layout.step < 10)

include narrow wide

private theorem readNode_item (regular : Regular depth item) (back : ReadsBack layout depth item)
    (room : column + 9 * (depth + 1) < width) (outdented : Outdented (column + 1) tail)
    (enough : 3 * (itemText layout column item ++ tail).length ≤ fuel) :
    column < (skip (column + 1) (itemText layout column item ++ tail)).column ∧
      readNode fuel (column + 1) (skip (column + 1) (itemText layout column item ++ tail)) =
        some (seen layout none item, skip 0 tail) := by
  cases has : hasLines item with
  | true =>
    rw [itemText, if_pos has, List.append_assoc] at enough ⊢
    rw [skip_starts ((starts_lines layout (column + layout.step) regular has).append tail),
      show column + 1 + (layout.step - 1) = column + layout.step by omega]
    rw [List.length_append] at enough
    exact ⟨by dsimp only; omega,
      back has (by omega) (follows_of_outdented (outdented.mono (by omega)) item) (by omega) none⟩
  | false =>
    have inline := readsInline_inline narrow wide regular has none (column + 2) (by omega) outdented
    rw [itemText, has, if_neg (by simp), List.cons_append] at enough ⊢
    obtain ⟨fuel, rfl⟩ : ∃ more, fuel = more + 1 := ⟨fuel - 1, by rw [List.length_cons] at enough; omega⟩
    have place : skip (column + 1)
        (.char ' ' :: ((Yaml.inline layout none (column + layout.step) (column + 2) item).map seenAs ++ tail)) =
        ⟨column + 2, (Yaml.inline layout none (column + layout.step) (column + 2) item).map seenAs ++ tail⟩ :=
      skip_starts inline.starts (column + 1) 1
    rw [place]
    exact ⟨by dsimp only; omega, readNode_inline inline⟩

private theorem readHeld_value {name : Text} (regular : Regular depth value) (back : ReadsBack layout depth value)
    (room : column + 9 * (depth + 1) < width) (outdented : Outdented (column + 1) tail)
    (other : ¬ ((skip 0 tail).column = column ∧ startsItem (skip 0 tail).rest))
    (enough : 3 * (heldText layout column name value ++ tail).length ≤ fuel) :
    readHeld fuel column (heldText layout column name value ++ tail) =
      some (seen layout (some name) value, skip 0 tail) := by
  obtain ⟨fuel, rfl⟩ : ∃ more, fuel = more + 1 := by
    refine ⟨fuel - 1, ?_⟩
    have : 0 < (heldText layout column name value ++ tail).length := by
      unfold heldText
      split <;> simp
    omega
  cases has : hasLines value with
  | true =>
    rw [heldText, if_pos has, List.cons_append, List.append_assoc] at enough ⊢
    rw [List.length_cons, List.length_append] at enough
    simp only [readHeld, show ∀ rest, lineEnd (.char '\n' :: rest) = some rest from fun _ => rfl,
      skip_starts ((starts_lines layout (innerColumn layout column value) regular has).append tail), Nat.zero_add]
    cases value with
    | record fields =>
      rw [innerColumn] at enough ⊢
      rw [if_pos (by omega)]
      exact back has (by omega) (outdented.mono (by omega)) (by omega) (some name)
    | list items =>
      -- A list below a name stands at the column of the name.
      have inner : innerColumn layout column (.list items) = column := rfl
      have dash : startsItem ((lines layout column [] (.list items)).map seenAs ++ tail) :=
        startsItem_itemsText narrow (by simpa [hasLines] using has)
      rw [inner] at enough ⊢
      have whole : readNode (fuel + 1) 0 ⟨column, (lines layout column [] (.list items)).map seenAs ++ tail⟩ =
          some (seen layout (some name) (.list items), skip 0 tail) :=
        back has (by omega) ⟨outdented, other⟩ (by omega) (some name)
      rw [readNode, if_pos dash] at whole
      rw [if_neg (by omega), dash, if_pos (by simp)]
      exact whole
    | null | bool | int | decimal | text => cases has
  | false =>
    have inline := readsInline_inline narrow wide regular has (some name) (column + name.length + 2) (by omega)
      outdented
    obtain ⟨c, rest, starts, notSpace, notBreak⟩ := inline.starts
    rw [heldText, has, if_neg (by simp), List.cons_append, starts]
    rw [starts] at inline
    have sameLine : lineEnd (.char ' ' :: c :: rest) = none := by
      rw [lineEnd, if_pos (by decide), lineEnd, notSpace, if_neg (by simp), notBreak, if_neg (by simp)]
    have unspaced : (CodePoint.char ' ' :: c :: rest).dropWhile isSpace = c :: rest := by
      rw [List.dropWhile_cons_of_pos (by decide), List.dropWhile_cons_of_neg (by simp [notSpace])]
    simp only [readHeld, sameLine, unspaced, inline.reads]

/-- Items that are read back one by one are read back as a list. -/
private theorem readItems_items (nonempty : items ≠ []) (regular : ∀ item ∈ items, Regular depth item)
    (back : ∀ item ∈ items, ReadsBack layout depth item) (room : column + 9 * (depth + 1) < width)
    (outdented : Outdented (column + 1) tail)
    (other : ¬ ((skip 0 tail).column = column ∧ startsItem (skip 0 tail).rest))
    (enough : 3 * (itemsText layout column items ++ tail).length ≤ fuel + 1) :
    readItems fuel column (itemsText layout column items ++ tail) = some (seenInItems layout items, skip 0 tail) := by
  induction items generalizing fuel with
  | nil => exact absurd rfl nonempty
  | cons item items ih =>
    rw [List.forall_mem_cons] at regular back
    rw [itemsText_cons, List.cons_append, List.append_assoc] at enough ⊢
    rw [List.length_cons] at enough
    obtain ⟨fuel, rfl⟩ : ∃ more, fuel = more + 1 := ⟨fuel - 1, by omega⟩
    have spare : 3 * (itemText layout column item ++ (laterItems layout column items ++ tail)).length ≤ fuel := by
      omega
    cases items with
    | nil =>
      obtain ⟨inside, reads⟩ := readNode_item narrow wide regular.1 back.1 room outdented spare
      exact (readItems_step inside reads).trans (if_neg (by simpa using other))
    | cons following items =>
      have dash : startsItem (itemsText layout column (following :: items) ++ tail) :=
        startsItem_itemsText narrow (by simp)
      have starts := (starts_itemsText layout column following items).append tail
      rw [laterItems, List.append_assoc] at spare ⊢
      obtain ⟨inside, reads⟩ := readNode_item narrow wide regular.1 back.1 room (outdented_starts starts column) spare
      rw [skip_starts starts, Nat.zero_add] at reads
      rw [List.length_append, List.length_append] at spare
      rw [readItems_step inside reads, if_pos (by simp [dash]), ih (by simp) regular.2 back.2 (by omega),
        Option.map_some]
      rfl

private theorem readFields_fields {earlier : List Text} (nonempty : fields ≠ [])
    (distinct : (fields.map Prod.fst).Nodup) (new : ∀ field ∈ fields, field.1 ∉ earlier)
    (named : ∀ field ∈ fields, IsName field.1) (regular : ∀ field ∈ fields, Regular depth field.2)
    (back : ∀ field ∈ fields, ReadsBack layout depth field.2) (room : column + 9 * (depth + 1) < width)
    (outdented : Outdented column tail)
    (enough : 3 * (fieldsText layout column fields ++ tail).length ≤ fuel + 1) :
    readFields fuel column earlier (fieldsText layout column fields ++ tail) =
      some (seenInFields layout fields, skip 0 tail) := by
  induction fields generalizing fuel earlier with
  | nil => exact absurd rfl nonempty
  | cons field fields ih =>
    obtain ⟨name, value⟩ := field
    rw [List.forall_mem_cons] at new named regular back
    rw [List.map_cons, List.nodup_cons] at distinct
    have simple : IsName name := named.1
    rw [fieldsText_cons simple, List.append_assoc, List.cons_append, List.append_assoc] at enough ⊢
    rw [List.length_append, List.length_cons] at enough
    obtain ⟨fuel, rfl⟩ : ∃ more, fuel = more + 1 := ⟨fuel - 1, by omega⟩
    have spare : 3 * (heldText layout column name value ++ (laterFields layout column fields ++ tail)).length ≤
        fuel := by omega
    cases fields with
    | nil =>
      obtain ⟨below, other⟩ := follows_of_outdented outdented .null
      have reads := readHeld_value narrow wide regular.1 back.1 room below other spare
      have last : ¬ ((skip 0 tail).column = column && !(skip 0 tail).rest.isEmpty) := by
        rcases skip_outdented outdented with ended | left
        · simp [ended]
        · simp [Nat.ne_of_lt left]
      exact (readFields_step simple startsSeparated_heldText new.1 reads).trans (if_neg last)
    | cons following fields =>
      obtain ⟨notItem, -⟩ := opens_fieldsText layout column tail (List.cons_ne_nil following fields) named.2
      have starts := (starts_fieldsText layout column (named.2 following List.mem_cons_self) fields).append tail
      have place := skip_starts starts 0 column
      rw [Nat.zero_add] at place
      rw [laterFields, List.append_assoc] at spare ⊢
      have reads := readHeld_value narrow wide regular.1 back.1 room (outdented_starts starts column)
        (by rw [place, notItem]; simp) spare
      have unseen : ∀ field ∈ following :: fields, field.1 ∉ name :: earlier := by
        intro field inside
        rw [List.mem_cons, not_or]
        refine ⟨?_, new.2 field inside⟩
        rintro rfl
        exact distinct.1 (List.mem_map.2 ⟨field, inside, rfl⟩)
      have more : (fieldsText layout column (following :: fields) ++ tail).isEmpty = false :=
        List.isEmpty_eq_false_iff.2 (List.ne_nil_of_length_pos starts.length_pos)
      rw [place] at reads
      rw [List.length_append, List.length_append] at spare
      rw [readFields_step simple startsSeparated_heldText new.1 reads, if_pos (by simp [more]),
        ih (by simp) distinct.2 unseen named.2 regular.2 back.2 (by omega), Option.map_some]
      rfl

end Steps

/-- A regular value is read wherever it stands. -/
private theorem readsBack (narrow : 1 < layout.step) (wide : layout.step < 10) (regular : Regular depth value) :
    ReadsBack layout depth value := by
  induction regular with
  | @scalar depth value isScalar whole =>
    intro column least fuel tail has
    cases value with
    | list items => cases isScalar
    | record fields => cases isScalar
    | null | bool | int | decimal | text => cases has
  | @list depth items all ih =>
    intro column least fuel tail has room follows enough field
    have nonempty : items ≠ [] := by simpa [hasLines] using has
    have long := ((starts_lines layout column (.list all) has).append tail).length_pos
    obtain ⟨fuel, rfl⟩ : ∃ more, fuel = more + 1 := ⟨fuel - 1, by omega⟩
    have dash : startsItem (itemsText layout column items ++ tail) := startsItem_itemsText narrow nonempty
    have reads := readItems_items narrow wide nonempty all ih room follows.1 follows.2 enough
    rw [readNode]
    exact (if_pos dash).trans (congrArg (Option.map fun found => (Value.list found.1, found.2)) reads)
  | @record depth fields distinct named all ih =>
    intro column least fuel tail has room follows enough field
    have nonempty : fields ≠ [] := by simpa [hasLines] using has
    have long := ((starts_lines layout column (.record distinct named all) has).append tail).length_pos
    obtain ⟨fuel, rfl⟩ : ∃ more, fuel = more + 1 := ⟨fuel - 1, by omega⟩
    obtain ⟨notItem, name⟩ := opens_fieldsText layout column tail nonempty named
    have reads := readFields_fields narrow wide nonempty distinct (fun _ _ => List.not_mem_nil) named all ih room
      follows enough
    rw [lines, ← fieldsText, readNode, notItem, if_neg (by simp), if_pos name, reads]
    rfl

/-! ### Whole documents -/

private theorem unifyBreaks_eq (absent : .char '\r' ∉ text) : unifyBreaks text = text.map seenAs := by
  fun_induction unifyBreaks text with
  | case1 => rfl
  | case2 rest ih => exact absurd List.mem_cons_self absent
  | case3 c rest other ih =>
    rw [List.mem_cons, not_or] at absent
    have notReturn : c ≠ .char '\r' := fun same => absent.1 same.symm
    rw [List.map_cons, ih absent.2]
    simp only [notReturn, false_or]
    rfl

/-- A carriage return is written with an escape, since no other style has one. -/
private theorem not_mem_render (regular : Regular depth value) : .char '\r' ∉ render layout value := by
  intro inside
  rcases mem_render regular inside with mark | ⟨leaf, placed, written, stands⟩
  · exact absurd mark (by decide)
  · by_cases quoted : styleOf (wantsBlock layout leaf.1 leaf.2) leaf.2 = .doubleQuoted
    · exact absurd (stands quoted) (by decide)
    · exact absurd (not_isSpecial_of_styleOf quoted _ written) (by decide)

private theorem opens_lines (narrow : 1 < layout.step) (regular : Regular depth value) (has : hasLines value) :
    startsItem ((lines layout column [] value).map seenAs ++ tail) ||
      (readName? ((lines layout column [] value).map seenAs ++ tail)).isSome := by
  rcases list_or_record regular has with ⟨item, items, rfl⟩ | ⟨field, fields, rfl, named⟩
  · rw [lines, ← itemsText, startsItem_itemsText narrow (List.cons_ne_nil item items)]
    rfl
  · obtain ⟨notItem, name⟩ := opens_fieldsText layout column tail (List.cons_ne_nil field fields) named
    rw [lines, ← fieldsText, notItem, name]
    rfl

/-- A regular list or record of small depth is read from its document as it is seen. -/
theorem parse_render (narrow : 1 < layout.step) (wide : layout.step < 10) (regular : Regular depth value)
    (has : hasLines value) (shallow : 9 * depth < width) :
    parse (render layout value) = some (seen layout none value) := by
  have printed : (render layout value).all printable.has :=
    List.all_eq_true.2 fun _ inside => printable_of_mem_render regular inside
  have unified : unifyBreaks (render layout value) = (lines layout 0 [] value).map seenAs ++ [] := by
    rw [unifyBreaks_eq (not_mem_render regular), render, if_pos has, List.append_nil]
  have place : skip 0 ((lines layout 0 [] value).map seenAs ++ []) = ⟨0, (lines layout 0 [] value).map seenAs ++ []⟩ :=
    skip_starts ((starts_lines layout 0 regular has).append []) 0 0
  have enough : 3 * ((lines layout 0 [] value).map seenAs ++ []).length ≤ 3 * (render layout value).length + 3 := by
    rw [List.append_nil, List.length_map, render, if_pos has]
    omega
  have reads : readNode (3 * (render layout value).length + 3) 0 ⟨0, (lines layout 0 [] value).map seenAs ++ []⟩ =
      some (seen layout none value, skip 0 []) :=
    readsBack narrow wide regular has (by omega) (follows_of_outdented (.inl rfl) value) enough none
  simp only [parse, unified, place, printed, opens_lines narrow regular has, Bool.and_true, if_true, reads]
  rfl

end Documents

end SqlSurvey.Yaml
