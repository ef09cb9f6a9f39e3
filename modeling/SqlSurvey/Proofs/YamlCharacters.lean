import Mathlib.Data.List.SplitBy
import SqlSurvey.Proofs.EncodedTexts
import SqlSurvey.Proofs.ReportValues
import SqlSurvey.Proofs.WrittenNumbers

/-! # The characters of a YAML document

A document is made of marks, which are line feeds and printable characters of ASCII, and of characters of its texts.
Between double quotes a character of a text stands for itself only where it needs no escape. -/
namespace SqlSurvey.Yaml

/-- A character that any document may hold, whatever its texts are. -/
def IsMark (c : CodePoint) : Prop := c = .char '\n' ∨ 0x20 ≤ c.toNat ∧ c.toNat ≤ 0x7E

instance (c : CodePoint) : Decidable (IsMark c) :=
  inferInstanceAs (Decidable (c = .char '\n' ∨ 0x20 ≤ c.toNat ∧ c.toNat ≤ 0x7E))

/-- The character of a text stands for itself where the text is written. -/
def Stands (block : Bool) (text : Text) (c : CodePoint) : Prop :=
  c ∈ text ∧ (styleOf block text = .doubleQuoted → needsEscape c = false)

theorem flatten_runs (text : Text) : (runs text).flatten = text := List.flatten_splitBy _ text

section Marks

variable {c : CodePoint}

theorem isMark_space : IsMark (.char ' ') := by decide

private theorem isMark_of_mem_spaces {count : Nat} (h : c ∈ List.replicate count (.char ' ')) : IsMark c := by
  rw [List.eq_of_mem_replicate h]
  exact isMark_space

private theorem isMark_of_mem_newLine {indent : Nat} (h : c ∈ newLine indent) : IsMark c := by
  rcases List.mem_cons.1 h with rfl | h
  · exact .inl rfl
  · exact isMark_of_mem_spaces h

private theorem isMark_of_isDigit (h : c.isDigit) : IsMark c := by
  simp only [CodePoint.isDigit, Bool.and_eq_true, decide_eq_true_eq] at h
  exact .inr (by omega)

private theorem isMark_of_mem_ofNat {n : Nat} (h : c ∈ Text.ofNat n) : IsMark c :=
  isMark_of_isDigit (Text.isDigit_of_mem_ofNat h)

private theorem isMark_of_mem_ofInt {n : Int} (h : c ∈ Text.ofInt n) : IsMark c := by
  cases n with
  | ofNat n => exact isMark_of_mem_ofNat h
  | negSucc n =>
    rcases List.mem_cons.1 h with rfl | h
    · decide
    · exact isMark_of_mem_ofNat h

end Marks

section Scalars

variable {c : CodePoint} {indent column : Nat}

private theorem mem_plainRuns {pieces : List Text} (h : c ∈ plainRuns indent column pieces) :
    IsMark c ∨ c ∈ pieces.flatten := by
  induction pieces generalizing column with
  | nil => exact absurd h List.not_mem_nil
  | cons run pieces ih =>
    rw [List.flatten_cons, List.mem_append]
    rw [plainRuns] at h
    split at h
    · rcases List.mem_append.1 h with h | h
      · exact .inl (isMark_of_mem_newLine h)
      · exact (ih h).imp_right .inr
    · rcases List.mem_append.1 h with h | h
      · exact .inr (.inl h)
      · exact (ih h).imp_right .inr

private theorem mem_quotedBreaks {run : Text} (h : c ∈ quotedBreaks indent run) : IsMark c ∨ c ∈ run := by
  rw [quotedBreaks, List.mem_append, List.mem_append] at h
  rcases h with (h | h) | h
  · split at h
    · exact .inl (.inl (List.mem_singleton.1 h))
    · exact absurd h List.not_mem_nil
  · exact .inr h
  · exact .inl (isMark_of_mem_spaces h)

private theorem mem_singleQuotedRuns {first : Bool} {pieces : List Text}
    (h : c ∈ singleQuotedRuns indent first column pieces) : IsMark c ∨ c ∈ pieces.flatten := by
  induction pieces generalizing first column with
  | nil => exact absurd h List.not_mem_nil
  | cons run pieces ih =>
    rw [List.flatten_cons, List.mem_append]
    rw [singleQuotedRuns] at h
    split at h
    · rcases List.mem_append.1 h with h | h
      · exact (mem_quotedBreaks h).imp_right .inl
      · exact (ih h).imp_right .inr
    · split at h
      · rcases List.mem_append.1 h with h | h
        · exact .inl (isMark_of_mem_newLine h)
        · exact (ih h).imp_right .inr
      · rcases List.mem_append.1 h with h | h
        · obtain ⟨d, inside, doubled⟩ := List.mem_flatMap.1 h
          have same : c = d := by
            split at doubled
            · simpa using doubled
            · exact List.mem_singleton.1 doubled
          exact .inr (.inl (same ▸ inside))
        · exact (ih h).imp_right .inr

private theorem isMark_of_mem_upperHex {width n : Nat} (positive : 0 < width) (fits : n < 16 ^ width)
    (h : c ∈ upperHex width n) : IsMark c := by
  obtain ⟨digits, written, -, below, -⟩ := Text.exists_spelling_ofHex positive fits
  rw [upperHex, written, List.map_map] at h
  obtain ⟨d, inside, rfl⟩ := List.mem_map.1 h
  have marks : ∀ d < 16, IsMark (.char d.digitChar.toUpper) := by decide
  exact marks d (below d inside)

private theorem isMark_of_mem_escapeBody {d : CodePoint} (h : c ∈ escapeBody d) : IsMark c := by
  have bound := d.toNat_lt
  unfold escapeBody at h
  split at h
  · rename_i letter found
    have letters : ∀ pair ∈ escapeLetters, IsMark (.char pair.2) := by decide
    obtain ⟨before, later, split, -⟩ := List.lookup_eq_some_iff.1 found
    rw [List.mem_singleton.1 h]
    exact letters (d, letter) (by simp [split])
  · have hex : ∀ {width : Nat} {letter : Char}, 0 < width → d.toNat < 16 ^ width → IsMark (.char letter) →
        c ∈ (.char letter :: upperHex width d.toNat : Text) → IsMark c := by
      intro width letter positive fits mark inside
      rcases List.mem_cons.1 inside with rfl | inside
      · exact mark
      · exact isMark_of_mem_upperHex positive fits inside
    split at h
    · exact hex (by decide) (by omega) (by decide) h
    · split at h
      · exact hex (by decide) (by omega) (by decide) h
      · exact hex (by decide) (by omega) (by decide) h

private theorem isMark_of_mem_escapedFold {rest : Text} (h : c ∈ escapedFold indent rest) : IsMark c := by
  rw [escapedFold, List.cons_append, List.mem_cons, List.mem_append] at h
  rcases h with rfl | h | h
  · decide
  · exact isMark_of_mem_newLine h
  · split at h
    · rw [List.mem_singleton.1 h]
      decide
    · exact absurd h List.not_mem_nil

private theorem mem_doubleQuotedFrom {first fresh : Bool} {text : Text}
    (h : c ∈ doubleQuotedFrom indent first fresh column text) : IsMark c ∨ c ∈ text ∧ needsEscape c = false := by
  induction text generalizing first fresh column with
  | nil => exact absurd h List.not_mem_nil
  | cons d text ih =>
    have later : ∀ {first fresh column}, c ∈ doubleQuotedFrom indent first fresh column text →
        IsMark c ∨ c ∈ d :: text ∧ needsEscape c = false := by
      intro first fresh column inside
      exact (ih inside).imp_right fun found => ⟨List.mem_cons_of_mem d found.1, found.2⟩
    have escape : c ∈ (.char '\\' :: escapeBody d : Text) → IsMark c := by
      intro inside
      rcases List.mem_cons.1 inside with rfl | inside
      · decide
      · exact isMark_of_mem_escapeBody inside
    rw [doubleQuotedFrom] at h
    dsimp only at h
    split at h
    · split at h
      · rcases List.mem_append.1 h with h | h
        · rcases List.mem_append.1 h with h | h
          · exact .inl (escape h)
          · exact .inl (isMark_of_mem_escapedFold h)
        · exact later h
      · rcases List.mem_append.1 h with h | h
        · exact .inl (escape h)
        · exact later h
    · rename_i plain
      have itself : IsMark d ∨ d ∈ d :: text ∧ needsEscape d = false :=
        .inr ⟨List.mem_cons_self, by simpa using plain⟩
      split at h
      · rcases List.mem_append.1 h with h | h
        · exact .inl (isMark_of_mem_escapedFold h)
        · rcases List.mem_cons.1 h with rfl | h
          · exact itself
          · exact later h
      · rcases List.mem_cons.1 h with rfl | h
        · exact itself
        · exact later h

theorem isMark_of_mem_literalHints {step : Nat} {text : Text} (h : c ∈ literalHints step text) :
    IsMark c := by
  rw [literalHints, List.mem_append] at h
  rcases h with h | h
  · split at h
    · exact isMark_of_mem_ofNat h
    · exact absurd h List.not_mem_nil
  · split at h
    · exact absurd h List.not_mem_nil
    · split at h
      · rw [List.mem_singleton.1 h]
        decide
      · split at h
        · rw [List.mem_singleton.1 h]
          decide
        · exact absurd h List.not_mem_nil

private theorem mem_literalLines {start : Bool} {text : Text} (h : c ∈ literalLines indent start text) :
    IsMark c ∨ c ∈ text := by
  induction text generalizing start with
  | nil =>
    rw [literalLines] at h
    split at h
    · exact absurd h List.not_mem_nil
    · exact .inl (.inl (List.mem_singleton.1 h))
  | cons d text ih =>
    rw [List.mem_cons]
    rw [literalLines] at h
    split at h
    · rcases List.mem_cons.1 h with h | h
      · exact .inr (.inl h)
      · exact (ih h).imp_right .inr
    · rcases List.mem_append.1 h with h | h
      · split at h
        · exact .inl (isMark_of_mem_spaces h)
        · exact absurd h List.not_mem_nil
      · rcases List.mem_cons.1 h with h | h
        · exact .inr (.inl h)
        · exact (ih h).imp_right .inr

/-- A text is written with marks and with those of its characters that stand for themselves. -/
theorem mem_scalar {step : Nat} {block : Bool} {text : Text} (h : c ∈ scalar step indent column block text) :
    IsMark c ∨ Stands block text c := by
  unfold scalar at h
  unfold Stands
  split at h
  · rename_i style
    rw [style]
    rcases List.mem_append.1 h with h | h
    · refine (mem_plainRuns h).imp_right fun inside => ⟨?_, by simp⟩
      rwa [flatten_runs] at inside
    · exact .inl (.inl (List.mem_singleton.1 h))
  · rename_i style
    rw [style]
    rw [List.cons_append, List.mem_cons, List.mem_append] at h
    rcases h with rfl | h | h
    · exact .inl (by decide)
    · refine (mem_singleQuotedRuns h).imp_right fun inside => ⟨?_, by simp⟩
      rwa [flatten_runs] at inside
    · have marks : ∀ c ∈ Text.ofString "'\n", IsMark c := by decide
      exact .inl (marks c h)
  · rename_i style
    rw [style]
    rw [List.cons_append, List.mem_cons, List.mem_append] at h
    rcases h with rfl | h | h
    · exact .inl (by decide)
    · exact (mem_doubleQuotedFrom h).imp_right fun found => ⟨found.1, fun _ => found.2⟩
    · have marks : ∀ c ∈ Text.ofString "\"\n", IsMark c := by decide
      exact .inl (marks c h)
  · rename_i style
    rw [style]
    rw [List.cons_append, List.mem_cons, List.mem_append, List.mem_cons] at h
    rcases h with rfl | h | rfl | h
    · exact .inl (by decide)
    · exact .inl (isMark_of_mem_literalHints h)
    · exact .inl (.inl rfl)
    · exact (mem_literalLines h).imp_right fun inside => ⟨inside, by simp⟩

end Scalars

/-! ### Printable characters -/

/-- The characters that a reader accepts anywhere in a document. -/
def printable : CodePointRanges :=
  [(0x9, 0xA), (0xD, 0xD), (0x20, 0x7E), (0x85, 0x85), (0xA0, 0xD7FF), (0xE000, 0xFEFE), (0xFF00, 0xFFFD),
   (0x10000, 0x10FFFF)]

private theorem has_of_covers {ranges others : CodePointRanges} {c : CodePoint}
    (covers : ∀ range ∈ ranges, ∃ other ∈ others, other.1 ≤ range.1 ∧ range.2 ≤ other.2) (h : ranges.has c) :
    others.has c := by
  obtain ⟨range, listed, within⟩ := List.any_eq_true.1 h
  obtain ⟨other, also, wider⟩ := covers range listed
  refine List.any_eq_true.2 ⟨other, also, ?_⟩
  simp only [Bool.and_eq_true, decide_eq_true_eq] at within ⊢
  omega

theorem not_isSpecial_of_styleOf {block : Bool} {text : Text} (h : styleOf block text ≠ .doubleQuoted) :
    ∀ c ∈ text, isSpecial c = false := by
  have none : text.any isSpecial = false := by
    unfold styleOf at h
    split at h
    · split at h
      · rename_i allowed
        simp only [allowsLiteral, Bool.not_eq_true', Bool.or_eq_false_iff] at allowed
        exact allowed.2
      · exact absurd rfl h
    · split at h
      · rename_i allowed
        simp only [allowsPlain, Bool.not_eq_true', Bool.or_eq_false_iff] at allowed
        exact allowed.1.1.1.1.2
      · split at h
        · rename_i allowed
          simp only [allowsSingleQuotes, Bool.not_eq_true', Bool.or_eq_false_iff] at allowed
          exact allowed.2
        · exact absurd rfl h
  simpa using none

private theorem printable_of_isMark {c : CodePoint} (h : IsMark c) : printable.has c := by
  rcases h with rfl | h
  · decide
  · refine List.any_eq_true.2 ⟨(0x20, 0x7E), by decide, ?_⟩
    simpa using h

private theorem printable_of_stands {block : Bool} {text : Text} {c : CodePoint} (h : Stands block text c) :
    printable.has c := by
  obtain ⟨inside, unescaped⟩ := h
  by_cases quoted : styleOf block text = .doubleQuoted
  · have itself := unescaped quoted
    simp only [needsEscape, Bool.or_eq_false_iff, Bool.not_eq_false'] at itself
    exact has_of_covers (by decide) itself.2
  · have common := not_isSpecial_of_styleOf quoted c inside
    simp only [isSpecial, Bool.not_eq_false', Bool.or_eq_true, beq_iff_eq] at common
    rcases common with rfl | common
    · decide
    · exact has_of_covers (by decide) common

theorem not_isSurrogate_of_printable {c : CodePoint} (h : printable.has c) : c.isSurrogate = false := by
  cases c with
  | char c => rfl
  | surrogate offset =>
    have bound := offset.isLt
    obtain ⟨range, listed, within⟩ := List.any_eq_true.1 h
    have apart : ∀ range ∈ printable, range.2 < 0xD800 ∨ 0xE000 ≤ range.1 := by decide
    have outside := apart range listed
    simp only [Bool.and_eq_true, decide_eq_true_eq] at within
    rw [CodePoint.toNat_surrogate] at within
    omega

/-! ### Documents -/

def nameCharacters : CodePointRanges := [(0x30, 0x39), (0x41, 0x5A), (0x5F, 0x5F), (0x61, 0x7A)]

/-- A name that a reader takes for the name of a field. -/
def IsName (name : Text) : Prop :=
  name ≠ [] ∧ name.length ≤ 1024 ∧ (∀ c ∈ name, nameCharacters.has c) ∧ reservedWord.fits name = false

instance (name : Text) : Decidable (IsName name) := inferInstanceAs (Decidable (_ ∧ _ ∧ _ ∧ _))

/-- The values that can be read from a document, by the depth of their lists and records: the records have distinct,
simple names, and the numbers are integers. -/
inductive Regular : Nat → Value → Prop
  | scalar {depth : Nat} {value : Value} (isScalar : value.isScalar)
      (whole : ∀ mantissa exponent, value ≠ .decimal mantissa exponent) : Regular depth value
  | list {depth : Nat} {items : List Value} (all : ∀ item ∈ items, Regular depth item) :
      Regular (depth + 1) (.list items)
  | record {depth : Nat} {fields : List (Text × Value)} (distinct : (fields.map Prod.fst).Nodup)
      (named : ∀ field ∈ fields, IsName field.1) (all : ∀ field ∈ fields, Regular depth field.2) :
      Regular (depth + 1) (.record fields)

mutual
/-- The texts of a value, each with the name of the field that it is the value of. -/
def placedTexts (field : Option Text) : Value → List (Option Text × Text)
  | .text t => [(field, t)]
  | .list items => placedInItems items
  | .record fields => placedInFields fields
  | _ => []
termination_by structural value => value

def placedInItems : List Value → List (Option Text × Text)
  | [] => []
  | item :: items => placedTexts none item ++ placedInItems items
termination_by structural items => items

def placedInFields : List (Text × Value) → List (Option Text × Text)
  | [] => []
  | field :: fields => placedInField field ++ placedInFields fields
termination_by structural fields => fields

def placedInField : Text × Value → List (Option Text × Text)
  | (name, value) => placedTexts (some name) value
termination_by structural field => field
end

theorem mem_placedInItems {leaf : Option Text × Text} {items : List Value} :
    leaf ∈ placedInItems items ↔ ∃ item ∈ items, leaf ∈ placedTexts none item := by
  induction items with
  | nil => simp [placedInItems]
  | cons item items ih => simp [placedInItems, ih]

theorem mem_placedInFields {leaf : Option Text × Text} {fields : List (Text × Value)} :
    leaf ∈ placedInFields fields ↔ ∃ field ∈ fields, leaf ∈ placedTexts (some field.1) field.2 := by
  induction fields with
  | nil => simp [placedInFields]
  | cons field fields ih =>
    obtain ⟨name, value⟩ := field
    simp [placedInFields, placedInField, ih]

/-- The character stands for itself in a text of the value. -/
def Occurs (layout : Layout) (field : Option Text) (value : Value) (c : CodePoint) : Prop :=
  ∃ leaf ∈ placedTexts field value, Stands (wantsBlock layout leaf.1 leaf.2) leaf.2 c

section Documents

variable {layout : Layout} {c : CodePoint}

theorem mem_inline {field : Option Text} {indent column : Nat} {value : Value}
    (h : c ∈ inline layout field indent column value) : IsMark c ∨ Occurs layout field value c := by
  have fixed : ∀ {s : String}, (∀ c ∈ Text.ofString s, IsMark c) → c ∈ Text.ofString s →
      IsMark c ∨ Occurs layout field value c := fun marks inside => .inl (marks c inside)
  cases value with
  | null => exact fixed (by decide) h
  | bool b =>
    cases b with
    | false => exact fixed (by decide) h
    | true => exact fixed (by decide) h
  | int n =>
    rcases List.mem_append.1 h with h | h
    · exact .inl (isMark_of_mem_ofInt h)
    · exact .inl (.inl (List.mem_singleton.1 h))
  | decimal mantissa exponent =>
    rw [inline, List.append_assoc, List.mem_append, List.cons_append, List.mem_cons, List.mem_append] at h
    rcases h with h | rfl | h | h
    · exact .inl (isMark_of_mem_ofInt h)
    · exact .inl (by decide)
    · exact .inl (isMark_of_mem_ofInt h)
    · exact .inl (.inl (List.mem_singleton.1 h))
  | text t =>
    refine (mem_scalar h).imp_right fun stands => ⟨(field, t), ?_, stands⟩
    simp [placedTexts]
  | list items => exact fixed (by decide) h
  | record fields => exact fixed (by decide) h

private theorem isMark_of_mem_name {name : Text} (named : IsName name) (h : c ∈ name) : IsMark c := by
  have letter := named.2.2.1 c h
  simp only [nameCharacters, CodePointRanges.has, List.any_cons, List.any_nil, Bool.or_false, Bool.or_eq_true,
    Bool.and_eq_true, decide_eq_true_eq] at letter
  exact .inr (by omega)

/-- The characters of the lines of a value come from marks, from what leads them, and from its texts. -/
def LinesFrom (layout : Layout) (value : Value) : Prop :=
  ∀ (column : Nat) (lead : Text) (c : CodePoint), c ∈ lines layout column lead value →
    IsMark c ∨ c ∈ lead ∨ Occurs layout none value c

private theorem mem_itemLines {items : List Value} (all : ∀ item ∈ items, LinesFrom layout item) {column : Nat}
    {lead : Text} (h : c ∈ itemLines layout column lead items) :
    IsMark c ∨ c ∈ lead ∨ ∃ item ∈ items, Occurs layout none item c := by
  induction items generalizing lead with
  | nil => exact absurd h List.not_mem_nil
  | cons item items ih =>
    rw [List.forall_mem_cons] at all
    rw [itemLines, List.append_assoc, List.mem_append, List.cons_append, List.mem_cons, List.mem_append] at h
    rcases h with h | rfl | h | h
    · exact .inr (.inl h)
    · exact .inl (by decide)
    · have inItem : IsMark c ∨ Occurs layout none item c := by
        split at h
        · rcases List.mem_append.1 h with h | h
          · exact .inl (isMark_of_mem_spaces h)
          · exact (all.1 _ _ c h).imp_right fun found => found.resolve_left List.not_mem_nil
        · rcases List.mem_cons.1 h with rfl | h
          · exact .inl isMark_space
          · exact mem_inline h
      exact inItem.imp_right fun occurs => .inr ⟨item, List.mem_cons_self, occurs⟩
    · rcases ih all.2 h with mark | h | ⟨other, inside, occurs⟩
      · exact .inl mark
      · exact .inl (isMark_of_mem_spaces h)
      · exact .inr (.inr ⟨other, List.mem_cons_of_mem item inside, occurs⟩)

/-- The column of what a field holds, where that has lines of its own. -/
def innerColumn (layout : Layout) (column : Nat) : Value → Nat
  | .record _ => column + layout.step
  | _ => column

theorem fieldLine_eq (layout : Layout) (column : Nat) (name : Text) (value : Value) :
    fieldLine layout column (name, value) = name ++ .char ':' ::
      (if hasLines value then
        .char '\n' :: lines layout (innerColumn layout column value) (spaces (innerColumn layout column value)) value
      else .char ' ' :: inline layout (some name) (column + layout.step) (column + name.length + 2) value) := by
  cases value <;> rfl

theorem placedTexts_of_hasLines {value : Value} (h : hasLines value) (field : Option Text) :
    placedTexts field value = placedTexts none value := by
  cases value with
  | list items => rfl
  | record fields => rfl
  | null | bool | int | decimal | text => cases h

private theorem mem_fieldLine {name : Text} {value : Value} (named : IsName name) (inner : LinesFrom layout value)
    {column : Nat} (h : c ∈ fieldLine layout column (name, value)) :
    IsMark c ∨ Occurs layout (some name) value c := by
  rw [fieldLine_eq, List.mem_append, List.mem_cons] at h
  rcases h with h | rfl | h
  · exact .inl (isMark_of_mem_name named h)
  · exact .inl (by decide)
  · split at h
    · rename_i below
      rcases List.mem_cons.1 h with rfl | h
      · exact .inl (.inl rfl)
      · rcases inner _ _ c h with mark | lead | occurs
        · exact .inl mark
        · exact .inl (isMark_of_mem_spaces lead)
        · refine .inr ?_
          rwa [Occurs, placedTexts_of_hasLines below]
    · rcases List.mem_cons.1 h with rfl | h
      · exact .inl isMark_space
      · exact mem_inline h

private theorem mem_fieldLines {fields : List (Text × Value)} (named : ∀ field ∈ fields, IsName field.1)
    (all : ∀ field ∈ fields, LinesFrom layout field.2) {column : Nat} {lead : Text}
    (h : c ∈ fieldLines layout column lead fields) :
    IsMark c ∨ c ∈ lead ∨ ∃ field ∈ fields, Occurs layout (some field.1) field.2 c := by
  induction fields generalizing lead with
  | nil => exact absurd h List.not_mem_nil
  | cons field fields ih =>
    rw [List.forall_mem_cons] at named all
    rw [fieldLines, List.append_assoc, List.mem_append, List.mem_append] at h
    rcases h with h | h | h
    · exact .inr (.inl h)
    · exact (mem_fieldLine named.1 all.1 h).imp_right fun occurs => .inr ⟨field, List.mem_cons_self, occurs⟩
    · rcases ih named.2 all.2 h with mark | h | ⟨other, inside, occurs⟩
      · exact .inl mark
      · exact .inl (isMark_of_mem_spaces h)
      · exact .inr (.inr ⟨other, List.mem_cons_of_mem field inside, occurs⟩)

/-- Nothing stands in the lines of a value but marks and its own texts. -/
theorem linesFrom {depth : Nat} {value : Value} (regular : Regular depth value) : LinesFrom layout value := by
  induction regular with
  | @scalar depth value isScalar whole =>
    intro column lead c h
    cases value with
    | list items => cases isScalar
    | record fields => cases isScalar
    | null | bool | int | decimal | text => exact absurd h List.not_mem_nil
  | list all ih =>
    intro column lead c h
    rcases mem_itemLines ih h with mark | h | ⟨item, inside, leaf, held, stands⟩
    · exact .inl mark
    · exact .inr (.inl h)
    · exact .inr (.inr ⟨leaf, mem_placedInItems.2 ⟨item, inside, held⟩, stands⟩)
  | record distinct named all ih =>
    intro column lead c h
    rcases mem_fieldLines named ih h with mark | h | ⟨field, inside, leaf, held, stands⟩
    · exact .inl mark
    · exact .inr (.inl h)
    · exact .inr (.inr ⟨leaf, mem_placedInFields.2 ⟨field, inside, held⟩, stands⟩)

/-- A document is made of marks and of the characters of its texts that stand for themselves. -/
theorem mem_render {depth : Nat} {value : Value} (regular : Regular depth value) (h : c ∈ render layout value) :
    IsMark c ∨ Occurs layout none value c := by
  unfold render at h
  split at h
  · exact (linesFrom regular _ _ c h).imp_right fun found => found.resolve_left List.not_mem_nil
  · exact mem_inline h

/-- A reader accepts every character of a document. -/
theorem printable_of_mem_render {depth : Nat} {value : Value} (regular : Regular depth value)
    (h : c ∈ render layout value) : printable.has c := by
  rcases mem_render regular h with mark | ⟨leaf, held, stands⟩
  · exact printable_of_isMark mark
  · exact printable_of_stands stands

end Documents

/-! ### Reports -/

private theorem Regular.of_names {depth : Nat} {fields : List (Text × Value)} (names : List String)
    (same : fields.map Prod.fst = names.map Text.ofString)
    (fit : (names.map Text.ofString).Nodup ∧ ∀ name ∈ names.map Text.ofString, IsName name)
    (all : ∀ value ∈ fields.map Prod.snd, Regular depth value) : Regular (depth + 1) (.record fields) := by
  rw [← same] at fit
  exact .record fit.1 (fun field inside => fit.2 _ (List.mem_map_of_mem inside))
    fun field inside => all _ (List.mem_map_of_mem inside)

private theorem regular_text {depth : Nat} (t : Text) : Regular depth (.text t) := .scalar rfl (by simp)

private theorem regular_int {depth : Nat} (n : Int) : Regular depth (.int n) := .scalar rfl (by simp)

private theorem regular_bool {depth : Nat} (b : Bool) : Regular depth (.bool b) := .scalar rfl (by simp)

private theorem regular_listMap {depth : Nat} {α : Type} {toValue : α → Value}
    (regular : ∀ a, Regular depth (toValue a)) (items : List α) : Regular (depth + 1) (.list (items.map toValue)) := by
  refine .list ?_
  intro item inside
  obtain ⟨a, -, rfl⟩ := List.mem_map.1 inside
  exact regular a

private theorem regular_callSite (site : CallSite) : Regular 1 site.toValue := by
  refine .of_names ["name", "file_name", "file_path", "line_number"] rfl (by decide +kernel) ?_
  simp [regular_text, regular_int]

private theorem regular_callTally (tally : CallTally) : Regular 1 tally.toValue := by
  refine .of_names ["name", "count"] rfl (by decide +kernel) ?_
  simp [regular_text, regular_int]

private theorem regular_queryEntry (entry : QueryEntry) : Regular 1 entry.toValue := by
  refine .of_names ["line_number", "kind", "tag", "text", "preview", "truncated", "contains_exec", "stored_procedure"]
    rfl (by decide +kernel) ?_
  have procedure : Regular 0 ((entry.storedProcedure.map Value.text).getD .null) := by
    cases entry.storedProcedure with
    | none => exact .scalar rfl (by simp)
    | some name => exact regular_text name
  simp [regular_text, regular_int, regular_bool, procedure]

private theorem regular_fileSummary (summary : FileSummary) : Regular 3 summary.toValue := by
  refine .of_names ["file_name", "file_path", "dependencies", "call_count", "top_calls", "queries"] rfl
    (by decide +kernel) ?_
  have dependencies : Regular 2 (.list (summary.dependencies.map .text)) :=
    regular_listMap regular_text summary.dependencies
  have calls := regular_listMap regular_callTally summary.topCalls
  have queries := regular_listMap regular_queryEntry summary.queries
  simp [regular_text, regular_int, dependencies, calls, queries]

private theorem regular_rankedCall (ranked : RankedCall) : Regular 3 ranked.toValue := by
  refine .of_names ["name", "total", "examples", "remaining"] rfl (by decide +kernel) ?_
  have examples := regular_listMap regular_callSite ranked.examples
  simp [regular_text, regular_int, examples]

theorem regular_report (report : SurveyReport) : Regular 5 report.toValue := by
  refine .of_names ["root", "files", "ranking", "total_calls", "cancelled"] rfl (by decide +kernel) ?_
  have files := regular_listMap regular_fileSummary report.files
  have ranking := regular_listMap regular_rankedCall report.ranking
  simp [regular_text, regular_int, regular_bool, files, ranking]

end SqlSurvey.Yaml

namespace SqlSurvey.ReportWriter

/-- A report with a number of too many digits leaves an empty file, any other is written to its end. -/
theorem contents_yaml (report : SurveyReport) (indent : Int) :
    if ∀ n ∈ report.toValue.integers, hasFewDigits n then
      ∃ bytes, contents ⟨.yaml, indent⟩ report = (bytes, none) ∧ Utf8.decode bytes = text ⟨.yaml, indent⟩ report
    else contents ⟨.yaml, indent⟩ report = ([], some .digits) := by
  have writable : ∀ chunk ∈ [Json.Chunk.text (Yaml.render (yamlLayout indent) report.toValue)], chunk.Writable := by
    intro chunk inside
    obtain rfl := List.mem_singleton.1 inside
    refine ⟨?_, by simp [Json.Chunk.number?]⟩
    intro c written
    exact Yaml.not_isSurrogate_of_printable (Yaml.printable_of_mem_render (Yaml.regular_report report) written)
  rw [contents, chunks, Yaml.document?]
  by_cases few : ∀ n ∈ report.toValue.integers, hasFewDigits n
  · rw [if_pos few, if_pos (List.all_eq_true.2 few)]
    obtain ⟨bytes, encoded, decoded⟩ := encodeChunks_of_writable writable
    exact ⟨bytes, encoded, decoded.trans (List.flatMap_singleton _ _)⟩
  · rw [if_neg few, if_neg (by rwa [List.all_eq_true])]
    rfl

end SqlSurvey.ReportWriter
