import SqlSurvey.ReportFiles

/-! # Texts that can be encoded

A text has bytes exactly if it holds no surrogate, and then its bytes decode to it. A report that is written in chunks
is written to its end exactly if every chunk has bytes and no number among them has too many digits. -/
namespace SqlSurvey

/-- The text holds no surrogate. -/
def Text.IsEncodable (text : Text) : Prop := ∀ c ∈ text, c.isSurrogate = false

namespace Text

instance (text : Text) : Decidable text.IsEncodable :=
  inferInstanceAs (Decidable (∀ c ∈ text, c.isSurrogate = false))

theorem isEncodable_ofString (s : String) : (ofString s).IsEncodable := by
  intro c inside
  obtain ⟨c, -, rfl⟩ := List.mem_map.1 inside
  rfl

theorem isEncodable_append {s t : Text} : (s ++ t).IsEncodable ↔ s.IsEncodable ∧ t.IsEncodable :=
  List.forall_mem_append

theorem isEncodable_cons {c : Char} {t : Text} : IsEncodable (.char c :: t) ↔ t.IsEncodable := by
  simp [IsEncodable]

theorem IsEncodable.exists_chars {text : Text} (h : text.IsEncodable) :
    ∃ chars : List Char, text = chars.map .char := by
  induction text with
  | nil => exact ⟨[], rfl⟩
  | cons c text ih =>
    obtain ⟨chars, rfl⟩ := ih fun d inside => h d (List.mem_cons_of_mem c inside)
    cases c with
    | char c => exact ⟨c :: chars, rfl⟩
    | surrogate offset => exact absurd (h _ List.mem_cons_self) (by simp)

end Text

namespace Utf8

theorem isEncodable_of_encode {text : Text} {bytes : Bytes} (h : encode text = .ok bytes) : text.IsEncodable := by
  unfold encode at h
  split at h
  · cases h
  · rename_i found
    exact surrogateRun?_eq_none_iff.1 found

end Utf8

namespace Json.Chunk

def number? : Chunk → Option Int
  | text _ => none
  | number _ n => some n

/-- The chunk holds no surrogate and no number with too many digits. -/
structure Writable (chunk : Chunk) : Prop where
  encodable : chunk.toText.IsEncodable
  few : ∀ n ∈ chunk.number?, hasFewDigits n

@[simp] theorem number?_after (lead : Text) (chunk : Chunk) : (chunk.after lead).number? = chunk.number? := by
  cases chunk <;> rfl

@[simp] theorem toText_after (lead : Text) (chunk : Chunk) : (chunk.after lead).toText = lead ++ chunk.toText := by
  cases chunk with
  | text t => rfl
  | number front n => exact List.append_assoc lead front _

theorem Writable.encode {chunk : Chunk} (writable : chunk.Writable) :
    ∃ chars, chunk.toText = chars.map .char ∧ chunk.encode = .ok (Utf8.encodeChars chars) := by
  obtain ⟨chars, text⟩ := writable.encodable.exists_chars
  have encoded : Utf8.encode chunk.toText = .ok (Utf8.encodeChars chars) := by rw [text, Utf8.encode_char]
  refine ⟨chars, text, ?_⟩
  cases chunk with
  | text t =>
    rw [toText] at encoded
    rw [Chunk.encode, encoded]
    rfl
  | number lead n =>
    rw [toText] at encoded
    rw [Chunk.encode, if_pos (writable.few n rfl), encoded]
    rfl

theorem writable_of_encode {chunk : Chunk} {bytes : Bytes} (h : chunk.encode = .ok bytes) : chunk.Writable := by
  have encodable : ∀ {text : Text}, (Utf8.encode text).mapError WriteError.surrogates = .ok bytes →
      text.IsEncodable := by
    intro text encoded
    cases found : Utf8.encode text with
    | error run =>
      rw [found] at encoded
      cases encoded
    | ok bytes => exact Utf8.isEncodable_of_encode found
  cases chunk with
  | text t =>
    rw [Chunk.encode] at h
    exact ⟨encodable h, by simp [number?]⟩
  | number lead n =>
    rw [Chunk.encode] at h
    split at h
    · rename_i few
      exact ⟨encodable h, by simpa [number?] using few⟩
    · cases h

/-- A chunk without bytes has a number of too many digits or a surrogate, and the error tells which. -/
theorem cause_of_encode {chunk : Chunk} {error : WriteError} (h : chunk.encode = .error error) :
    error = .digits ∧ (∃ n ∈ chunk.number?, ¬ hasFewDigits n) ∨
      ∃ run, error = .surrogates run ∧ ¬ chunk.toText.IsEncodable := by
  have surrogate : ∀ {text : Text}, (Utf8.encode text).mapError WriteError.surrogates = .error error →
      ∃ run, error = .surrogates run ∧ ¬ text.IsEncodable := by
    intro text failed
    cases found : Utf8.encode text with
    | ok bytes =>
      rw [found] at failed
      cases failed
    | error run =>
      rw [found] at failed
      cases failed
      refine ⟨run, rfl, fun encodable => ?_⟩
      obtain ⟨chars, rfl⟩ := encodable.exists_chars
      rw [Utf8.encode_char] at found
      cases found
  cases chunk with
  | text t => exact .inr (surrogate h)
  | number lead n =>
    rw [Chunk.encode] at h
    split at h
    · exact .inr (surrogate h)
    · rename_i many
      cases h
      exact .inl ⟨rfl, n, rfl, many⟩

end Json.Chunk

namespace ReportWriter

open Json (Chunk)

/-- Writable chunks are written to the end, and their bytes are read as their texts. -/
theorem encodeChunks_of_writable {chunks : List Chunk} (h : ∀ chunk ∈ chunks, chunk.Writable) :
    ∃ bytes, encodeChunks chunks = (bytes, none) ∧ Utf8.decode bytes = chunks.flatMap Chunk.toText := by
  have encoded : ∃ chars, chunks.flatMap Chunk.toText = chars.map .char ∧
      encodeChunks chunks = (Utf8.encodeChars chars, none) := by
    induction chunks with
    | nil => exact ⟨[], rfl, rfl⟩
    | cons chunk chunks ih =>
      rw [List.forall_mem_cons] at h
      obtain ⟨first, text, encoded⟩ := h.1.encode
      obtain ⟨others, flat, bytes⟩ := ih h.2
      refine ⟨first ++ others, by rw [List.flatMap_cons, text, flat, List.map_append], ?_⟩
      simp only [encodeChunks, encoded, bytes, Utf8.encodeChars, List.flatMap_append]
  obtain ⟨chars, flat, bytes⟩ := encoded
  exact ⟨Utf8.encodeChars chars, bytes, by rw [flat, Utf8.decode_encodeChars]⟩

theorem writable_of_encodeChunks {chunks : List Chunk} {bytes : Bytes} (h : encodeChunks chunks = (bytes, none)) :
    ∀ chunk ∈ chunks, chunk.Writable := by
  induction chunks generalizing bytes with
  | nil => simp
  | cons chunk chunks ih =>
    rw [encodeChunks] at h
    split at h
    · rename_i encoded
      generalize rest : encodeChunks chunks = ended at h
      obtain ⟨others, error⟩ := ended
      cases h
      exact List.forall_mem_cons.2 ⟨Json.Chunk.writable_of_encode encoded, ih rest⟩
    · cases h

theorem exists_encode_of_encodeChunks {chunks : List Chunk} {bytes : Bytes} {error : WriteError}
    (h : encodeChunks chunks = (bytes, some error)) : ∃ chunk ∈ chunks, chunk.encode = .error error := by
  induction chunks generalizing bytes with
  | nil => cases h
  | cons chunk chunks ih =>
    rw [encodeChunks] at h
    split at h
    · generalize rest : encodeChunks chunks = ended at h
      obtain ⟨others, ending⟩ := ended
      cases h
      obtain ⟨later, inside, failed⟩ := ih rest
      exact ⟨later, List.mem_cons_of_mem chunk inside, failed⟩
    · rename_i failed
      cases h
      exact ⟨chunk, List.mem_cons_self, failed⟩

def text (writer : ReportWriter) (report : SurveyReport) : Text :=
  match writer.format with
  | .json => Json.render writer.indent report.toValue
  | .yaml => Yaml.render (yamlLayout writer.indent) report.toValue

theorem flatMap_chunks {writer : ReportWriter} {report : SurveyReport} {chunks : List Chunk}
    (h : writer.chunks report = .ok chunks) : chunks.flatMap Chunk.toText = writer.text report := by
  obtain ⟨format, indent⟩ := writer
  unfold ReportWriter.chunks at h
  cases format with
  | json =>
    dsimp only [Json.documentChunks?] at h
    split at h
    · cases h
      rfl
    · cases h
  | yaml =>
    dsimp only [Yaml.document?] at h
    split at h
    · cases h
      exact List.flatMap_singleton _ _
    · cases h

/-- What is written to its end is the text of the report. -/
theorem decode_contents {writer : ReportWriter} {report : SurveyReport} {bytes : Bytes}
    (h : writer.contents report = (bytes, none)) : Utf8.decode bytes = writer.text report := by
  unfold contents at h
  split at h
  · rename_i chunks begun
    obtain ⟨all, complete, decoded⟩ := encodeChunks_of_writable (writable_of_encodeChunks h)
    rw [complete] at h
    cases h
    rw [decoded, flatMap_chunks begun]
  · cases h

end ReportWriter
end SqlSurvey
