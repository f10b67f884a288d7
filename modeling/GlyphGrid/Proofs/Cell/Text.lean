import GlyphGrid.Proofs.Cell.Content
import GlyphGrid.Proofs.Text.Subparts

/-!
# The text of a cell

A cell holds any bytes, and its text is what can be read of them.  `LossyText` says what this text
is: the bytes themselves if they are UTF-8, and otherwise the characters among them with one
replacement character for each maximal subpart that is broken.  The replacement is made once, as the
bytes of the text are UTF-8, and nothing but an empty content has an empty text.

Bytes can be put behind others at a place where a character was torn, and then the text is not that
of the parts.  It is unless what comes behind begins with a continuation byte and what stands before
is broken (`textLossy_append`); in particular a whole character can be put behind any content.
-/

namespace GlyphGrid

open Utf8

/-- What the text of a cell is, whatever its bytes are. -/
structure LossyText (b : CellBuffer) : Prop where
  /-- The bytes are those of the text if they are UTF-8, and only then. -/
  encodeText_eq_iff : encodeText b.text = b.content ↔ IsUtf8 b.content
  /-- The bytes are cut into characters and broken pieces in one way, and each piece is replaced. -/
  replaced : ∃ us, (∀ vs, Decodes b.content vs ↔ vs = us) ∧ (none ∈ us ↔ ¬ IsUtf8 b.content) ∧
    b.text.toList = us.map (·.getD '\uFFFD')
  /-- The text is its own text. -/
  idempotent : (CellBuffer.ofText b.text).text = b.text ∧
    ∀ other : CellBuffer, (other.setBytes (encodeText b.text)).text = b.text
  eq_empty_iff : b.text = "" ↔ b.content = []
  append : ∀ other : CellBuffer,
    IsUtf8 b.content ∨ (∀ x ∈ other.content.head?, ¬ IsContinuation x) →
      (b.append other.content).text = b.text ++ other.text
  /-- A character that is put behind the content does not change the text before it. -/
  append_char : ∀ c : Char, (b.append (String.utf8EncodeChar c)).text = b.text.push c ∧
    (IsUtf8 b.content → IsUtf8 (b.append (String.utf8EncodeChar c)).content)

namespace Utf8

variable {a b bytes : List UInt8}

lemma encodeText_textLossy_eq_iff : encodeText (textLossy bytes) = bytes ↔ IsUtf8 bytes := by
  rw [isUtf8_iff]
  constructor
  · intro h
    exact ⟨_, h.symm⟩
  · rintro ⟨cs, rfl⟩
    rw [textLossy_encode, encodeText_ofList]

lemma textLossy_eq_empty_iff : textLossy bytes = "" ↔ bytes = [] := by
  constructor
  · intro h
    by_contra nonempty
    apply decodeLossy_ne_nil nonempty
    rw [← String.toList_eq_nil_iff, textLossy, String.toList_ofList] at h
    exact h
  · rintro rfl
    rfl

/-- Texts are put together as bytes are, where no character is torn. -/
lemma textLossy_append (h : IsUtf8 a ∨ ∀ x ∈ b.head?, ¬ IsContinuation x) :
    textLossy (a ++ b) = textLossy a ++ textLossy b := by
  have hunits : units (a ++ b) = units a ++ units b := by
    rcases h with hvalid | hhead
    · obtain ⟨cs, rfl⟩ := isUtf8_iff.mp hvalid
      rw [units_encode_append, units_encode]
    · exact units_append hhead
  rw [textLossy, decodeLossy, hunits, List.map_append, String.ofList_append]
  rfl

end Utf8

/-- Any bytes have a text, and bytes that are put behind them have theirs where no character is
torn. -/
lemma lossyText (b : CellBuffer) : LossyText b where
  encodeText_eq_iff := encodeText_textLossy_eq_iff
  replaced := by
    refine ⟨units b.content, fun _ => decodes_iff, ?_, ?_⟩
    · rw [← none_not_mem_units_iff, not_not]
    · exact String.toList_ofList
  idempotent := by
    refine ⟨?_, fun other => ?_⟩
    · rw [CellBuffer.text, CellBuffer.content_ofText, textLossy_encodeText]
    · rw [CellBuffer.text, CellBuffer.content_setBytes, textLossy_encodeText]
  eq_empty_iff := textLossy_eq_empty_iff
  append other h := by
    rw [CellBuffer.text, CellBuffer.content_append]
    exact textLossy_append h
  append_char c := by
    rw [CellBuffer.text, CellBuffer.content_append]
    constructor
    · have hwhole : ∀ x ∈ (String.utf8EncodeChar c).head?, ¬ IsContinuation x :=
        fun _ => not_isContinuation_of_mem_head?
      rw [textLossy_append (.inr hwhole), ← encode_singleton, textLossy_encode,
        ← String.toList_inj, String.toList_append, String.toList_push, String.toList_ofList]
      rfl
    · intro h
      obtain ⟨cs, hcs⟩ := isUtf8_iff.mp h
      rw [hcs, ← encode_singleton, ← encode_append, isUtf8_iff]
      exact ⟨_, rfl⟩

/-- A character that was torn is broken in both parts, and whole again when they are put
together. -/
example : let e : CellBuffer := .ofBytes [0xC3]
    e.text = "\uFFFD" ∧ (CellBuffer.ofBytes [0xA9]).text = "\uFFFD" ∧
      (e.append [0xA9]).text = "é" := by
  decide

/-- A surrogate is no character, so that each of its bytes is broken; of four bytes three are one
piece if the last is missing. -/
example : (CellBuffer.ofBytes [0xED, 0xA0, 0x80, 0xF0, 0x9F, 0x98, 0x41]).text
    = "\uFFFD\uFFFD\uFFFD\uFFFDA" := by
  decide

end GlyphGrid
