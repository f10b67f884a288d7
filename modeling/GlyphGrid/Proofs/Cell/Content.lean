import Mathlib.Tactic.Lemma
import GlyphGrid.Cell.Buffer

/-!
# What the operations of a cell buffer do to its content

A `CellBuffer` is seen through two functions: `content`, the bytes in front, and `capacity`, the
size of the storage.  This file says what each operation does to the two, so that nothing later
has to look at the storage.  What an earlier content left behind the length is never visible:
`content_setBytes`, `content_append` and `content_fill` mention the old content only where it is
kept on purpose.

Two buffers are the same key when their contents agree (`beq_iff_content_eq`), and `trimmed` is the
buffer with the same content and nothing behind it, so that equality of trimmed buffers is that
equality of keys.
-/

namespace GlyphGrid.CellBuffer

/-! ## The two views -/

@[simp] lemma length_content (b : CellBuffer) : b.content.length = b.length := by
  simp only [content, List.length_take]
  exact Nat.min_eq_left b.length_le

lemma length_le_capacity (b : CellBuffer) : b.content.length ≤ b.capacity := by
  rw [length_content]
  exact b.length_le

lemma isEmpty_iff_content (b : CellBuffer) : b.isEmpty = true ↔ b.content = [] := by
  rw [isEmpty, beq_iff_eq, ← length_content, List.length_eq_zero_iff]

/-- Equality of keys is equality of contents: the lengths that it compares first are theirs. -/
lemma beq_iff_content_eq (a b : CellBuffer) : (a == b) = true ↔ a.content = b.content := by
  change (a.length == b.length && a.content == b.content) = true ↔ _
  rw [Bool.and_eq_true, beq_iff_eq, beq_iff_eq]
  refine ⟨And.right, fun h => ⟨?_, h⟩⟩
  rw [← length_content, ← length_content, h]

/-! ## Making buffers -/

@[simp] lemma content_empty : empty.content = [] := rfl

@[simp] lemma capacity_empty : empty.capacity = 6 := rfl

@[simp] lemma content_ofBytes (bytes : List UInt8) : (ofBytes bytes).content = bytes := by
  unfold ofBytes
  split
  · next h => rw [content_empty, List.isEmpty_iff.mp h]
  · simp only [content, List.take_length]

@[simp] lemma content_ofText (text : String) : (ofText text).content = Utf8.encodeText text :=
  content_ofBytes _

@[simp] lemma content_duplicate (b : CellBuffer) : b.duplicate.content = b.content := by
  change (b.content ++ List.replicate (b.capacity - b.length) 0).take b.length = b.content
  exact List.take_left' (length_content b)

@[simp] lemma capacity_duplicate (b : CellBuffer) : b.duplicate.capacity = b.capacity := by
  have h := b.length_le
  simp only [duplicate, capacity, List.length_append, List.length_replicate, length_content]
  omega

/-! ## Changing buffers -/

@[simp] lemma content_reset (b : CellBuffer) : b.reset.content = [] := rfl

@[simp] lemma capacity_reset (b : CellBuffer) : b.reset.capacity = b.capacity := rfl

lemma capacity_grow (b : CellBuffer) (size : Nat) :
    (b.grow size).capacity = max b.capacity size := by
  simp only [grow, capacity, List.length_append, List.length_replicate]
  omega

@[simp] lemma content_setBytes (b : CellBuffer) (bytes : List UInt8) :
    (b.setBytes bytes).content = bytes := by
  simp only [setBytes, content, overwrite, List.take_zero, List.nil_append]
  exact List.take_left' rfl

@[simp] lemma capacity_setBytes (b : CellBuffer) (bytes : List UInt8) :
    (b.setBytes bytes).capacity = max b.capacity bytes.length := by
  rw [← capacity_grow, capacity, setBytes, length_overwrite, capacity]
  rw [Nat.zero_add]
  exact le_length_grow b bytes.length

@[simp] lemma content_append (b : CellBuffer) (bytes : List UInt8) :
    (b.append bytes).content = b.content ++ bytes := by
  have hfront : (b.grow (b.length + bytes.length)).storage.take b.length = b.content :=
    List.take_append_of_le_length b.length_le
  simp only [append, content, overwrite]
  rw [hfront]
  exact List.take_left' (by rw [List.length_append, length_content])

@[simp] lemma capacity_append (b : CellBuffer) (bytes : List UInt8) :
    (b.append bytes).capacity = max b.capacity (b.content.length + bytes.length) := by
  rw [length_content, ← capacity_grow, capacity, append, length_overwrite, capacity]
  exact le_length_grow b (b.length + bytes.length)

/-! ## What is left in the storage

Behind the bytes that are written the storage is what it was before.  A buffer that is enlarged gets
new bytes only where others are written over them. -/

/-- Equal storages with equal lengths in front are one buffer. -/
lemma eq_of_storage_eq {a b : CellBuffer} (hstorage : a.storage = b.storage)
    (hlength : a.length = b.length) : a = b := by
  cases a
  cases b
  cases hstorage
  cases hlength
  rfl

lemma drop_storage_grow (b : CellBuffer) (size : Nat) :
    (b.grow size).storage.drop size = b.storage.drop size := by
  simp only [grow, capacity, List.drop_append, List.drop_replicate]
  rw [Nat.sub_self, List.replicate_zero, List.append_nil]

lemma storage_setBytes (b : CellBuffer) (bytes : List UInt8) :
    (b.setBytes bytes).storage = bytes ++ b.storage.drop bytes.length := by
  change overwrite (b.grow bytes.length).storage 0 bytes = _
  rw [overwrite, Nat.zero_add, drop_storage_grow]
  rfl

lemma storage_append (b : CellBuffer) (bytes : List UInt8) :
    (b.append bytes).storage
      = b.content ++ bytes ++ b.storage.drop (b.content.length + bytes.length) := by
  have hfront : (b.grow (b.length + bytes.length)).storage.take b.length = b.content :=
    List.take_append_of_le_length b.length_le
  change overwrite (b.grow (b.length + bytes.length)).storage b.length bytes = _
  rw [overwrite, hfront, drop_storage_grow, length_content]

/-- Bytes of the same number as those set before replace them and leave no trace of them, not
even in the storage. -/
lemma setBytes_setBytes (b : CellBuffer) {old new : List UInt8} (h : old.length = new.length) :
    (b.setBytes old).setBytes new = b.setBytes new := by
  refine eq_of_storage_eq ?_ rfl
  rw [storage_setBytes, storage_setBytes, storage_setBytes, ← h, List.drop_left]

/-- Bytes that are put behind others could have been set together with them. -/
lemma append_setBytes (b : CellBuffer) (bytes more : List UInt8) :
    (b.setBytes bytes).append more = b.setBytes (bytes ++ more) := by
  refine eq_of_storage_eq ?_ List.length_append.symm
  rw [storage_append, content_setBytes, storage_setBytes, storage_setBytes, List.drop_append,
    List.drop_drop, List.length_append]
  simp

/-! ## Filling a cell

The cell takes the first character of a cluster as its content and each other behind it, which in
the end is the encoding of the whole cluster. -/

/-- Appending characters one after the other appends their encoding. -/
lemma content_foldl_append (b : CellBuffer) (marks : List Char) :
    (marks.foldl (fun b mark => b.append (String.utf8EncodeChar mark)) b).content
      = b.content ++ Utf8.encode marks := by
  induction marks generalizing b with
  | nil => simp [Utf8.encode]
  | cons mark marks ih =>
    rw [List.foldl_cons, ih, content_append, List.append_assoc]
    rfl

@[simp] lemma content_fill (b : CellBuffer) (cluster : String) :
    (b.fill cluster).content = Utf8.encodeText cluster := by
  unfold fill Utf8.encodeText
  cases cluster.toList with
  | nil => rfl
  | cons c marks =>
    simp only [content_foldl_append, content_setBytes]
    rfl

/-- A buffer that was filled shows what a new buffer of the text shows. -/
lemma content_fill_eq_ofText (b : CellBuffer) (text : String) :
    (b.fill text).content = (ofText text).content := by
  rw [content_fill, content_ofText]

/-- A cell that is filled with a cluster shows something, as every character has bytes. -/
lemma content_fill_ne_nil (b : CellBuffer) {cluster : String} (h : cluster ≠ "") :
    (b.fill cluster).content ≠ [] := by
  rw [content_fill, Utf8.encodeText, Utf8.encode, ne_eq, List.flatMap_eq_nil_iff]
  intro hnone
  apply h
  rw [← String.toList_eq_nil_iff, List.eq_nil_iff_forall_not_mem]
  intro c hc
  have hsize := c.utf8Size_pos
  rw [← String.length_utf8EncodeChar, hnone c hc] at hsize
  exact Nat.lt_irrefl 0 hsize

/-! ## Trimming -/

/-- The buffer with the same content and no storage behind it. -/
def trimmed (b : CellBuffer) : CellBuffer :=
  ⟨b.content, b.content.length, Nat.le_refl _⟩

@[simp] lemma content_trimmed (b : CellBuffer) : b.trimmed.content = b.content :=
  List.take_length

lemma trimmed_eq_iff {a b : CellBuffer} : a.trimmed = b.trimmed ↔ a.content = b.content := by
  refine ⟨fun h => ?_, fun h => ?_⟩
  · rw [← content_trimmed a, h, content_trimmed]
  · unfold trimmed
    simp only [h]

/-- The text of a buffer depends on its content alone. -/
lemma text_congr {a b : CellBuffer} (h : a.content = b.content) : a.text = b.text := by
  rw [text, h, text]

end GlyphGrid.CellBuffer
