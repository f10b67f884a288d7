import GlyphGrid.Proofs.Cell.Content
import GlyphGrid.Proofs.Text.Decoding

/-!
# A cell is filled as if its text were set at once

A cluster is put into a cell one character after the other, the first of them over the old content
and each other behind those before it.  The storage is enlarged on the way, by just what the next
character needs.  All this amounts to setting the bytes of the cluster at once
(`CellBuffer.fill_eq_setBytes`): the content is the same, and so are the size of the storage and
even the bytes that are left in it behind the content.

One step is enough for it, `CellBuffer.append_setBytes`, which holds whatever was in the cell
before.  A cluster without a character is no exception, as nothing is what it sets.
-/

namespace GlyphGrid.CellBuffer

/-- A cell is filled with a cluster as if the bytes of the cluster were set at once. -/
structure FillsAtOnce (b : CellBuffer) (cluster : String) : Prop where
  /-- Not even what is left in the storage tells the two apart. -/
  eq_setBytes : b.fill cluster = b.setBytes cluster.toUTF8.data.toList
  content_eq : (b.fill cluster).content = cluster.toUTF8.data.toList
  /-- The storage grows only if the cluster needs it, and then to its size. -/
  capacity_eq : (b.fill cluster).capacity = max b.capacity cluster.utf8ByteSize
  /-- The cell is the same key as a new one of the text. -/
  beq_ofText : (b.fill cluster == ofText cluster) = true
  hash_eq : (b.fill cluster).hash = (ofText cluster).hash
  tableHash_eq : (b.fill cluster).tableHash = (ofText cluster).tableHash
  text_eq : (b.fill cluster).text = cluster

lemma setBytes_nil (b : CellBuffer) : b.setBytes [] = b.reset := by
  refine eq_of_storage_eq ?_ rfl
  rw [storage_setBytes]
  rfl

/-- Marks that are put behind bytes could have been set with them. -/
lemma foldl_append_setBytes (b : CellBuffer) (bytes : List UInt8) (marks : List Char) :
    marks.foldl (fun b mark => b.append (String.utf8EncodeChar mark)) (b.setBytes bytes)
      = b.setBytes (bytes ++ Utf8.encode marks) := by
  induction marks generalizing bytes with
  | nil => rw [List.foldl_nil, Utf8.encode, List.flatMap_nil, List.append_nil]
  | cons mark marks ih =>
    rw [List.foldl_cons, append_setBytes, ih, List.append_assoc]
    rfl

/-- Filling a cell is setting the bytes of all characters at once. -/
lemma fill_eq_setBytes (b : CellBuffer) (cluster : String) :
    b.fill cluster = b.setBytes (Utf8.encodeText cluster) := by
  rw [fill, Utf8.encodeText]
  cases cluster.toList with
  | nil => exact b.setBytes_nil.symm
  | cons c marks => exact foldl_append_setBytes b.reset (String.utf8EncodeChar c) marks

/-- The bytes of a text are those that it is stored in. -/
lemma encodeText_eq_toUTF8 (text : String) : Utf8.encodeText text = text.toUTF8.data.toList := by
  have hbytes : text.toUTF8 = (Utf8.encodeText text).toByteArray := String.utf8Encode_toList.symm
  rw [hbytes, List.data_toByteArray]

/-- **A cell is filled at once.**  Whatever a cell holds and whatever is left in it, putting the
characters of a cluster into it one after the other leaves it as if their bytes had been set in one
step, so that it is the cell of this text. -/
theorem fill_fillsAtOnce (b : CellBuffer) (cluster : String) : FillsAtOnce b cluster := by
  have hsize : (Utf8.encodeText cluster).length = cluster.utf8ByteSize := by
    rw [encodeText_eq_toUTF8]
    rfl
  have hsame : (b.fill cluster == ofText cluster) = true :=
    (beq_iff_content_eq _ _).mpr (content_fill_eq_ofText b cluster)
  constructor
  case eq_setBytes => rw [fill_eq_setBytes, encodeText_eq_toUTF8]
  case content_eq => rw [content_fill, encodeText_eq_toUTF8]
  case capacity_eq => rw [fill_eq_setBytes, capacity_setBytes, hsize]
  case beq_ofText => exact hsame
  case hash_eq => rw [hash, content_fill_eq_ofText, hash]
  case tableHash_eq => rw [tableHash, feed, content_fill_eq_ofText, tableHash, feed]
  case text_eq => rw [text, content_fill, Utf8.textLossy_encodeText]

/-- Two marks come behind a letter, and one byte of what was there before is left over. -/
example : ((ofText "zzzzzz").fill "o\u0308\u0301").storage
    = [0x6F, 0xCC, 0x88, 0xCC, 0x81, 0x7A] := by
  decide

end GlyphGrid.CellBuffer
