import Mathlib.Tactic.Lemma
import GlyphGrid.Proofs.Cell.Content

/-!
# A buffer is its content and the largest size that it needed

Whatever is done to a `CellBuffer`, what it shows can be told without its storage.  A
`BufferOrigin` is a way to make a buffer and a `BufferChange` a way to change one.  Each change
amounts to a list of `ContentEdit`s of plain bytes, `BufferChange.edits`: bytes that replace the
content, bytes behind it, or nothing.  A buffer shows the content that these edits lead to
(`Shows`), and its storage is as large as it was at first or as the largest content on the way
(`peakCapacity`), which is never more than was needed.

`Edited` relates the buffers before and after some edits.  It is composed by `Edited.trans`, so that
filling a cell, which is many steps, and a run of any changes are put together in the same way from
the four things that are ever done to a storage.  That an earlier content leaves no trace needs no
argument of its own: the edits speak of the content before them, and there is nothing else.
-/

namespace GlyphGrid

/-! ## Edits of bytes -/

/-- What can be done to a content. -/
inductive ContentEdit where
  | replace (bytes : List UInt8)
  | append (bytes : List UInt8)
  | clear

/-- The content after an edit. -/
def ContentEdit.apply (content : List UInt8) : ContentEdit → List UInt8
  | .replace bytes => bytes
  | .append bytes => content ++ bytes
  | .clear => []

/-- The greatest of a capacity and the lengths of the contents that edits lead through. -/
def peakCapacity (capacity : Nat) (content : List UInt8) (edits : List ContentEdit) : Nat :=
  ((edits.scanl ContentEdit.apply content).map List.length).foldl max capacity

/-! ## Making and changing buffers -/

/-- A way to make a buffer. -/
inductive BufferOrigin where
  | new
  | byDefault
  | ofParts (source : Option (List UInt8)) (length : Nat)
  | ofBytes (bytes : List UInt8)
  | ofText (text : String)
  | ofPoints (points : List Nat)
  | duplicate (source : CellBuffer)
  | clone (source : CellBuffer)

namespace BufferOrigin

/-- The buffer that is made. -/
def make : BufferOrigin → Except GlyphError CellBuffer
  | .new => .ok .empty
  | .byDefault => .ok default
  | .ofParts source length => CellBuffer.ofParts? source length
  | .ofBytes bytes => .ok (.ofBytes bytes)
  | .ofText text => .ok (.ofText text)
  | .ofPoints points => CellBuffer.ofPoints? points
  | .duplicate source => .ok source.duplicate
  | .clone source => .ok source.clone

/-- Some bytes with the capacity that a new buffer has for them. -/
def exactly (bytes : List UInt8) : List UInt8 × Nat :=
  (bytes, if bytes = [] then 6 else bytes.length)

/-- The content and the capacity that a buffer begins with. -/
def initial : BufferOrigin → Except GlyphError (List UInt8 × Nat)
  | .new => .ok ([], 6)
  | .byDefault => .ok ([], 6)
  | .ofParts source length =>
    if length = 0 then .ok ([], 6)
    else match source with
      | none => .error (.invalidArgument .missingSource)
      | some bytes =>
        if length ≤ bytes.length then .ok (bytes.take length, length)
        else .error (.invalidArgument .shortSource)
  | .ofBytes bytes => .ok (exactly bytes)
  | .ofText text => .ok (exactly (Utf8.encodeText text))
  | .ofPoints points => (Utf8.encodePoints points).map exactly
  | .duplicate source => .ok (source.content, source.capacity)
  | .clone source => .ok (source.content, source.capacity)

end BufferOrigin

/-- A way to change a buffer. -/
inductive BufferChange where
  | setBytes (bytes : List UInt8)
  | setFrom (other : CellBuffer)
  | setPoints (points : List Nat)
  | append (bytes : List UInt8)
  | reset
  | fill (cluster : String)

/-- What a change does to the content.  Numbers that are no characters do nothing. -/
def BufferChange.edits : BufferChange → List ContentEdit
  | .setBytes bytes => [.replace bytes]
  | .setFrom other => [.replace other.content]
  | .setPoints points =>
    match Utf8.encodePoints points with
    | .ok bytes => [.replace bytes]
    | .error _ => []
  | .append bytes => [.append bytes]
  | .reset => [.clear]
  | .fill cluster =>
    .clear :: cluster.toList.map fun c => .append (String.utf8EncodeChar c)

namespace CellBuffer

/-- The buffer after a change, and the answer of the change. -/
def perform (b : CellBuffer) : BufferChange → CellBuffer × Except GlyphError Unit
  | .setBytes bytes => (b.setBytes bytes, .ok ())
  | .setFrom other => (b.setFrom other, .ok ())
  | .setPoints points =>
    match b.setPoints? points with
    | .ok later => (later, .ok ())
    | .error e => (b, .error e)
  | .append bytes => (b.append bytes, .ok ())
  | .reset => (b.reset, .ok ())
  | .fill cluster => (b.fill cluster, .ok ())

/-- The buffer after some changes. -/
def after (b : CellBuffer) (changes : List BufferChange) : CellBuffer :=
  changes.foldl (fun b change => (b.perform change).1) b

/-- All that can be seen of a buffer but its capacity, given the bytes in it. -/
structure Shows (b : CellBuffer) (bytes : List UInt8) : Prop where
  content_eq : b.content = bytes
  length_eq : b.length = bytes.length
  isEmpty_iff : b.isEmpty = true ↔ bytes = []
  beq_iff : ∀ other : CellBuffer, (b == other) = true ↔ bytes = other.content
  hash_eq : b.hash = ContentHash.ofBytes bytes
  text_eq : b.text = Utf8.textLossy bytes

/-- What becomes of a buffer by some changes. -/
structure TracksContent (b : CellBuffer) (changes : List BufferChange) : Prop where
  /-- The bytes are those that the edits lead to. -/
  shows : (b.after changes).Shows
    ((changes.flatMap BufferChange.edits).foldl ContentEdit.apply b.content)
  length_le : (b.after changes).length ≤ (b.after changes).capacity
  /-- The storage is as large as it ever had to be. -/
  capacity_eq : (b.after changes).capacity
    = peakCapacity b.capacity b.content (changes.flatMap BufferChange.edits)
  /-- The storage never shrinks. -/
  capacity_mono : ∀ more, (b.after changes).capacity ≤ (b.after (changes ++ more)).capacity
  /-- What is left in the storage behind the content does not come to light. -/
  unaffected : ∀ other : CellBuffer, other.content = b.content →
    (other.after changes).content = (b.after changes).content
  /-- Only numbers that are no characters are refused, and then the buffer stays as it is. -/
  refused : ∀ change e, ((b.after changes).perform change).2 = .error e →
    ((b.after changes).perform change).1 = b.after changes ∧
      ∃ points n, change = .setPoints points ∧ n ∈ points ∧ ¬ n.isValidChar

/-! ## The greatest length -/

lemma peakCapacity_nil (capacity : Nat) (content : List UInt8) :
    peakCapacity capacity content [] = max capacity content.length := by
  rw [peakCapacity, List.scanl_nil, List.map_singleton, List.foldl_cons, List.foldl_nil]

lemma peakCapacity_cons (capacity : Nat) (content : List UInt8) (edit : ContentEdit)
    (edits : List ContentEdit) : peakCapacity capacity content (edit :: edits)
      = peakCapacity (max capacity content.length) (edit.apply content) edits := by
  rw [peakCapacity, List.scanl_cons, List.map_cons, List.foldl_cons]
  rfl

/-- The length of the first content counts once. -/
lemma peakCapacity_max (capacity : Nat) (content : List UInt8) (edits : List ContentEdit) :
    peakCapacity (max capacity content.length) content edits
      = peakCapacity capacity content edits := by
  cases edits with
  | nil => rw [peakCapacity_nil, peakCapacity_nil, Nat.max_assoc, Nat.max_self]
  | cons edit edits => rw [peakCapacity_cons, peakCapacity_cons, Nat.max_assoc, Nat.max_self]

lemma peakCapacity_append (capacity : Nat) (content : List UInt8)
    (edits more : List ContentEdit) : peakCapacity capacity content (edits ++ more)
      = peakCapacity (peakCapacity capacity content edits)
        (edits.foldl ContentEdit.apply content) more := by
  induction edits generalizing capacity content with
  | nil => rw [List.nil_append, peakCapacity_nil, List.foldl_nil, peakCapacity_max]
  | cons edit edits ih =>
    rw [List.cons_append, peakCapacity_cons, peakCapacity_cons, ih, List.foldl_cons]

lemma le_peakCapacity (capacity : Nat) (content : List UInt8) (edits : List ContentEdit) :
    capacity ≤ peakCapacity capacity content edits := by
  rw [peakCapacity, List.foldl_max]
  exact Nat.le_max_left _ _

/-! ## Buffers before and after edits -/

/-- A buffer whose content is edited, with no more storage than the contents on the way need. -/
structure Edited (b : CellBuffer) (edits : List ContentEdit) (later : CellBuffer) : Prop where
  content_eq : later.content = edits.foldl ContentEdit.apply b.content
  capacity_eq : later.capacity = peakCapacity b.capacity b.content edits

namespace Edited

/-- One edit needs room for its own outcome, as there is room for the content already. -/
lemma of_edit {b later : CellBuffer} {edit : ContentEdit}
    (hcontent : later.content = edit.apply b.content)
    (hcapacity : later.capacity = max b.capacity later.content.length) :
    Edited b [edit] later := by
  refine ⟨hcontent, ?_⟩
  rw [peakCapacity_cons, peakCapacity_nil, hcapacity, hcontent,
    Nat.max_eq_left b.length_le_capacity]

lemma refl (b : CellBuffer) : Edited b [] b := by
  refine ⟨rfl, ?_⟩
  rw [peakCapacity_nil, Nat.max_eq_left b.length_le_capacity]

lemma trans {a b c : CellBuffer} {edits more : List ContentEdit} (hab : Edited a edits b)
    (hbc : Edited b more c) : Edited a (edits ++ more) c := by
  constructor
  · rw [List.foldl_append, ← hab.content_eq]
    exact hbc.content_eq
  · rw [peakCapacity_append, ← hab.content_eq, ← hab.capacity_eq]
    exact hbc.capacity_eq

lemma setBytes (b : CellBuffer) (bytes : List UInt8) :
    Edited b [.replace bytes] (b.setBytes bytes) :=
  of_edit (content_setBytes b bytes) (by rw [capacity_setBytes, content_setBytes])

/-- Bytes that are set in an empty buffer are bytes behind its content. -/
lemma setBytes_of_content_eq_nil {b : CellBuffer} (h : b.content = []) (bytes : List UInt8) :
    Edited b [.append bytes] (b.setBytes bytes) := by
  apply of_edit
  · rw [content_setBytes, ContentEdit.apply, h, List.nil_append]
  · rw [capacity_setBytes, content_setBytes]

lemma append (b : CellBuffer) (bytes : List UInt8) : Edited b [.append bytes] (b.append bytes) :=
  of_edit (content_append b bytes) (by rw [capacity_append, content_append, List.length_append])

lemma reset (b : CellBuffer) : Edited b [.clear] b.reset :=
  of_edit rfl (by rw [capacity_reset, content_reset, List.length_nil, Nat.max_zero])

lemma appendMarks (b : CellBuffer) (marks : List Char) :
    Edited b (marks.map fun c => .append (String.utf8EncodeChar c))
      (marks.foldl (fun b mark => b.append (String.utf8EncodeChar mark)) b) := by
  induction marks generalizing b with
  | nil => exact refl b
  | cons mark marks ih => exact (append b (String.utf8EncodeChar mark)).trans (ih _)

lemma fill (b : CellBuffer) (cluster : String) :
    Edited b (BufferChange.fill cluster).edits (b.fill cluster) := by
  rw [CellBuffer.fill, BufferChange.edits]
  cases cluster.toList with
  | nil => exact reset b
  | cons c marks =>
    have hfirst := setBytes_of_content_eq_nil b.content_reset (String.utf8EncodeChar c)
    exact (reset b).trans (hfirst.trans (appendMarks _ marks))

/-- Every change is its edits. -/
lemma perform (b : CellBuffer) (change : BufferChange) :
    Edited b change.edits (b.perform change).1 := by
  cases change with
  | setBytes bytes => exact setBytes b bytes
  | setFrom other => exact setBytes b other.content
  | setPoints points =>
    rw [CellBuffer.perform, BufferChange.edits, setPoints?]
    cases Utf8.encodePoints points with
    | ok bytes => exact setBytes b bytes
    | error e => exact refl b
  | append bytes => exact append b bytes
  | reset => exact reset b
  | fill cluster => exact fill b cluster

/-- A run of changes is all their edits, one after the other. -/
lemma after (b : CellBuffer) (changes : List BufferChange) :
    Edited b (changes.flatMap BufferChange.edits) (b.after changes) := by
  induction changes generalizing b with
  | nil => exact refl b
  | cons change changes ih => exact (perform b change).trans (ih (b.perform change).1)

end Edited

/-! ## What is seen -/

/-- A buffer shows its content and nothing else. -/
lemma shows_of_content_eq {b : CellBuffer} {bytes : List UInt8} (h : b.content = bytes) :
    b.Shows bytes := by
  subst h
  exact ⟨rfl, b.length_content.symm, b.isEmpty_iff_content, b.beq_iff_content_eq, rfl, rfl⟩

/-- Numbers that cannot be encoded hold one that is no character. -/
lemma exists_not_isValidChar {points : List Nat} {index : Nat} {e : GlyphError}
    (h : Utf8.charsOfPoints index points = .error e) : ∃ n ∈ points, ¬ n.isValidChar := by
  induction points generalizing index e with
  | nil => cases h
  | cons n points ih =>
    by_cases hn : n.isValidChar
    · obtain ⟨c, hchar⟩ : ∃ c, Text.charOf? n = some c := ⟨_, dif_pos hn⟩
      rw [Utf8.charsOfPoints, hchar] at h
      cases hrest : Utf8.charsOfPoints (index + 1) points with
      | ok cs =>
        simp only [hrest] at h
        cases h
      | error cause =>
        obtain ⟨m, hm, hbad⟩ := ih hrest
        exact ⟨m, List.mem_cons_of_mem n hm, hbad⟩
    · exact ⟨n, List.mem_cons_self, hn⟩

lemma perform_refused {b : CellBuffer} {change : BufferChange} {e : GlyphError}
    (h : (b.perform change).2 = .error e) : (b.perform change).1 = b ∧
      ∃ points n, change = .setPoints points ∧ n ∈ points ∧ ¬ n.isValidChar := by
  cases change with
  | setPoints points =>
    rw [perform, setPoints?, Utf8.encodePoints] at h ⊢
    cases hchars : Utf8.charsOfPoints 0 points with
    | ok cs =>
      rw [hchars] at h
      cases h
    | error error =>
      obtain ⟨n, hn, hbad⟩ := exists_not_isValidChar hchars
      exact ⟨rfl, points, n, rfl, hn, hbad⟩
  | setBytes bytes => cases h
  | setFrom other => cases h
  | append bytes => cases h
  | reset => cases h
  | fill cluster => cases h

/-- Bytes get a storage of their own size, and none at all the default one. -/
lemma content_capacity_ofBytes (bytes : List UInt8) :
    ((ofBytes bytes).content, (ofBytes bytes).capacity) = BufferOrigin.exactly bytes := by
  rw [content_ofBytes, BufferOrigin.exactly, ofBytes]
  cases bytes <;> rfl

lemma make_ofParts_eq_initial (source : Option (List UInt8)) (length : Nat) :
    ((BufferOrigin.ofParts source length).make.map fun b => (b.content, b.capacity))
      = (BufferOrigin.ofParts source length).initial := by
  simp only [BufferOrigin.make, BufferOrigin.initial, ofParts?]
  by_cases hzero : length = 0
  · rw [if_pos hzero, if_pos hzero]
    rfl
  · rw [if_neg hzero, if_neg hzero]
    cases source with
    | none => rfl
    | some bytes =>
      by_cases hlong : length ≤ bytes.length
      · have htake : (bytes.take length).length = length := List.length_take_of_le hlong
        have hne : bytes.take length ≠ [] := by
          intro h
          rw [h] at htake
          exact hzero htake.symm
        simp only [if_neg (Nat.not_lt.mpr hlong), if_pos hlong]
        rw [Except.map, content_capacity_ofBytes, BufferOrigin.exactly, if_neg hne, htake]
      · simp only [if_pos (Nat.not_le.mp hlong), if_neg hlong]
        rfl

/-- A buffer that was made has the content and the capacity of its origin. -/
lemma make_eq_initial (origin : BufferOrigin) :
    (origin.make.map fun b => (b.content, b.capacity)) = origin.initial := by
  cases origin with
  | new => rfl
  | byDefault => rfl
  | ofParts source length => exact make_ofParts_eq_initial source length
  | ofBytes bytes => exact congrArg Except.ok (content_capacity_ofBytes bytes)
  | ofText text => exact congrArg Except.ok (content_capacity_ofBytes (Utf8.encodeText text))
  | ofPoints points =>
    rw [BufferOrigin.make, BufferOrigin.initial, ofPoints?]
    cases Utf8.encodePoints points with
    | ok bytes => exact congrArg Except.ok (content_capacity_ofBytes bytes)
    | error e => rfl
  | duplicate source =>
    change Except.ok (source.duplicate.content, source.duplicate.capacity) = _
    rw [content_duplicate, capacity_duplicate]
    rfl
  | clone source => rfl

/-- **A buffer is its content.**  A buffer that was made in any way has the content and the capacity
of its origin, and after any changes it shows the content that their edits lead to, in a storage
that is as large as it ever had to be. -/
theorem make_tracksContent (origin : BufferOrigin) :
    (origin.make.map fun b => (b.content, b.capacity)) = origin.initial ∧
      ∀ b, origin.make = .ok b → ∀ changes, TracksContent b changes := by
  refine ⟨make_eq_initial origin, fun b _ changes => ?_⟩
  have hafter := Edited.after b changes
  refine ⟨shows_of_content_eq hafter.content_eq, (b.after changes).length_le,
    hafter.capacity_eq, ?_, ?_, fun change e => perform_refused⟩
  · intro more
    have hmore := Edited.after (b.after changes) more
    have hrun : b.after (changes ++ more) = (b.after changes).after more := List.foldl_append
    rw [hrun, hmore.capacity_eq]
    exact le_peakCapacity _ _ _
  · intro other hother
    rw [(Edited.after other changes).content_eq, hafter.content_eq, hother]

/-- A long content is replaced by a short one and nothing of it comes back, neither when a mark is
put behind the short one nor when the cell is cleared and filled again; a surrogate is refused. -/
theorem make_tracksContent_of_long_text :
    ∃ b, (BufferOrigin.ofText "a long text").make = .ok b ∧ b.capacity = 11 ∧
      let changes := [.setBytes [101], .setPoints [0x41, 0xD800], .append [0xCC, 0x81]]
      (b.after changes).content = [101, 0xCC, 0x81] ∧ (b.after changes).capacity = 11 ∧
      (b.after (changes ++ [.reset, .append [120]])).content = [120] ∧
      (b.after [.append [120, 121], .fill "z"]).content = [122] ∧
      (b.after [.append [120, 121], .fill "z"]).capacity = 13 := by
  obtain ⟨hinitial, htracks⟩ := make_tracksContent (.ofText "a long text")
  have hcapacity : (ofText "a long text").capacity = 11 := by
    have h := congrArg Prod.snd (Except.ok.inj hinitial)
    exact h
  have hrun := htracks _ rfl
  refine ⟨_, rfl, hcapacity, ?_, ?_, ?_, ?_, ?_⟩
  · exact (hrun _).shows.content_eq
  · exact (hrun _).capacity_eq
  · exact (hrun _).shows.content_eq
  · exact (hrun _).shows.content_eq
  · exact (hrun _).capacity_eq

end CellBuffer
end GlyphGrid
