import Mathlib.Data.List.Chain
import GlyphGrid.Proofs.Font.Segments
import GlyphGrid.Proofs.Text.Decoding

/-!
# Segments cut a text at characters

`Partition` says what the segments of a text are: stretches that are never empty, begin at the first
byte, lie side by side up to the last one and are bounded by characters, each with the face of its
first character, which has all characters behind it and lacks the one that begins the next segment.

The segments are found in one pass which extends the last of them or begins another.  What the pass
leaves open is always its first segment, with the face and the start that it was given
(`exists_listFrom_eq_cons`), and so each of its two steps has only to be compared with the segment
before it (`isChain_listFrom`).  Where a segment stands in the text follows from the chain alone
(`start_eq_of_isChain`): it begins behind all bytes of the segments before it.
-/

namespace GlyphGrid

/-! ## The face of a character -/

namespace FontStack

/-- The face for a character that begins a segment: the first that has it, or else the primary
face. -/
inductive FirstFace (fonts : FontStack) (c : Char) : Nat → Prop
  | covering (index : Nat) (covers : fonts.covers index c = true)
      (least : ∀ i < index, fonts.covers i c = false) : FirstFace fonts c index
  | missing (uncovered : ∀ i, fonts.covers i c = false) : FirstFace fonts c 0

lemma covers_of_lt {fonts : FontStack} {i : Nat} (h : i < fonts.faces.length) (c : Char) :
    fonts.covers i c = fonts.faces[i].face.covers c := by
  rw [covers, get?, List.getElem?_eq_getElem h]
  rfl

lemma firstFace_faceFor (fonts : FontStack) (c : Char) : fonts.FirstFace c (fonts.faceFor c) := by
  rw [faceFor]
  cases hfind : fonts.faces.findIdx? (·.face.covers c) with
  | none =>
    refine .missing fun i => ?_
    rw [List.findIdx?_eq_none_iff] at hfind
    by_cases hi : i < fonts.faces.length
    · rw [covers_of_lt hi]
      exact hfind _ (List.getElem_mem hi)
    · rw [covers, get?, List.getElem?_eq_none (Nat.le_of_not_lt hi)]
      rfl
  | some index =>
    obtain ⟨hindex, hcovers, hleast⟩ := List.findIdx?_eq_some_iff_getElem.mp hfind
    refine .covering index ?_ fun i hi => ?_
    · rw [covers_of_lt hindex]
      exact hcovers
    · have hlength : i < fonts.faces.length := hi.trans hindex
      rw [covers_of_lt hlength]
      exact Bool.eq_false_iff.mpr (hleast i hi)

end FontStack

namespace Segment

/-! ## Counting bytes -/

lemma byteLength_cons (c : Char) (cs : List Char) :
    byteLength (c :: cs) = c.utf8Size + byteLength cs := rfl

lemma byteLength_append (cs ds : List Char) :
    byteLength (cs ++ ds) = byteLength cs + byteLength ds := by
  induction cs with
  | nil => simp [byteLength]
  | cons c cs ih => rw [List.cons_append, byteLength_cons, ih, byteLength_cons, Nat.add_assoc]

lemma byteLength_reverse (cs : List Char) : byteLength cs.reverse = byteLength cs := by
  induction cs with
  | nil => rfl
  | cons c cs ih =>
    rw [List.reverse_cons, byteLength_append, ih, byteLength_cons, Nat.add_comm]
    rfl

lemma byteLength_pos {cs : List Char} (h : cs ≠ []) : 0 < byteLength cs := by
  obtain ⟨c, rest, rfl⟩ := List.exists_cons_of_ne_nil h
  rw [byteLength_cons]
  exact Nat.add_pos_left c.utf8Size_pos _

lemma utf8ByteSize_ofList (cs : List Char) : (String.ofList cs).utf8ByteSize = byteLength cs := by
  induction cs with
  | nil => rfl
  | cons c cs ih =>
    rw [String.ofList_cons, String.utf8ByteSize_append, String.utf8ByteSize_singleton, ih,
      byteLength_cons]

lemma length_encode (cs : List Char) : (Utf8.encode cs).length = byteLength cs := by
  induction cs with
  | nil => rfl
  | cons c cs ih =>
    have hencode : Utf8.encode (c :: cs) = String.utf8EncodeChar c ++ Utf8.encode cs := rfl
    rw [hencode, List.length_append, String.length_utf8EncodeChar, ih, byteLength_cons]

/-! ## What holds of segments -/

/-- A segment with the face of its first character, which has the others too. -/
def Fits (fonts : FontStack) (s : Segment) : Prop :=
  ∃ c cs, s.chars = c :: cs ∧ s.face = fonts.faceFor c ∧ ∀ d ∈ cs, fonts.covers s.face d = true

/-- A segment that begins where another ends, with a character that the other's face lacks. -/
structure Follows (fonts : FontStack) (s t : Segment) : Prop where
  start_eq : t.start = s.stop
  uncovered : ∀ c ∈ t.chars.head?, fonts.covers s.face c = false

/-- A place between two characters of a text, or at one of its ends. -/
def IsBoundary (text : String) (byte : Nat) : Prop :=
  (⟨byte⟩ : String.Pos.Raw).IsValid text

/-- The segments of a text. -/
structure Partition (fonts : FontStack) (text : String) (segments : List Segment) : Prop where
  start_lt_stop : ∀ s ∈ segments, s.start < s.stop
  head_start : ∀ s ∈ segments.head?, s.start = 0
  adjacent : segments.IsChain fun s t => t.start = s.stop
  getLast_stop : ∀ s ∈ segments.getLast?, s.stop = text.utf8ByteSize
  eq_nil_iff : segments = [] ↔ text = ""
  boundaries : ∀ s ∈ segments, IsBoundary text s.start ∧ IsBoundary text s.stop
  /-- The bytes of a segment are those of the text between its ends. -/
  bytes_eq : ∀ s ∈ segments, ((Utf8.encodeText text).drop s.start).take (s.stop - s.start)
    = Utf8.encode s.chars
  face_lt : ∀ s ∈ segments, s.face < fonts.count
  fits : ∀ s ∈ segments, s.Fits fonts
  first_face : ∀ s ∈ segments, ∀ c ∈ s.chars.head?, fonts.FirstFace c s.face
  /-- A segment ends only where its face lacks the next character. -/
  switches : segments.IsChain fun s t => ∀ c ∈ t.chars.head?, fonts.covers s.face c = false

lemma Fits.ne_nil {fonts : FontStack} {s : Segment} (h : s.Fits fonts) : s.chars ≠ [] := by
  obtain ⟨c, cs, hchars, -⟩ := h
  rw [hchars]
  exact List.cons_ne_nil c cs

lemma Fits.firstFace {fonts : FontStack} {s : Segment} (h : s.Fits fonts) :
    ∀ c ∈ s.chars.head?, fonts.FirstFace c s.face := by
  obtain ⟨c, cs, hchars, hface, -⟩ := h
  intro d hd
  rw [hchars] at hd
  cases hd
  rw [hface]
  exact fonts.firstFace_faceFor c

/-! ## The pass over the characters -/

section Pass

variable (fonts : FontStack) (face start : Nat) (begun cs : List Char)

/-- The open segment comes first and keeps what it has begun with. -/
lemma exists_listFrom_eq_cons : ∃ more others,
    listFrom fonts face start begun cs = ⟨face, start, begun.reverse ++ more⟩ :: others := by
  induction cs generalizing begun with
  | nil => exact ⟨[], [], by rw [listFrom, List.append_nil]⟩
  | cons c cs ih =>
    rw [listFrom]
    split
    · obtain ⟨more, others, h⟩ := ih (c :: begun)
      refine ⟨c :: more, others, ?_⟩
      rw [h, List.reverse_cons, List.append_assoc, List.singleton_append]
    · exact ⟨[], _, by rw [List.append_nil]⟩

lemma flatMap_chars_listFrom :
    (listFrom fonts face start begun cs).flatMap Segment.chars = begun.reverse ++ cs := by
  induction cs generalizing face start begun with
  | nil => simp [listFrom]
  | cons c cs ih =>
    rw [listFrom]
    split
    · simp [ih]
    · simp [ih]

lemma isChain_listFrom : (listFrom fonts face start begun cs).IsChain (Follows fonts) := by
  induction cs generalizing face start begun with
  | nil => exact List.isChain_singleton _
  | cons c cs ih =>
    rw [listFrom]
    split
    · exact ih face start (c :: begun)
    · next huncovered =>
      refine List.isChain_cons.mpr ⟨fun t ht => ?_, ih _ _ [c]⟩
      obtain ⟨more, others, hlist⟩ := exists_listFrom_eq_cons fonts (fonts.faceFor c)
        (start + byteLength begun) [c] cs
      rw [hlist, List.head?_cons, Option.mem_some_iff] at ht
      subst ht
      constructor
      · rw [stop, byteLength_reverse]
      · intro d hd
        cases hd
        exact Bool.eq_false_iff.mpr huncovered

variable {fonts face start begun cs}

lemma fits_of_mem_listFrom {s : Segment} (hopen : Fits fonts ⟨face, start, begun.reverse⟩)
    (h : s ∈ listFrom fonts face start begun cs) : s.Fits fonts := by
  induction cs generalizing face start begun with
  | nil =>
    rw [listFrom, List.mem_singleton] at h
    rw [h]
    exact hopen
  | cons c cs ih =>
    rw [listFrom] at h
    split at h
    · next hcovered =>
      refine ih ?_ h
      -- The open segment goes on with a character that its face has.
      obtain ⟨first, rest, hchars, hface, hrest⟩ := hopen
      refine ⟨first, rest ++ [c], ?_, hface, ?_⟩
      · simp only at hchars
        rw [List.reverse_cons, hchars, List.cons_append]
      · intro d hd
        rcases List.mem_append.mp hd with hold | hnew
        · exact hrest d hold
        · rw [List.mem_singleton.mp hnew]
          exact hcovered
    · rcases List.mem_cons.mp h with hfirst | hlater
      · rw [hfirst]
        exact hopen
      · exact ih ⟨c, [], rfl, rfl, fun d hd => absurd hd List.not_mem_nil⟩ hlater

end Pass

/-! ## The segments of a text -/

section List

variable (fonts : FontStack) (cs : List Char)

lemma flatMap_chars_list : (list fonts cs).flatMap Segment.chars = cs := by
  cases cs with
  | nil => rfl
  | cons c cs => exact flatMap_chars_listFrom fonts _ 0 [c] cs

lemma isChain_list : (list fonts cs).IsChain (Follows fonts) := by
  cases cs with
  | nil => exact List.isChain_nil
  | cons c cs => exact isChain_listFrom fonts _ 0 [c] cs

lemma head_start_list : ∀ s ∈ (list fonts cs).head?, s.start = 0 := by
  intro s hs
  cases cs with
  | nil => cases hs
  | cons c cs =>
    obtain ⟨more, others, hlist⟩ := exists_listFrom_eq_cons fonts (fonts.faceFor c) 0 [c] cs
    rw [list, hlist, List.head?_cons, Option.mem_some_iff] at hs
    rw [← hs]

variable {fonts cs}

lemma fits_of_mem_list {s : Segment} (h : s ∈ list fonts cs) : s.Fits fonts := by
  cases cs with
  | nil => exact absurd h List.not_mem_nil
  | cons c cs =>
    exact fits_of_mem_listFrom ⟨c, [], rfl, rfl, fun d hd => absurd hd List.not_mem_nil⟩ h

/-- In a chain that begins at a byte, a segment begins behind all bytes of those before it. -/
lemma start_eq_of_isChain {segments earlier later : List Segment} {s : Segment} {first : Nat}
    (hchain : segments.IsChain (Follows fonts)) (hfirst : ∀ t ∈ segments.head?, t.start = first)
    (hsplit : segments = earlier ++ s :: later) :
    s.start = first + byteLength (earlier.flatMap Segment.chars) := by
  subst hsplit
  induction earlier generalizing first with
  | nil => exact hfirst s rfl
  | cons t earlier ih =>
    obtain ⟨hnext, hrest⟩ := List.isChain_cons.mp hchain
    have hstart : t.start = first := hfirst t rfl
    have hs := ih hrest fun u hu => (hnext u hu).start_eq
    rw [hs, stop, hstart, List.flatMap_cons, byteLength_append, Nat.add_assoc]

/-- A segment of a text stands between what comes before it and what comes after it. -/
lemma exists_split_of_mem_list {s : Segment} (h : s ∈ list fonts cs) : ∃ before after,
    cs = before ++ s.chars ++ after ∧ s.start = byteLength before ∧
      s.stop = byteLength (before ++ s.chars) := by
  obtain ⟨earlier, later, hsplit⟩ := List.append_of_mem h
  have hstart := start_eq_of_isChain (isChain_list fonts cs) (head_start_list fonts cs) hsplit
  rw [Nat.zero_add] at hstart
  refine ⟨earlier.flatMap Segment.chars, later.flatMap Segment.chars, ?_, hstart, ?_⟩
  · have hchars := flatMap_chars_list fonts cs
    rw [hsplit, List.flatMap_append, List.flatMap_cons, ← List.append_assoc] at hchars
    exact hchars.symm
  · rw [stop, hstart, byteLength_append]

/-- The last segment of a text ends where the text does. -/
lemma getLast_stop_list : ∀ s ∈ (list fonts cs).getLast?, s.stop = byteLength cs := by
  intro s hs
  obtain ⟨earlier, hsplit⟩ := List.getLast?_eq_some_iff.mp hs
  have hstart := start_eq_of_isChain (isChain_list fonts cs) (head_start_list fonts cs) hsplit
  have hchars := flatMap_chars_list fonts cs
  rw [hsplit, List.flatMap_append, List.flatMap_singleton] at hchars
  rw [stop, hstart, Nat.zero_add, ← byteLength_append, hchars]

end List

lemma isBoundary_of_append (before after : List Char) :
    IsBoundary (String.ofList (before ++ after)) (byteLength before) := by
  have hend : (⟨byteLength before⟩ : String.Pos.Raw) = (String.ofList before).rawEndPos := by
    rw [← utf8ByteSize_ofList]
    rfl
  rw [IsBoundary, String.ofList_append, String.Pos.Raw.isValid_append, hend]
  exact .inl String.Pos.Raw.isValid_rawEndPos

lemma partition_list (fonts : FontStack) (text : String) :
    Partition fonts text (list fonts text.toList) := by
  have hsize : text.utf8ByteSize = byteLength text.toList := by
    rw [← utf8ByteSize_ofList, String.ofList_toList]
  refine ⟨?_, head_start_list fonts _, ?_, ?_, ?_, ?_, ?_, ?_, ?_, ?_, ?_⟩
  · intro s hs
    have hpos := byteLength_pos (fits_of_mem_list hs).ne_nil
    rw [stop]
    omega
  · exact (isChain_list fonts _).imp fun _ _ h => h.start_eq
  · rw [hsize]
    exact getLast_stop_list
  · rw [← String.toList_eq_nil_iff]
    cases text.toList with
    | nil => simp [list]
    | cons c cs =>
      obtain ⟨more, others, hlist⟩ := exists_listFrom_eq_cons fonts (fonts.faceFor c) 0 [c] cs
      simp [list, hlist]
  · intro s hs
    obtain ⟨before, after, hsplit, hstart, hstop⟩ := exists_split_of_mem_list hs
    rw [← String.ofList_toList (s := text), hsplit, hstart, hstop]
    refine ⟨?_, isBoundary_of_append (before ++ s.chars) after⟩
    rw [List.append_assoc]
    exact isBoundary_of_append before (s.chars ++ after)
  · intro s hs
    obtain ⟨before, after, hsplit, hstart, hstop⟩ := exists_split_of_mem_list hs
    have hlength : s.stop - s.start = (Utf8.encode s.chars).length := by
      rw [length_encode, stop]
      omega
    rw [Utf8.encodeText, hsplit, List.append_assoc, Utf8.encode_append, Utf8.encode_append,
      hlength, hstart, ← length_encode, List.drop_left, List.take_left]
  · exact fun s hs => face_lt_of_mem_list hs
  · exact fun s hs => fits_of_mem_list hs
  · exact fun s hs => (fits_of_mem_list hs).firstFace
  · exact (isChain_list fonts _).imp fun _ _ h => h.uncovered

end Segment
end GlyphGrid
