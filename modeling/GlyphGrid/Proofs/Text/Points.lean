import Mathlib.Algebra.GroupWithZero.Nat
import Mathlib.Tactic.Common
import GlyphGrid.Proofs.Cell.Content
import GlyphGrid.Proofs.Text.Decoding

/-!
# Characters given by their numbers

`Utf8.encodePoints` takes numbers for characters.  It has an answer exactly if all of them are
numbers of characters (`encodePoints_eq_ok_iff`), and then the answer is nothing but the encoding of
these characters, so that reading gives the numbers back, different numbers have different bytes and
numbers that are put together have their bytes put together.  Otherwise the error names the first
number that is none (`encodePoints_eq_error_iff`).

A cell that is made of numbers, or set to them, holds the same bytes, and as its text these very
characters: there is nothing to be replaced in it.
-/

namespace GlyphGrid

namespace Text

lemma isScalarValue_iff {n : Nat} : isScalarValue n = true ↔ n.isValidChar := by
  simp only [isScalarValue, Bool.or_eq_true, Bool.and_eq_true, decide_eq_true_iff, Nat.isValidChar]
  omega

lemma charOf?_eq_some_iff {n : Nat} {c : Char} : charOf? n = some c ↔ c.toNat = n := by
  constructor
  · intro h
    by_cases hvalid : n.isValidChar
    · rw [charOf?, dif_pos hvalid] at h
      rw [← Option.some.inj h]
      rfl
    · rw [charOf?, dif_neg hvalid] at h
      cases h
  · rintro rfl
    have hvalid : c.toNat.isValidChar := c.valid
    rw [charOf?, dif_pos hvalid]
    rfl

lemma charOf?_eq_none_iff {n : Nat} : charOf? n = none ↔ isScalarValue n = false := by
  rw [← Bool.not_eq_true, isScalarValue_iff, charOf?]
  by_cases hvalid : n.isValidChar
  · rw [dif_pos hvalid]
    exact iff_of_false (Option.some_ne_none _) (not_not_intro hvalid)
  · rw [dif_neg hvalid]
    exact iff_of_true rfl hvalid

end Text

namespace Utf8

/-- The number of bytes of the character with a number. -/
def pointSize (n : Nat) : Nat :=
  if n < 0x80 then 1 else if n < 0x800 then 2 else if n < 0x10000 then 3 else 4

/-- The first number that is not a character is `n`, at position `i`. -/
structure IsFirstBad (points : List Nat) (i n : Nat) : Prop where
  at_eq : points[i]? = some n
  bad : Text.isScalarValue n = false
  before : ∀ m ∈ points.take i, Text.isScalarValue m = true

/-- A cell shows some bytes and, as its text, the characters with some numbers. -/
structure ShowsPoints (b : CellBuffer) (points : List Nat) (bytes : List UInt8) : Prop where
  content_eq : b.content = bytes
  text_eq : b.text.toList.map Char.toNat = points
  /-- No byte is replaced in the text. -/
  encodeText_text : encodeText b.text = bytes

/-- Some bytes are the characters with some numbers. -/
structure EncodesPoints (points : List Nat) (bytes : List UInt8) : Prop where
  decode_eq : (decode? bytes).map (·.map Char.toNat) = some points
  /-- The bytes are well-formed, and the text of which they are the bytes has these characters. -/
  fromUTF8_eq : (String.fromUTF8? bytes.toByteArray).map (·.toList.map Char.toNat) = some points
  length_eq : bytes.length = (points.map pointSize).sum
  /-- No other numbers have these bytes. -/
  unique : ∀ others, encodePoints others = .ok bytes → others = points
  append : ∀ more rest, encodePoints more = .ok rest →
    encodePoints (points ++ more) = .ok (bytes ++ rest)
  made : ∃ b, CellBuffer.ofPoints? points = .ok b ∧ ShowsPoints b points bytes
  set : ∀ old : CellBuffer, ∃ b, old.setPoints? points = .ok b ∧ ShowsPoints b points bytes

/-- What becomes of numbers that are taken for characters. -/
structure CodesPoints (points : List Nat) : Prop where
  ok_iff : (∃ bytes, encodePoints points = .ok bytes)
    ↔ ∀ n ∈ points, Text.isScalarValue n = true
  encodes : ∀ bytes, encodePoints points = .ok bytes → EncodesPoints points bytes
  /-- The only error is that a number is no character, and it names the first of these. -/
  error_iff : ∀ e, encodePoints points = .error e
    ↔ ∃ i n, e = .notScalar i n ∧ IsFirstBad points i n
  refused : ∀ e, encodePoints points = .error e → CellBuffer.ofPoints? points = .error e ∧
    ∀ old : CellBuffer, old.setPoints? points = .error e

/-! ## Characters and their numbers -/

section

variable {ε α β : Type} {x : Except ε α} {f : α → β}

lemma map_eq_ok_iff {b : β} : x.map f = .ok b ↔ ∃ a, x = .ok a ∧ f a = b := by
  cases x <;> simp [Except.map]

lemma map_eq_error_iff {e : ε} : x.map f = .error e ↔ x = .error e := by
  cases x <;> simp [Except.map]

end

lemma pointSize_toNat (c : Char) : pointSize c.toNat = c.utf8Size := by
  have hsize : c.utf8Size = if c.toNat ≤ 127 then 1 else if c.toNat ≤ 2047 then 2
      else if c.toNat ≤ 65535 then 3 else 4 := rfl
  rw [hsize, pointSize]
  simp only [Nat.lt_succ_iff]

lemma length_encode_eq_sum (cs : List Char) :
    (encode cs).length = ((cs.map Char.toNat).map pointSize).sum := by
  rw [encode, List.length_flatMap, List.map_map]
  congr 1
  refine List.map_congr_left fun c _ => ?_
  rw [String.length_utf8EncodeChar, Function.comp_apply, pointSize_toNat]

lemma encode_inj {cs ds : List Char} (h : encode cs = encode ds) : cs = ds := by
  have hread := decode?_encode cs
  rw [h, decode?_encode] at hread
  exact (Option.some.inj hread).symm

lemma charsOfPoints_eq_ok_iff {points : List Nat} {index : Nat} {cs : List Char} :
    charsOfPoints index points = .ok cs ↔ cs.map Char.toNat = points := by
  induction points generalizing index cs with
  | nil =>
    rw [charsOfPoints, List.map_eq_nil_iff]
    exact ⟨fun h => (Except.ok.inj h).symm, fun h => h ▸ rfl⟩
  | cons n points ih =>
    rw [charsOfPoints]
    cases hchar : Text.charOf? n with
    | none =>
      refine iff_of_false nofun fun h => ?_
      obtain ⟨c, rest, -, hc, -⟩ := List.map_eq_cons_iff.mp h
      rw [Text.charOf?_eq_some_iff.mpr hc] at hchar
      cases hchar
    | some c =>
      have hc := Text.charOf?_eq_some_iff.mp hchar
      simp only [map_eq_ok_iff, ih]
      constructor
      · rintro ⟨rest, hrest, rfl⟩
        rw [List.map_cons, hc, hrest]
      · intro h
        obtain ⟨d, rest, rfl, hd, hrest⟩ := List.map_eq_cons_iff.mp h
        obtain rfl : c = d := Char.toNat_inj.mp (hc.trans hd.symm)
        exact ⟨rest, hrest, rfl⟩

/-- Whether a number is the first bad one is seen behind a number that is good. -/
lemma isFirstBad_cons_iff {m n i : Nat} {points : List Nat} (h : Text.isScalarValue m = true) :
    IsFirstBad (m :: points) (i + 1) n ↔ IsFirstBad points i n := by
  constructor
  · rintro ⟨hat, hbad, hbefore⟩
    rw [List.take_succ_cons, List.forall_mem_cons] at hbefore
    exact ⟨hat, hbad, hbefore.2⟩
  · rintro ⟨hat, hbad, hbefore⟩
    refine ⟨hat, hbad, ?_⟩
    rw [List.take_succ_cons, List.forall_mem_cons]
    exact ⟨h, hbefore⟩

lemma charsOfPoints_eq_error_iff {points : List Nat} {index : Nat} {e : GlyphError} :
    charsOfPoints index points = .error e
      ↔ ∃ i n, e = .notScalar (index + i) n ∧ IsFirstBad points i n := by
  induction points generalizing index with
  | nil => exact iff_of_false nofun fun ⟨_, _, _, h⟩ => by cases h.at_eq
  | cons m points ih =>
    rw [charsOfPoints]
    cases hchar : Text.charOf? m with
    | none =>
      have hbad := Text.charOf?_eq_none_iff.mp hchar
      constructor
      · intro h
        exact ⟨0, m, (Except.error.inj h).symm, rfl, hbad, List.forall_mem_nil _⟩
      · rintro ⟨i, n, rfl, hat, -, hbefore⟩
        cases i with
        | zero =>
          obtain rfl : m = n := Option.some.inj hat
          rfl
        | succ i =>
          have hgood := hbefore m List.mem_cons_self
          rw [hbad] at hgood
          cases hgood
    | some c =>
      have hgood : Text.isScalarValue m = true := by
        rw [← Bool.not_eq_false, ← Text.charOf?_eq_none_iff, hchar]
        exact Option.some_ne_none c
      simp only [map_eq_error_iff, ih]
      constructor
      · rintro ⟨i, n, rfl, hfirst⟩
        exact ⟨i + 1, n, by rw [Nat.add_assoc, Nat.add_comm 1],
          (isFirstBad_cons_iff hgood).mpr hfirst⟩
      · rintro ⟨i, n, rfl, hfirst⟩
        cases i with
        | zero =>
          obtain rfl : m = n := Option.some.inj hfirst.at_eq
          rw [hfirst.bad] at hgood
          cases hgood
        | succ i =>
          exact ⟨i, n, by rw [Nat.add_assoc, Nat.add_comm 1], (isFirstBad_cons_iff hgood).mp hfirst⟩

/-! ## Whole lists -/

variable {points : List Nat} {bytes : List UInt8}

lemma encodePoints_eq_ok_iff :
    encodePoints points = .ok bytes
      ↔ ∃ cs : List Char, cs.map Char.toNat = points ∧ encode cs = bytes := by
  simp only [encodePoints, map_eq_ok_iff, charsOfPoints_eq_ok_iff]

lemma encodePoints_eq_error_iff {e : GlyphError} :
    encodePoints points = .error e ↔ ∃ i n, e = .notScalar i n ∧ IsFirstBad points i n := by
  simp only [encodePoints, map_eq_error_iff, charsOfPoints_eq_error_iff, Nat.zero_add]

lemma exists_encodePoints_eq_ok_iff : (∃ bytes, encodePoints points = .ok bytes)
    ↔ ∀ n ∈ points, Text.isScalarValue n = true := by
  constructor
  · rintro ⟨bytes, h⟩ n hn
    obtain ⟨cs, rfl, -⟩ := encodePoints_eq_ok_iff.mp h
    obtain ⟨c, -, rfl⟩ := List.mem_map.mp hn
    exact Text.isScalarValue_iff.mpr c.valid
  · intro h
    cases hencode : encodePoints points with
    | ok bytes => exact ⟨bytes, rfl⟩
    | error e =>
      obtain ⟨i, n, -, hfirst⟩ := encodePoints_eq_error_iff.mp hencode
      have hgood := h n (List.mem_of_getElem? hfirst.at_eq)
      rw [hfirst.bad] at hgood
      cases hgood

lemma showsPoints_of_content_eq {b : CellBuffer} {cs : List Char} (h : b.content = encode cs) :
    ShowsPoints b (cs.map Char.toNat) (encode cs) := by
  have htext : b.text = String.ofList cs := by
    rw [CellBuffer.text, h, textLossy_encode]
  refine ⟨h, ?_, ?_⟩
  · rw [htext, String.toList_ofList]
  · rw [htext, encodeText_ofList]

lemma encodesPoints_of_ok (h : encodePoints points = .ok bytes) : EncodesPoints points bytes := by
  obtain ⟨cs, rfl, rfl⟩ := encodePoints_eq_ok_iff.mp h
  refine ⟨?_, ?_, length_encode_eq_sum cs, ?_, ?_, ?_, ?_⟩
  · rw [decode?_encode, Option.map_some]
  · have htext : String.fromUTF8? (encode cs).toByteArray = some (String.ofList cs) := dif_pos _
    rw [htext, Option.map_some, String.toList_ofList]
  · intro others hothers
    obtain ⟨ds, rfl, hsame⟩ := encodePoints_eq_ok_iff.mp hothers
    rw [encode_inj hsame]
  · intro more rest hmore
    obtain ⟨ds, rfl, rfl⟩ := encodePoints_eq_ok_iff.mp hmore
    rw [← List.map_append]
    exact encodePoints_eq_ok_iff.mpr ⟨cs ++ ds, rfl, encode_append cs ds⟩
  · refine ⟨_, map_eq_ok_iff.mpr ⟨_, h, rfl⟩, showsPoints_of_content_eq ?_⟩
    exact CellBuffer.content_ofBytes _
  · refine fun old => ⟨_, map_eq_ok_iff.mpr ⟨_, h, rfl⟩, showsPoints_of_content_eq ?_⟩
    exact old.content_setBytes _

/-- **Numbers are encoded and read back.**  Numbers of characters have bytes, of which they are read
again and of which a cell can be made; of other numbers the first that is no character is named. -/
theorem codesPoints (points : List Nat) : CodesPoints points where
  ok_iff := exists_encodePoints_eq_ok_iff
  encodes _ h := encodesPoints_of_ok h
  error_iff _ := encodePoints_eq_error_iff
  refused _ h := ⟨map_eq_error_iff.mpr h, fun _ => map_eq_error_iff.mpr h⟩

example : encodePoints [0x41, 0xE9, 0x20AC, 0x1F600]
    = .ok [0x41, 0xC3, 0xA9, 0xE2, 0x82, 0xAC, 0xF0, 0x9F, 0x98, 0x80] := by decide

/-- The first surrogate is named, whatever comes behind it. -/
example : encodePoints [0x61, 0xD800, 0x110000] = .error (.notScalar 1 0xD800) := by decide

end Utf8
end GlyphGrid
