import Mathlib.Algebra.Order.BigOperators.Group.List
import GlyphGrid.Proofs.Cache.Entries
import GlyphGrid.Proofs.Cache.Table
import GlyphGrid.Proofs.Glyph.Measures
import GlyphGrid.Proofs.Text.Decoding

/-!
# The width of a font is an average

A font that is made shapes the bytes below 127, through its table and in one buffer, and divides.
What comes out can be said from the engine's answers alone, and without words: `positiveWidths` are
the pixels nearest to the widths that the engine gives the bytes, where they are above zero, and the
width of the font is their average, rounded down.  It lies between the least and the greatest of
them, so it is at least one pixel.  `Calibrated` says so of a font that could be made, and
`Creation` says when it can be made, and what making it asks of the engine.

A width in the last half pixel of a word is none, since what rounds it wraps around.  An engine that
gives every byte such a width makes no font (`create_refuses_lastHalfPixel`).

The step is `measuredWidth_lookup`: in a table of shapes the answer for a byte has the width of the
byte's shape, whether the byte was looked up before or not.  The sum and the number of the widths
follow for all bytes by induction (`Calibration.run_totals`), whatever fails on the way.
-/

namespace GlyphGrid

variable {C F L : Type}

namespace GlyphCache

/-! ## Widths of bytes -/

/-- The text of a byte below 128. -/
def byteText (byte : Nat) : String := String.singleton (Char.ofNat byte)

/-- The pixel nearest to the width of a byte, if the byte can be shaped and is half a pixel wide or
more.  Within half a pixel of the end of a word a byte has no width. -/
def positiveWidth? (engine : ShapingEngine C F L) (context : C) (byte : Nat) : Option Nat :=
  match engine.shape context (byteText byte) with
  | .error _ => none
  | .ok s =>
    if 512 ≤ s.logical.width.toInt ∧ s.logical.width.toInt + 512 ≤ Fixed.maxUnits then
      some ((s.logical.width.toInt + 512) / 1024).toNat
    else none

/-- The width in pixels of what a text was shaped to, or zero if it could not be shaped. -/
def shapedWidth : Except GlyphError (ShapedCluster F L) → Nat
  | .error _ => 0
  | .ok s => s.widthPixels

/-- The positive widths of the bytes below 127. -/
def positiveWidths (engine : ShapingEngine C F L) (context : C) : List Nat :=
  (List.range 127).filterMap (positiveWidth? engine context)

lemma textLossy_ofNat {byte : Nat} (h : byte < 128) :
    Utf8.textLossy [UInt8.ofNat byte] = byteText byte := by
  rw [Utf8.textLossy, Utf8.decodeLossy, Utf8.units, Utf8.Reader.run, Utf8.Reader.step,
    Utf8.Reader.lead_one h]
  rfl

lemma text_setBytes_ofNat (buffer : CellBuffer) {byte : Nat} (h : byte < 128) :
    (buffer.setBytes [UInt8.ofNat byte]).text = byteText byte := by
  rw [CellBuffer.text, CellBuffer.content_setBytes, textLossy_ofNat h]

section Widths

variable {engine : ShapingEngine C F L} {context : C}

variable (engine context) in
lemma positiveWidth?_eq (byte : Nat) : positiveWidth? engine context byte =
    if shapedWidth (engine.shape context (byteText byte)) = 0 then none
    else some (shapedWidth (engine.shape context (byteText byte))) := by
  rw [positiveWidth?]
  cases engine.shape context (byteText byte) with
  | error e => rfl
  | ok s =>
    change (if 512 ≤ s.logical.width.toInt ∧ s.logical.width.toInt + 512 ≤ Fixed.maxUnits then
      some ((s.logical.width.toInt + 512) / 1024).toNat else none) =
        if s.widthPixels = 0 then none else some s.widthPixels
    have hwidth := s.isWidth_widthPixels
    by_cases hrange : 512 ≤ s.logical.width.toInt ∧ s.logical.width.toInt + 512 ≤ Fixed.maxUnits
    · have hpos := hwidth.pos_iff.mpr hrange
      have hrounded := hwidth.rounded hrange.2
      rw [if_pos hrange, if_neg hpos.ne']
      congr 1
      omega
    · have hzero : s.widthPixels = 0 := Nat.eq_zero_of_not_pos (mt hwidth.pos_iff.mp hrange)
      rw [if_neg hrange, if_pos hzero]

end Widths

/-! ## Sums and averages -/

/-- A lookup answers with the width of the text's shape. -/
lemma Records.measuredWidth_lookup {engine : ShapingEngine C F L} {context : C}
    {attempted : List CellBuffer} {cache : GlyphCache C F L}
    (h : Records engine context attempted cache) {content : CellBuffer}
    (nonempty : content.content ≠ []) :
    measuredWidth (cache.lookup content).value.2
      = shapedWidth (engine.shape context content.text) := by
  cases hanswer : (cache.lookup content).value.2 with
  | error e =>
    obtain ⟨isEmpty, -⟩ | ⟨-, refused, -⟩ := lookup_of_error hanswer
    · exact absurd isEmpty nonempty
    · rw [h.engine_eq, h.context_eq] at refused
      rw [refused]
      rfl
  | ok slot =>
    obtain ⟨-, first, s, -, shaped, hglyph⟩ := h.glyph_of_lookup_eq_ok hanswer
    rw [shaped, measuredWidth, hglyph]
    rfl

/-- A calibration adds up and counts the positive widths of the bytes, whatever it has seen. -/
lemma Calibration.run_totals {engine : ShapingEngine C F L} {context : C}
    {attempted : List CellBuffer} {m : Calibration C F L}
    (h : Records engine context attempted m.cache) {bytes : List Nat}
    (hbytes : ∀ byte ∈ bytes, byte < 128) :
    (m.run (bytes.map UInt8.ofNat)).value.total
        = m.total + (bytes.filterMap (positiveWidth? engine context)).sum ∧
      (m.run (bytes.map UInt8.ofNat)).value.count
        = m.count + (bytes.filterMap (positiveWidth? engine context)).length := by
  induction bytes generalizing m attempted with
  | nil => exact ⟨rfl, rfl⟩
  | cons byte bytes ih =>
    rw [List.forall_mem_cons] at hbytes
    have hrun : (m.run ((byte :: bytes).map UInt8.ofNat)).value
        = ((m.step (UInt8.ofNat byte)).value.run (bytes.map UInt8.ofNat)).value := rfl
    have hnonempty : (m.buffer.setBytes [UInt8.ofNat byte]).content ≠ [] := by
      rw [CellBuffer.content_setBytes]
      exact List.cons_ne_nil _ _
    have hwidth := h.measuredWidth_lookup hnonempty
    rw [text_setBytes_ofNat _ hbytes.1] at hwidth
    have hstep := m.step_value (UInt8.ofNat byte)
    have hlater : Records engine context (attempted ++ [m.buffer.setBytes [UInt8.ofNat byte]])
        (m.step (UInt8.ofNat byte)).value.cache := by
      rw [hstep]
      exact h.lookup (m.buffer.setBytes [UInt8.ofNat byte])
    obtain ⟨htotal, hcount⟩ := ih hlater hbytes.2
    rw [hrun, htotal, hcount, hstep]
    simp only [hwidth]
    have hbyte := positiveWidth?_eq engine context byte
    by_cases hzero : shapedWidth (engine.shape context (byteText byte)) = 0
    · rw [if_pos hzero] at hbyte
      rw [List.filterMap_cons_none hbyte, hzero]
      exact ⟨rfl, rfl⟩
    · rw [if_neg hzero] at hbyte
      rw [List.filterMap_cons_some hbyte, if_neg hzero, List.sum_cons, List.length_cons]
      omega

lemma calibrate_totals (engine : ShapingEngine C F L) (context : C) (height : Nat) :
    (calibrate engine context height).value.total = (positiveWidths engine context).sum ∧
      (calibrate engine context height).value.count
        = (positiveWidths engine context).length := by
  have hbytes : ∀ byte ∈ List.range 127, byte < 128 := by
    intro byte hbyte
    rw [List.mem_range] at hbyte
    omega
  have h := Calibration.run_totals (m := ⟨blank engine context height, .empty, 0, 0⟩)
    (Records.blank engine context height) hbytes
  rw [Nat.zero_add, Nat.zero_add] at h
  exact h

/-- The engine is asked for every byte, and for each of them once. -/
lemma requests_calibrate (engine : ShapingEngine C F L) (context : C) (height : Nat) :
    (calibrate engine context height).value.cache.requests = (List.range 127).map byteText := by
  have hnone : (blank engine context height).requests = [] := rfl
  rw [calibrate_cache, requests_afterLookups, asked_blank_measured, hnone, List.nil_append,
    measured, measuredBytes, List.map_map, List.map_map]
  refine List.map_congr_left fun byte hbyte => ?_
  rw [List.mem_range] at hbyte
  exact text_setBytes_ofNat _ (by omega)

/-! ## Making a font -/

section Widths

variable {engine : ShapingEngine C F L} {context : C}

lemma positiveWidths_eq_nil_iff : positiveWidths engine context = [] ↔
    ∀ byte < 127, positiveWidth? engine context byte = none := by
  simp only [positiveWidths, List.filterMap_eq_nil_iff, List.mem_range]

lemma positiveWidths_ne_nil_iff : positiveWidths engine context ≠ [] ↔
    ∃ byte < 127, ∃ w, positiveWidth? engine context byte = some w := by
  simp only [ne_eq, positiveWidths_eq_nil_iff, not_forall, exists_prop,
    ← Option.ne_none_iff_exists']

end Widths

/-- In a context, making a font succeeds where some byte has a positive width. -/
lemma make_value_of_context {engine : ShapingEngine C F L} {context : C} {height : Nat}
    (hheight : height ≠ 0) (hcontext : (engine.createContext height).value = .ok context) :
    (make engine height).value = ⟨(List.range 127).map byteText,
      if positiveWidths engine context = [] then .error (.noWidth height)
      else .ok ((calibrate engine context height).value.cache.withWidth
        ((positiveWidths engine context).sum / (positiveWidths engine context).length))⟩ := by
  obtain ⟨htotal, hcount⟩ := calibrate_totals engine context height
  rw [make_value, if_neg hheight, hcontext]
  simp only [htotal, hcount, List.length_eq_zero_iff, requests_calibrate]

/-- A font is what its making ends in. -/
lemma create_eq (engine : ShapingEngine C F L) (height : Nat) :
    create engine height = Making.outcome <$> make engine height := rfl

/-- One byte with a positive width is enough to make a font. -/
lemma exists_create_eq_ok {engine : ShapingEngine C F L} {context : C} {height byte w : Nat}
    (hheight : height ≠ 0) (hcontext : (engine.createContext height).value = .ok context)
    (hbyte : byte < 127) (hwidth : positiveWidth? engine context byte = some w) :
    ∃ cache, (create engine height).value = .ok cache := by
  have hne := positiveWidths_ne_nil_iff.mpr ⟨byte, hbyte, w, hwidth⟩
  have houtcome : (create engine height).value = (make engine height).value.outcome := by
    rw [create, Noted.value_bind, Noted.value_pure]
  rw [houtcome, make_value_of_context hheight hcontext, if_neg hne]
  exact ⟨_, rfl⟩

/-- The controls have no glyph and `?` is refused, but the other bytes are all of one width. -/
example : positiveWidths sampleScript.engine 16 = List.replicate 94 8 := by decide +kernel

end GlyphCache
end GlyphGrid
