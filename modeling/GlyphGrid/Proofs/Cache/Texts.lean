import GlyphGrid.Proofs.Cache.History
import GlyphGrid.Proofs.Cell.Text

/-!
# What an engine is asked for

An empty content is refused before the engine is asked, and every other content has a text that is
not empty.  So the engine is asked for texts that are not empty only, and what it would make of an
empty one is never seen: an engine that differs there and nowhere else
(`ShapingEngine.AgreesOnTexts`) makes the same font and leads it through the same calls to the same
table and the same answers (`GlyphCache.lookup_withEngine` for one lookup,
`GlyphCache.create_withEngine` and `GlyphCache.after_withEngine` for a new font and for a run of
calls).
-/

namespace GlyphGrid

open Utf8

variable {C F L S : Type}

/-- Two engines that can only differ in what they make of an empty text. -/
structure ShapingEngine.AgreesOnTexts (engine other : ShapingEngine C F L) : Prop where
  createContext_eq : other.createContext = engine.createContext
  shape_eq : ∀ context text, text ≠ "" → other.shape context text = engine.shape context text

namespace GlyphCache

/-- The cache with another engine behind it. -/
def withEngine (cache : GlyphCache C F L) (engine : ShapingEngine C F L) : GlyphCache C F L :=
  ⟨engine, cache.context, cache.height, cache.width, cache.entries, cache.requests⟩

end GlyphCache

open GlyphCache

/-- An engine is asked for texts that are not empty, and for nothing else. -/
structure ShapesTexts (engine : ShapingEngine C F L) (height : Nat) : Prop where
  /-- A content in the table shows a text, and its glyph is what the engine makes of this text. -/
  entry_shaped : ∀ cache, (create engine height).value = .ok cache →
    ∀ calls, ∀ e ∈ (cache.after calls).entries,
      e.key.text ≠ "" ∧ IsUtf8 (encodeText e.key.text) ∧
        ∃ s, engine.shape cache.context e.key.text = .ok s ∧
          e.glyph.width = s.widthPixels ∧ e.glyph.description = s.describe
  /-- What is made of an empty text does not show in a new font. -/
  create_eq : ∀ other, engine.AgreesOnTexts other →
    (create other height).value = (create engine height).value.map (·.withEngine other)
  /-- Nor does it show in what becomes of the font, or in its answers. -/
  after_eq : ∀ other, engine.AgreesOnTexts other → ∀ cache,
    (create engine height).value = .ok cache → ∀ calls,
      (cache.withEngine other).after calls = (cache.after calls).withEngine other ∧
        (∀ content, (((cache.withEngine other).after calls).lookup content).value.2
          = ((cache.after calls).lookup content).value.2) ∧
        ∀ {S : Type} (surface : DrawingSurface S F L) (state : S) (content : CellBuffer)
          (x y : Nat),
          (((cache.withEngine other).after calls).draw surface state content x y).value.2
            = ((cache.after calls).draw surface state content x y).value.2

namespace GlyphCache

variable {cache : GlyphCache C F L} {engine other : ShapingEngine C F L}

/-- A lookup does not show what is made of an empty text. -/
lemma lookup_withEngine (h : cache.engine.AgreesOnTexts other) (content : CellBuffer) :
    ((cache.withEngine other).lookup content).value
      = ((cache.lookup content).value.1.withEngine other, (cache.lookup content).value.2) := by
  have hslot : (cache.withEngine other).slot? content = cache.slot? content := rfl
  unfold lookup
  rw [hslot]
  cases cache.slot? content with
  | some slot => rfl
  | none =>
    unfold shapeNew Glyph.ofContent?
    by_cases hempty : content.isEmpty = true
    · simp only [if_pos hempty]
      rfl
    · have htext : content.duplicate.text ≠ "" := by
        rw [CellBuffer.text_congr content.content_duplicate, ne_eq,
          (lossyText content).eq_empty_iff,
          ← CellBuffer.isEmpty_iff_content]
        exact hempty
      have hshape := h.shape_eq cache.context content.duplicate.text htext
      simp only [if_neg hempty, Glyph.populate, Glyph.populate?, request, withEngine, hshape]
      cases cache.engine.shape cache.context content.duplicate.text with
      | error e => rfl
      | ok s => rfl

lemma afterLookups_withEngine (h : cache.engine.AgreesOnTexts other) (contents : List CellBuffer) :
    (cache.withEngine other).afterLookups contents
      = (cache.afterLookups contents).withEngine other := by
  induction contents generalizing cache with
  | nil => rfl
  | cons content contents ih =>
    have hnext : (cache.lookup content).value.1.engine.AgreesOnTexts other := by
      rw [(cache.lookup_extends content).engine_eq]
      exact h
    calc (cache.withEngine other).afterLookups (content :: contents)
        = (((cache.withEngine other).lookup content).value.1).afterLookups contents := rfl
      _ = ((cache.lookup content).value.1.withEngine other).afterLookups contents := by
          rw [lookup_withEngine h]
      _ = ((cache.lookup content).value.1.afterLookups contents).withEngine other := ih hnext

lemma after_withEngine (h : cache.engine.AgreesOnTexts other) (calls : List (CacheCall F L)) :
    (cache.withEngine other).after calls = (cache.after calls).withEngine other := by
  rw [after_eq_afterLookups, after_eq_afterLookups, afterLookups_withEngine h]

lemma draw_withEngine (h : cache.engine.AgreesOnTexts other) (surface : DrawingSurface S F L)
    (state : S) (content : CellBuffer) (x y : Nat) :
    ((cache.withEngine other).draw surface state content x y).value.2
      = (cache.draw surface state content x y).value.2 := by
  rw [draw_value, draw_value, lookup_withEngine h]

/-! ## Calibration -/

/-- The calibration with another engine behind its cache. -/
def Calibration.withEngine (m : Calibration C F L) (engine : ShapingEngine C F L) :
    Calibration C F L :=
  ⟨m.cache.withEngine engine, m.buffer, m.total, m.count⟩

lemma Calibration.run_withEngine {m : Calibration C F L} (h : m.cache.engine.AgreesOnTexts other)
    (bytes : List UInt8) :
    ((m.withEngine other).run bytes).value = (m.run bytes).value.withEngine other := by
  induction bytes generalizing m with
  | nil => rfl
  | cons b bytes ih =>
    have hstep : ((m.withEngine other).step b).value = (m.step b).value.withEngine other := by
      rw [step_value, step_value]
      simp only [Calibration.withEngine, lookup_withEngine h]
    have hnext : (m.step b).value.cache.engine.AgreesOnTexts other := by
      rw [step_value]
      rw [(m.cache.lookup_extends (m.buffer.setBytes [b])).engine_eq]
      exact h
    calc ((m.withEngine other).run (b :: bytes)).value
        = (((m.withEngine other).step b).value.run bytes).value := rfl
      _ = (((m.step b).value.withEngine other).run bytes).value := by rw [hstep]
      _ = ((m.step b).value.run bytes).value.withEngine other := ih hnext

lemma create_withEngine (h : engine.AgreesOnTexts other) (height : Nat) :
    (create other height).value = (create engine height).value.map (·.withEngine other) := by
  rw [create_value, create_value, h.createContext_eq]
  split
  · rfl
  cases (engine.createContext height).value with
  | error e => rfl
  | ok context =>
    have hcalibrate : (calibrate other context height).value
        = (calibrate engine context height).value.withEngine other :=
      Calibration.run_withEngine (m := ⟨blank engine context height, .empty, 0, 0⟩) h measuredBytes
    simp only [hcalibrate, Calibration.withEngine]
    split
    · rfl
    · rfl

end GlyphCache

/-- An entry is what the engine makes of the text of its key. -/
lemma shapesTexts (engine : ShapingEngine C F L) (height : Nat) : ShapesTexts engine height where
  entry_shaped cache created calls e he := by
    obtain ⟨content, s, -, nonempty, shaped, rfl⟩ :=
      ((isNew_of_create created).records_after calls).entry_eq e he
    have htext : (CacheEntry.ofShape content s).key.text = content.text :=
      CellBuffer.text_congr content.content_duplicate
    rw [htext, ne_eq, (lossyText content).eq_empty_iff, isUtf8_iff]
    exact ⟨nonempty, ⟨_, rfl⟩, s, shaped, rfl, rfl⟩
  create_eq _ h := create_withEngine h height
  after_eq other h cache created calls := by
    rw [← (isNew_of_create created).font_eq.1] at h
    have hafter : (cache.after calls).engine.AgreesOnTexts other := by
      rw [(cache.after_extends calls).engine_eq]
      exact h
    refine ⟨after_withEngine h calls, fun content => ?_, fun surface state content x y => ?_⟩
    · rw [after_withEngine h calls, lookup_withEngine hafter]
    · rw [after_withEngine h calls, draw_withEngine hafter]

/-- **Cells of any bytes are shaped as texts.**  Whatever bytes a cell holds, its text is what can
be read of them, with a replacement character for each piece that is broken; and such a text, never
an empty one, is what an engine is given for the content. -/
theorem lossyText_and_shapesTexts (b : CellBuffer) (engine : ShapingEngine C F L) (height : Nat) :
    LossyText b ∧ ShapesTexts engine height :=
  ⟨lossyText b, shapesTexts engine height⟩

end GlyphGrid
