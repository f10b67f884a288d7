import Mathlib.Tactic.Common
import GlyphGrid.Proofs.Raster.Blending
import GlyphGrid.Raster.Canvas
import GlyphGrid.Shaping.Scripted

/-!
# Pictures only gain

Whatever is painted on a canvas, each pixel becomes its old colour with other colours laid over it,
one after the other.  `Image.Painted` says this of two images, together with a property of the
colours; it composes, and every step of a blit is an instance of it, so that it holds of whole runs
(`Canvas.painted_after`).  What one colour over another keeps is then kept by a run: the size, an
alpha that does not fall and, where all bitmaps are masks, channels that do not go beyond the
foreground.
-/

namespace GlyphGrid

/-- `later` is `image` with colours that satisfy `P` laid over its pixels. -/
structure Image.Painted (P : Rgba → Prop) (image later : Image) : Prop where
  width_eq : later.width = image.width
  height_eq : later.height = image.height
  exists_sources : ∀ x y p, image.get? x y = some p → ∃ sources : List Rgba,
    (∀ s ∈ sources, P s) ∧ later.get? x y = some (p.underAll sources)

namespace Image

/-- A place has a pixel if it lies in the image. -/
lemma exists_get?_eq_some {image : Image} {x y : Int} (h : image.Contains x y) :
    ∃ p, image.get? x y = some p := by
  have hinside : index image.width x y < image.pixels.size := by
    obtain ⟨hx, hxw, hy, hyh⟩ := h
    have hcolumn : x.toNat < image.width := by omega
    have hrow : y.toNat + 1 ≤ image.height := by omega
    have hrows := Nat.mul_le_mul_right image.width hrow
    rw [Nat.add_mul, Nat.one_mul] at hrows
    rw [image.size_eq, index, Nat.mul_comm image.width]
    omega
  exact ⟨image.pixels[index image.width x y], by
    rw [get?, if_pos h, Array.getElem?_eq_getElem hinside]⟩

lemma contains_of_get?_eq_some {image : Image} {x y : Int} {p : Rgba}
    (h : image.get? x y = some p) : image.Contains x y := by
  by_contra hout
  rw [get?, if_neg hout] at h
  cases h

/-- A changed image has at every place the old pixel or the changed one. -/
lemma get?_change {image : Image} {f : Rgba → Rgba} (x y : Int) {x' y' : Int} {p : Rgba}
    (h : image.get? x' y' = some p) :
    (image.change x y f).get? x' y' = some p ∨ (image.change x y f).get? x' y' = some (f p) := by
  unfold change
  split
  · have hinside := contains_of_get?_eq_some h
    rw [get?, if_pos hinside] at h
    have hpixels (q : Rgba) : (if image.Contains x' y' then
        (image.pixels.modify (index image.width x y) f)[index image.width x' y']? else none)
          = some q ↔ (image.pixels.modify (index image.width x y) f)[index image.width x' y']?
            = some q := by
      rw [if_pos hinside]
    refine Or.imp (hpixels p).mpr (hpixels (f p)).mpr ?_
    rw [Array.getElem?_modify]
    split
    · exact .inr (by rw [h, Option.map_some])
    · exact .inl h
  · exact .inl h

lemma size_change (image : Image) (x y : Int) (f : Rgba → Rgba) :
    (image.change x y f).width = image.width ∧ (image.change x y f).height = image.height := by
  unfold change
  split <;> exact ⟨rfl, rfl⟩

namespace Painted

variable {P Q : Rgba → Prop} {image later last : Image}

lemma refl (P : Rgba → Prop) (image : Image) : image.Painted P image :=
  ⟨rfl, rfl, fun _ _ _ h => ⟨[], List.forall_mem_nil _, h⟩⟩

lemma trans (h : image.Painted P later) (h' : later.Painted P last) : image.Painted P last := by
  refine ⟨h'.width_eq.trans h.width_eq, h'.height_eq.trans h.height_eq, fun x y p hp => ?_⟩
  obtain ⟨first, hfirst, hlater⟩ := h.exists_sources x y p hp
  obtain ⟨second, hsecond, hlast⟩ := h'.exists_sources x y _ hlater
  refine ⟨first ++ second, List.forall_mem_append.mpr ⟨hfirst, hsecond⟩, ?_⟩
  rw [hlast, Rgba.underAll, Rgba.underAll, Rgba.underAll, List.foldl_append]

lemma mono (h : image.Painted P later) (hPQ : ∀ s, P s → Q s) : image.Painted Q later := by
  refine ⟨h.width_eq, h.height_eq, fun x y p hp => ?_⟩
  obtain ⟨sources, hsources, hlater⟩ := h.exists_sources x y p hp
  exact ⟨sources, fun s hs => hPQ s (hsources s hs), hlater⟩

/-- The pixels of a painted image come from those of the image before. -/
lemma exists_get? (h : image.Painted P later) {x y : Int} {q : Rgba}
    (hq : later.get? x y = some q) : ∃ p sources, image.get? x y = some p ∧
      (∀ s ∈ sources, P s) ∧ q = p.underAll sources := by
  have hinside := contains_of_get?_eq_some hq
  rw [Contains, h.width_eq, h.height_eq] at hinside
  obtain ⟨p, hp⟩ := exists_get?_eq_some hinside
  obtain ⟨sources, hsources, hlater⟩ := h.exists_sources x y p hp
  exact ⟨p, sources, hp, hsources, Option.some.inj (hq.symm.trans hlater)⟩

end Painted

/-! ## Blits -/

/-- The colours that the samples of a bitmap lay over their pixels. -/
def IsSourceOf (foreground : Rgba) (b : Bitmap) (s : Rgba) : Prop :=
  ∃ column row, b.source? foreground column row = some s

variable (foreground : Rgba) (b : Bitmap) (left top : Int)

lemma painted_change {P : Rgba → Prop} (image : Image) (x y : Int) {s : Rgba} (h : P s) :
    image.Painted P (image.change x y s.over) := by
  obtain ⟨hwidth, hheight⟩ := image.size_change x y s.over
  refine ⟨hwidth, hheight, fun x' y' p hp => ?_⟩
  rcases get?_change (f := s.over) x y hp with hold | hnew
  · exact ⟨[], List.forall_mem_nil _, hold⟩
  · exact ⟨[s], List.forall_mem_singleton.mpr h, hnew⟩

lemma painted_blitSample (column row : Nat) (image : Image) :
    image.Painted (IsSourceOf foreground b)
      (blitSample foreground b left top column row image) := by
  unfold blitSample
  split
  · exact .refl _ image
  · next s hs => exact painted_change image _ _ ⟨column, row, hs⟩

/-- Steps that only paint make a loop that only paints. -/
lemma painted_fold {P : Rgba → Prop} (count : Nat) (step : (i : Nat) → i < count → Image → Image)
    (h : ∀ (i : Nat) (hi : i < count) (image : Image), image.Painted P (step i hi image))
    (image : Image) :
    image.Painted P (count.fold step image) := by
  induction count with
  | zero => exact .refl P image
  | succ count ih =>
    rw [Nat.fold_succ]
    exact (ih _ fun i hi => h i (Nat.lt_succ_of_lt hi)).trans (h count _ _)

lemma painted_blit (image : Image) :
    image.Painted (IsSourceOf foreground b) (image.blit foreground b left top) :=
  painted_fold _ _ (fun row _ image => painted_fold _ _
    (fun column _ image => painted_blitSample foreground b left top column row image) image) image

end Image

/-! ## Canvases -/

/-- What may happen to a canvas: a call as a surface, or a bitmap laid over its image. -/
inductive CanvasCall where
  | surface (call : SurfaceCall FontFace TextLayout)
  | blit (foreground : Rgba) (b : Bitmap) (left top : Int)

/-- The bitmap of a glyph, if its face has it. -/
def FontFace.bitmap? (face : FontFace) (glyphId : Nat) : Option Bitmap :=
  (face.font.face.raster? face.pixelSize (UInt16.ofNat glyphId)).map (·.bitmap)

/-- A call lays a bitmap over the image in a colour, on a canvas with the given foreground. -/
def CanvasCall.Paints (foreground : Rgba) (call : CanvasCall) (color : Rgba) (b : Bitmap) : Prop :=
  match call with
  | .surface (.glyphs face glyphs) =>
    color = foreground ∧ ∃ g ∈ glyphs.glyphs, face.bitmap? g.glyphId = some b
  | .surface (.layout layout) => color = foreground ∧
    ∃ run ∈ layout.runs, ∃ g ∈ run.glyphs.glyphs, run.face.bitmap? g.glyphId = some b
  | .surface _ => False
  | .blit own bitmap _ _ => color = own ∧ b = bitmap

namespace Canvas

/-- The canvas after a call. -/
def perform (c : Canvas) : CanvasCall → Canvas
  | .surface (.move x y) => surface.moveTo c x y
  | .surface (.update layout) => (surface.updateLayout c layout).value.1
  | .surface (.layout layout) => (surface.showLayout c layout).value.1
  | .surface (.glyphs face glyphs) => (surface.showGlyphs c face glyphs).value.1
  | .blit foreground b left top =>
    ⟨c.image.blit foreground b left top, c.foreground, c.cursor⟩

/-- The canvas after some calls. -/
def after (c : Canvas) (calls : List CanvasCall) : Canvas := calls.foldl perform c

variable {P : Rgba → Prop}

/-- A canvas that keeps its foreground while colours are laid over its image. -/
structure Painted (P : Rgba → Prop) (c later : Canvas) : Prop where
  image : c.image.Painted P later.image
  foreground_eq : later.foreground = c.foreground

namespace Painted

lemma refl (P : Rgba → Prop) (c : Canvas) : c.Painted P c := ⟨.refl P c.image, rfl⟩

lemma trans {c later last : Canvas} (h : c.Painted P later) (h' : later.Painted P last) :
    c.Painted P last :=
  ⟨h.image.trans h'.image, h'.foreground_eq.trans h.foreground_eq⟩

end Painted

/-! ### Glyphs -/

lemma painted_paint (c : Canvas) (g : PlacedGlyph)
    (h : ∀ b, g.face.bitmap? g.glyphId = some b → ∀ s, Image.IsSourceOf c.foreground b s → P s) :
    c.Painted P (c.paint g).value := by
  unfold paint
  dsimp only
  split
  · next r hr =>
    have hbitmap : g.face.bitmap? g.glyphId = some r.bitmap := by
      rw [FontFace.bitmap?, hr, Option.map_some]
    exact ⟨(Image.painted_blit _ _ _ _ _).mono (h _ hbitmap), rfl⟩
  · exact .refl P c

lemma painted_paintAll (c : Canvas) (glyphs : List PlacedGlyph) (h : ∀ g ∈ glyphs,
    ∀ b, g.face.bitmap? g.glyphId = some b → ∀ s, Image.IsSourceOf c.foreground b s → P s) :
    c.Painted P (c.paintAll glyphs).value := by
  induction glyphs generalizing c with
  | nil => exact .refl P c
  | cons g glyphs ih =>
    rw [List.forall_mem_cons] at h
    have hfirst := c.painted_paint g h.1
    rw [paintAll, Noted.value_bind]
    exact hfirst.trans (ih _ (by rw [hfirst.foreground_eq]; exact h.2))

end Canvas

/-- A glyph that is placed is one of the run, in the face of the run. -/
lemma mem_placeGlyphs {face : FontFace} {baseline pen : Rat} {glyphs : List ShapedGlyph}
    {g : PlacedGlyph} (h : g ∈ placeGlyphs face baseline pen glyphs) :
    g.face = face ∧ ∃ shaped ∈ glyphs, shaped.glyphId = g.glyphId := by
  induction glyphs generalizing pen with
  | nil => cases h
  | cons shaped glyphs ih =>
    rcases List.mem_cons.mp h with rfl | hrest
    · exact ⟨rfl, shaped, List.mem_cons_self, rfl⟩
    · obtain ⟨hface, later, hlater, hid⟩ := ih hrest
      exact ⟨hface, later, List.mem_cons_of_mem _ hlater, hid⟩

lemma mem_placeRuns {baseline pen : Rat} {runs : List (GlyphRun FontFace)} {g : PlacedGlyph}
    (h : g ∈ placeRuns baseline pen runs) : ∃ run ∈ runs, g.face = run.face ∧
      ∃ shaped ∈ run.glyphs.glyphs, shaped.glyphId = g.glyphId := by
  induction runs generalizing pen with
  | nil => cases h
  | cons run runs ih =>
    rcases List.mem_append.mp h with hrun | hrest
    · exact ⟨run, List.mem_cons_self, mem_placeGlyphs hrun⟩
    · obtain ⟨later, hlater, hglyph⟩ := ih hrest
      exact ⟨later, List.mem_cons_of_mem _ hlater, hglyph⟩

namespace Canvas

variable {P : Rgba → Prop}

/-! ### Calls -/

lemma painted_perform (c : Canvas) (call : CanvasCall) (h : ∀ color b,
    call.Paints c.foreground color b → ∀ s, Image.IsSourceOf color b s → P s) :
    c.Painted P (c.perform call) := by
  match call with
  | .surface (.move x y) => exact ⟨.refl P c.image, rfl⟩
  | .surface (.update layout) => exact .refl P c
  | .surface (.layout layout) =>
    refine c.painted_paintAll _ fun g hg b hb => h c.foreground b ⟨rfl, ?_⟩
    obtain ⟨run, hrun, hface, shaped, hshaped, hid⟩ := mem_placeRuns hg
    rw [hface, ← hid] at hb
    exact ⟨run, hrun, shaped, hshaped, hb⟩
  | .surface (.glyphs face glyphs) =>
    refine c.painted_paintAll _ fun g hg b hb => h c.foreground b ⟨rfl, ?_⟩
    obtain ⟨hface, shaped, hshaped, hid⟩ := mem_placeGlyphs hg
    rw [hface, ← hid] at hb
    exact ⟨shaped, hshaped, hb⟩
  | .blit color b left top =>
    exact ⟨(Image.painted_blit color b left top c.image).mono (h color b ⟨rfl, rfl⟩), rfl⟩

/-- What is painted in a run is what its calls paint. -/
lemma painted_after (c : Canvas) (calls : List CanvasCall) (h : ∀ call ∈ calls, ∀ color b,
    call.Paints c.foreground color b → ∀ s, Image.IsSourceOf color b s → P s) :
    c.Painted P (c.after calls) := by
  induction calls generalizing c with
  | nil => exact .refl P c
  | cons call calls ih =>
    rw [List.forall_mem_cons] at h
    have hfirst := c.painted_perform call h.1
    exact hfirst.trans (ih _ (by rw [hfirst.foreground_eq]; exact h.2))

/-! ## What a run keeps -/

/-- What is kept while calls change a canvas. -/
structure OnlyGains (c : Canvas) (calls : List CanvasCall) : Prop where
  size_eq : (c.after calls).image.width = c.image.width ∧
    (c.after calls).image.height = c.image.height
  /-- Every pixel becomes its old colour with the colours of samples laid over it. -/
  exists_sources : ∀ x y p, c.image.get? x y = some p → ∃ sources : List Rgba,
    (∀ s ∈ sources, ∃ call ∈ calls, ∃ color b, call.Paints c.foreground color b ∧
      Image.IsSourceOf color b s) ∧
    (c.after calls).image.get? x y = some (p.underAll sources)
  /-- Nothing is lost where a sample becomes a colour. -/
  samples : ∀ foreground (b : Bitmap) column row s, b.source? foreground column row = some s →
    Bitmap.Samples foreground (b.sample column row) s
  /-- Nothing is lost where a colour is laid over another one, and each channel lies between. -/
  blends : ∀ above below : Rgba, Rgba.Blends above below (above.over below)
  alpha_le : ∀ x y p q, c.image.get? x y = some p → (c.after calls).image.get? x y = some q →
    p.alpha.toNat ≤ q.alpha.toNat ∧ q.alpha.toNat ≤ 255
  opaque_kept : ∀ x y p q, c.image.get? x y = some p → (c.after calls).image.get? x y = some q →
    p.alpha = 255 → q.alpha = 255
  all_opaque : (∀ x y p, c.image.get? x y = some p → p.alpha = 255) →
    ∀ x y q, (c.after calls).image.get? x y = some q → q.alpha = 255
  /-- Masks move the channels of a pixel towards those of the foreground and not beyond. -/
  between : (∀ call ∈ calls, ∀ color b, call.Paints c.foreground color b →
      color = c.foreground ∧ b.kind ≠ .color) →
    ∀ x y p q, c.image.get? x y = some p → (c.after calls).image.get? x y = some q →
    ∀ ch, min (p.channel ch).toNat (c.foreground.channel ch).toNat ≤ (q.channel ch).toNat ∧
      (q.channel ch).toNat ≤ max (p.channel ch).toNat (c.foreground.channel ch).toNat

/-- **A canvas only gains.**  Whatever calls and blits it goes through, its size stays, no alpha
falls, no number is cut off, and masks keep every channel between the background and the
foreground. -/
theorem after_onlyGains (c : Canvas) (calls : List CanvasCall) : c.OnlyGains calls := by
  have hpainted := (c.painted_after calls (P := fun s => ∃ call ∈ calls, ∃ color b,
    call.Paints c.foreground color b ∧ Image.IsSourceOf color b s)
    fun call hcall color b hpaints s hs => ⟨call, hcall, color, b, hpaints, hs⟩).image
  have halpha : ∀ x y p q, c.image.get? x y = some p →
      (c.after calls).image.get? x y = some q → p.alpha.toNat ≤ q.alpha.toNat := by
    intro x y p q hp hq
    obtain ⟨sources, -, hlater⟩ := hpainted.exists_sources x y p hp
    rw [Option.some.inj (hq.symm.trans hlater)]
    exact p.alpha_le_underAll sources
  have hopaque : ∀ x y p q, c.image.get? x y = some p →
      (c.after calls).image.get? x y = some q → p.alpha = 255 → q.alpha = 255 := by
    intro x y p q hp hq hfull
    have hle := halpha x y p q hp hq
    rw [hfull] at hle
    exact UInt8.toNat_inj.mp (Nat.le_antisymm (toNat_le_limit _) hle)
  constructor
  case size_eq => exact ⟨hpainted.width_eq, hpainted.height_eq⟩
  case exists_sources => exact hpainted.exists_sources
  case samples => exact fun foreground b column row s h => Bitmap.samples_of_source? h
  case blends => exact Rgba.blends_over
  case alpha_le => exact fun x y p q hp hq => ⟨halpha x y p q hp hq, toNat_le_limit _⟩
  case opaque_kept => exact hopaque
  case all_opaque =>
    intro hall x y q hq
    obtain ⟨p, _, hp, -, -⟩ := hpainted.exists_get? hq
    exact hopaque x y p q hp hq (hall x y p hp)
  case between =>
    intro hmasks x y p q hp hq ch
    have hhue := c.painted_after calls (P := fun s => s.SameHue c.foreground) <| by
      rintro call hcall color b hpaints s ⟨column, row, hs⟩
      obtain ⟨rfl, hkind⟩ := hmasks call hcall color b hpaints
      exact Bitmap.sameHue_of_source? hkind hs
    obtain ⟨sources, hsources, hlater⟩ := hhue.image.exists_sources x y p hp
    rw [Option.some.inj (hq.symm.trans hlater)]
    exact Rgba.channel_underAll_between hsources p ch

end Canvas
end GlyphGrid
