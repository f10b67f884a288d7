import GlyphGrid.Proofs.Cache.InPlace

/-!
# What an entry of the table holds

`EntryFits` says what an entry is, given the shape of its key: the key shows something and has the
bytes of the glyph's own content, the storage of that content is as large as the storage of the
buffer that was attempted first, and width and description are those of the shape, with a layout as
drawings have left it.  A width is rounded as `Fixed.IsWidth` says, which is to the nearest pixel as
long as that leaves 32 bits enough, and to nothing beyond (`wellFormed_after_wraps`).

`WellFormed` says it of a whole table, together with what a client sees of it: a lookup answers a
glyph of the very bytes that were looked up, and an error of a drawing comes from the content, the
engine or the surface.  `wellFormed_after` is that every table is so.

Hashes do not occur.  Contents of one hash have an entry each, since the keys of two entries are
never the same bytes, and two buffers of the same bytes have one between them, whatever is left in
their storage.
-/

namespace GlyphGrid

variable {C F L S : Type}

/-! ## Entries -/

/-- An entry is the shape of its key, among all the contents that were attempted; `renewed` is what
became of the layouts. -/
structure EntryFits (engine : ShapingEngine C F L) (context : C) (attempted : List CellBuffer)
    (renewed : List UInt8 → L → L) (e : CacheEntry F L) : Prop where
  nonempty : e.key.content ≠ []
  content_eq : e.glyph.content.content = e.key.content
  /-- The storage is that of the first buffer with these bytes that could be shaped. -/
  capacity_eq : ∃ first,
    attempted.find? (fun b => b.content == e.key.content
      && (engine.shape context b.text).isOk) = some first ∧
    e.glyph.content.capacity = first.capacity
  described : e.glyph.description ≠ .empty
  /-- The width is rounded to the nearest pixel, and a single run is kept as it is. -/
  shape_eq : ∃ s, engine.shape context (Utf8.textLossy e.key.content) = .ok s ∧
    Fixed.IsWidth s.logical.width.toInt e.glyph.width ∧
    (∀ run, s.runs = some [run] → ∃ baseline : Nat,
      Fixed.IsBaseline s.baseline.toInt baseline ∧
      e.glyph.description = .run run.face run.glyphs baseline) ∧
    ((∀ run, s.runs ≠ some [run]) →
      e.glyph.description = .layout (renewed e.key.content s.layout))

/-- Where an error of a drawing comes from. -/
inductive DrawError (engine : ShapingEngine C F L) (context : C) (surface : DrawingSurface S F L)
    (content : CellBuffer) : GlyphError → Prop
  | empty (isEmpty : content.content = []) :
      DrawError engine context surface content (.invalidArgument .emptyContent)
  | shape {e : GlyphError} (refused : engine.shape context content.text = .error e) :
      DrawError engine context surface content e
  | update {e : GlyphError} (state : S) (layout : L)
      (refused : (surface.updateLayout state layout).value.2 = .error e) :
      DrawError engine context surface content e
  | layout {e : GlyphError} (state : S) (layout : L)
      (refused : (surface.showLayout state layout).value.2 = .error e) :
      DrawError engine context surface content e
  | glyphs {e : GlyphError} (state : S) (face : F) (glyphs : GlyphString)
      (refused : (surface.showGlyphs state face glyphs).value.2 = .error e) :
      DrawError engine context surface content e

/-- The layouts of an engine are not where an error comes from. -/
lemma DrawError.of_mapLayouts {engine : ShapingEngine C F L} {context : C} {f : L → L}
    {surface : DrawingSurface S F L} {content : CellBuffer} {e : GlyphError}
    (h : DrawError (engine.mapLayouts f) context surface content e) :
    DrawError engine context surface content e := by
  cases h with
  | empty isEmpty => exact .empty isEmpty
  | update state layout refused => exact .update state layout refused
  | layout state layout refused => exact .layout state layout refused
  | glyphs state face glyphs refused => exact .glyphs state face glyphs refused
  | shape refused =>
    change (engine.shape context content.text).map _ = .error e at refused
    cases shaped : engine.shape context content.text with
    | ok s =>
      rw [shaped] at refused
      cases refused
    | error error =>
      rw [shaped] at refused
      cases refused
      exact .shape shaped

/-- The shape of a content, entered when the content was first attempted, fits. -/
lemma entryFits_ofShape {engine : ShapingEngine C F L} {context : C}
    {attempted : List CellBuffer} {renewed : List UInt8 → L → L} {content : CellBuffer}
    {s : ShapedCluster F L}
    (hfirst : attempted.find? (fun b => b.content == content.content) = some content)
    (nonempty : content.content ≠ []) (shaped : engine.shape context content.text = .ok s) :
    EntryFits engine context attempted renewed
      ⟨content.duplicate,
        (CacheEntry.ofShape content (s.mapLayout (renewed content.content))).glyph⟩ := by
  have hkey : content.duplicate.content = content.content := CellBuffer.content_duplicate content
  refine ⟨hkey ▸ nonempty, rfl, ?_, ShapedCluster.describe_ne_empty _, s, ?_, ?_, ?_, ?_⟩
  · -- As all buffers of these bytes have one text, the first attempt is the first success.
    refine ⟨content, ?_, CellBuffer.capacity_duplicate content⟩
    rw [hkey, ← hfirst]
    congr 1
    funext b
    by_cases hsame : b.content = content.content
    · rw [CellBuffer.text_congr hsame, shaped]
      exact Bool.and_true _
    · rw [beq_eq_false_iff_ne.mpr hsame, Bool.false_and]
  · rw [hkey]
    exact shaped
  · have hwidth := s.isWidth_widthPixels
    rw [← s.widthPixels_mapLayout (renewed content.content)] at hwidth
    exact hwidth
  · intro run hrun
    have hbaseline := s.isBaseline_baselinePixels
    rw [← s.baselinePixels_mapLayout (renewed content.content)] at hbaseline
    exact ⟨_, hbaseline, ShapedCluster.describe_of_single _ hrun⟩
  · intro hmany
    rw [hkey]
    exact ShapedCluster.describe_of_not_single _ hmany

namespace GlyphCache

/-! ## Tables -/

/-- A table whose entries are the shapes of their keys, and what is seen of it. -/
structure WellFormed (engine : ShapingEngine C F L) (context : C) (attempted : List CellBuffer)
    (renewed : List UInt8 → L → L) (cache : GlyphCache C F L) : Prop where
  /-- No two entries have the same bytes as their key. -/
  nodup : cache.keys.Nodup
  fits : ∀ e ∈ cache.entries, EntryFits engine context attempted renewed e
  /-- A lookup succeeds if the content shows something and can be shaped. -/
  lookup_ok_iff : ∀ content, (∃ slot, (cache.lookup content).value.2 = .ok slot) ↔
    content.content ≠ [] ∧ ∃ s, engine.shape context content.text = .ok s
  /-- A lookup answers a glyph of the same bytes, and one that can be painted. -/
  slot_fits : ∀ content slot, (cache.lookup content).value.2 = .ok slot →
    slot.glyph.content.content = content.content ∧ slot.glyph.description ≠ .empty
  /-- A drawing has no error of its own but that the content is empty. -/
  draw_error : ∀ {S : Type} (surface : DrawingSurface S F L) (state : S) (content : CellBuffer)
    (x y : Nat) (e : GlyphError),
    (cache.drawInPlace surface state content x y).value.2.2 = .error e →
      DrawError engine context surface content e

/-- An error of painting a cluster is one of the surface. -/
lemma drawError_of_paint {engine : ShapingEngine C F L} {context : C}
    {surface : DrawingSurface S F L} {state : S} {content : CellBuffer} {s : ShapedCluster F L}
    {baseline : Int} {x y : Nat} {e : GlyphError}
    (h : (s.paintAt baseline surface state x y).value.2 = .error e) :
    DrawError engine context surface content e := by
  unfold ShapedCluster.paintAt at h
  split at h
  · exact .glyphs _ _ _ h
  · rw [Noted.value_bind] at h
    rcases hupdate : (surface.updateLayout (surface.moveTo state x y) s.layout).value
      with ⟨later, error | layout⟩
    · rw [hupdate] at h
      have hsame : error = e := Except.error.inj h
      subst hsame
      exact .update _ _ (congrArg Prod.snd hupdate)
    · rw [hupdate] at h
      exact .layout _ _ h

lemma drawError_of_drawFresh {engine : ShapingEngine C F L} {context : C}
    {surface : DrawingSurface S F L} {state : S} {content : CellBuffer} {x y : Nat}
    {e : GlyphError}
    (h : (drawFresh engine context surface state content x y).value.2 = .error e) :
    DrawError engine context surface content e := by
  unfold drawFresh drawBy at h
  split at h
  · next isEmpty =>
    have hsame : GlyphError.invalidArgument .emptyContent = e := Except.error.inj h
    subst hsame
    exact .empty isEmpty
  · split at h
    · next error refused =>
      have hsame : error = e := Except.error.inj h
      subst hsame
      exact .shape refused
    · exact drawError_of_paint h

namespace Records

variable {engine : ShapingEngine C F L} {context : C} {attempted : List CellBuffer}
  {cache : GlyphCache C F L}

lemma lookup_ok_iff (h : Records engine context attempted cache) (content : CellBuffer) :
    (∃ slot, (cache.lookup content).value.2 = .ok slot) ↔
      content.content ≠ [] ∧ ∃ s, engine.shape context content.text = .ok s := by
  constructor
  · rintro ⟨slot, answer⟩
    obtain ⟨nonempty, -, s, -, shaped, -⟩ := h.glyph_of_lookup_eq_ok answer
    exact ⟨nonempty, s, shaped⟩
  · rintro ⟨nonempty, s, shaped⟩
    have houtcome := cache.lookup_outcome content
    generalize (cache.lookup content).value = r at houtcome ⊢
    cases houtcome with
    | hit slot found => exact ⟨slot, rfl⟩
    | empty missing isEmpty => exact absurd isEmpty nonempty
    | failed e missing _ refused =>
      rw [h.engine_eq, h.context_eq, shaped] at refused
      cases refused
    | entered t missing _ _ => exact ⟨_, rfl⟩

end Records

/-- A table is well formed whatever became of its layouts. -/
lemma Renews.wellFormed {engine : ShapingEngine C F L} {context : C} {attempted : List CellBuffer}
    {renewed : List UInt8 → L → L} {shaped cache : GlyphCache C F L}
    (h : Renews engine context attempted renewed shaped cache) :
    WellFormed engine context attempted renewed cache := by
  refine ⟨?_, ?_, ?_, ?_, ?_⟩
  · rw [h.eq_mapLayouts, keys_mapLayouts]
    exact h.records.nodup
  · rw [h.eq_mapLayouts]
    intro e he
    obtain ⟨entry, hmem, rfl⟩ := List.mem_map.mp he
    obtain ⟨content, s, hfirst, nonempty, hshape, rfl⟩ := h.records.entry_eq entry hmem
    have hkey : (CacheEntry.ofShape content s).key.content = content.content :=
      CellBuffer.content_duplicate content
    rw [hkey] at hfirst
    rw [hkey, CacheEntry.mapLayout_ofShape]
    exact entryFits_ofShape hfirst nonempty hshape
  · intro content
    rw [h.lookup_value, ← h.records.lookup_ok_iff content]
    cases (shaped.lookup content).value.2 with
    | error e => exact ⟨fun ⟨_, hok⟩ => (nomatch hok), fun ⟨_, hok⟩ => (nomatch hok)⟩
    | ok slot => exact ⟨fun _ => ⟨slot, rfl⟩, fun _ => ⟨_, rfl⟩⟩
  · intro content slot
    rw [h.lookup_value]
    cases answer : (shaped.lookup content).value.2 with
    | error e => exact nofun
    | ok found =>
    rintro ⟨⟩
    obtain ⟨-, first, s, hfirst, -, hglyph⟩ := h.records.glyph_of_lookup_eq_ok answer
    rw [Slot.mapLayout, hglyph, CacheEntry.mapLayout_ofShape]
    exact ⟨(CellBuffer.content_duplicate first).trans hfirst, ShapedCluster.describe_ne_empty _⟩
  · intro S surface state content x y e herror
    rw [h.draw_eq] at herror
    exact (drawError_of_drawFresh herror).of_mapLayouts

end GlyphCache
end GlyphGrid
