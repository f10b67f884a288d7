import GlyphGrid.Proofs.Cache.InPlace

/-!
# The storage of a buffer does not show

A buffer that was used before has more storage than a new one, and a content that is entered from
it gets a storage of that size.  This is all that is left of what the buffer held:
`GlyphCache.trimmed` is a cache without the room behind its contents, and lookups of equal contents
lead caches that agree so far to caches that agree again (`trimmed_lookup`), whatever buffers the
contents come in.  The room itself is cleared in every entry (`Renews.key_storage`).

A drawing shows no storage at all: it is that of `drawFresh`, which reads only the content
(`drawFresh_congr`).  So two tables that are `Alike`, with the same shapes in them and layouts that
were brought up to date alike, stay so, and no run of calls can tell them apart
(`Alike.afterInPlace`).
-/

namespace GlyphGrid

variable {C F L S : Type}

/-- The entry without the room behind its contents. -/
def CacheEntry.trimmed (e : CacheEntry F L) : CacheEntry F L :=
  ⟨e.key.trimmed, ⟨e.glyph.content.trimmed, e.glyph.width, e.glyph.description⟩⟩

/-- Entries of equal contents and of one shape agree but for their room. -/
lemma CacheEntry.trimmed_ofShape {a b : CellBuffer} (h : a.content = b.content)
    (s : ShapedCluster F L) : (ofShape a s).trimmed = (ofShape b s).trimmed := by
  have hcopy : a.duplicate.trimmed = b.duplicate.trimmed := by
    rw [CellBuffer.trimmed_eq_iff, CellBuffer.content_duplicate, CellBuffer.content_duplicate, h]
  simp only [ofShape, trimmed, hcopy]

namespace GlyphCache

/-- The cache without the room behind the contents in its table. -/
def trimmed (cache : GlyphCache C F L) : GlyphCache C F L :=
  ⟨cache.engine, cache.context, cache.height, cache.width,
    cache.entries.map CacheEntry.trimmed, cache.requests⟩

@[simp] lemma engine_trimmed (cache : GlyphCache C F L) :
    cache.trimmed.engine = cache.engine := rfl

@[simp] lemma context_trimmed (cache : GlyphCache C F L) :
    cache.trimmed.context = cache.context := rfl

@[simp] lemma width_trimmed (cache : GlyphCache C F L) : cache.trimmed.width = cache.width := rfl

@[simp] lemma height_trimmed (cache : GlyphCache C F L) :
    cache.trimmed.height = cache.height := rfl

@[simp] lemma keys_trimmed (cache : GlyphCache C F L) : cache.trimmed.keys = cache.keys := by
  simp only [keys, trimmed, CacheEntry.trimmed, List.map_map, Function.comp_def,
    CellBuffer.content_trimmed]

lemma trimmed_request (cache : GlyphCache C F L) (text : String) :
    (cache.request text).trimmed = cache.trimmed.request text := rfl

lemma trimmed_enter (cache : GlyphCache C F L) (content : CellBuffer) (s : ShapedCluster F L) :
    (cache.enter content s).trimmed
      = ⟨cache.trimmed.engine, cache.trimmed.context, cache.trimmed.height, cache.trimmed.width,
        cache.trimmed.entries ++ [(CacheEntry.ofShape content s).trimmed],
        cache.trimmed.requests ++ [content.text]⟩ := by
  simp only [enter, trimmed, List.map_append, List.map_cons, List.map_nil]

/-- Lookups of equal contents keep caches equal but for their room. -/
lemma trimmed_lookup {a b : GlyphCache C F L} {x y : CellBuffer} (hcache : a.trimmed = b.trimmed)
    (hcontent : x.content = y.content) :
    (a.lookup x).value.1.trimmed = (b.lookup y).value.1.trimmed := by
  have hkeys : a.keys = b.keys := by
    rw [← keys_trimmed a, hcache, keys_trimmed]
  have hengine : a.engine = b.engine := by
    rw [← engine_trimmed a, hcache, engine_trimmed]
  have hcontext : a.context = b.context := by
    rw [← context_trimmed a, hcache, context_trimmed]
  have hasks : a.Asks x ↔ b.Asks y := by
    rw [Asks, Asks, hkeys, hcontent]
  rw [lookup_cache, lookup_cache, hengine, hcontext, CellBuffer.text_congr hcontent]
  by_cases h : a.Asks x
  · rw [if_pos h, if_pos (hasks.mp h)]
    cases b.engine.shape b.context y.text with
    | error e => rw [trimmed_request, trimmed_request, hcache]
    | ok s =>
      rw [trimmed_enter, trimmed_enter, hcache, CacheEntry.trimmed_ofShape hcontent,
        CellBuffer.text_congr hcontent]
  · rw [if_neg h, if_neg (mt hasks.mpr h)]
    exact hcache

lemma trimmed_mapLayouts (cache : GlyphCache C F L) (f : List UInt8 → L → L) :
    (cache.mapLayouts f).trimmed = cache.trimmed.mapLayouts f := by
  simp only [trimmed, mapLayouts, List.map_map, Function.comp_def, CacheEntry.trimmed,
    Glyph.mapLayout, CellBuffer.content_trimmed]

/-- In every entry the room behind the content is cleared. -/
lemma Renews.key_storage {engine : ShapingEngine C F L} {context : C}
    {attempted : List CellBuffer} {renewed : List UInt8 → L → L} {shaped cache : GlyphCache C F L}
    (h : Renews engine context attempted renewed shaped cache) {e : CacheEntry F L}
    (he : e ∈ cache.entries) : e.glyph.content = e.key ∧
      e.key.storage = e.key.content
        ++ List.replicate (e.key.capacity - e.key.content.length) 0 := by
  rw [h.eq_mapLayouts] at he
  obtain ⟨entry, hmem, rfl⟩ := List.mem_map.mp he
  obtain ⟨content, s, -, -, -, rfl⟩ := h.records.entry_eq entry hmem
  refine ⟨rfl, ?_⟩
  change content.duplicate.storage = _
  rw [CacheEntry.ofShape, CellBuffer.content_duplicate, CellBuffer.capacity_duplicate,
    CellBuffer.length_content]
  rfl

end GlyphCache

lemma drawFresh_congr (engine : ShapingEngine C F L) (context : C)
    (surface : DrawingSurface S F L) (state : S) {a b : CellBuffer} (h : a.content = b.content)
    (x y : Nat) :
    drawFresh engine context surface state a x y
      = drawFresh engine context surface state b x y := by
  rw [drawFresh, drawFresh, drawBy, drawBy, h, CellBuffer.text_congr h]

lemma renewedLayout_congr (surface : DrawingSurface S F L) (state : S) {a b : CellBuffer}
    (h : a.content = b.content) :
    renewedLayout surface state a = renewedLayout surface state b := by
  funext bytes layout
  rw [renewedLayout, renewedLayout, h]

namespace GlyphCache

/-! ## Tables alike -/

/-- Two tables of the same shapes but for the room behind the contents, with layouts that were
brought up to date alike. -/
def Alike (engine : ShapingEngine C F L) (context : C) (a b : GlyphCache C F L) : Prop :=
  ∃ attempted others renewed shaped visited,
    Renews engine context attempted renewed shaped a ∧
      Renews engine context others renewed visited b ∧ shaped.trimmed = visited.trimmed

namespace Alike

variable {engine : ShapingEngine C F L} {context : C} {a b : GlyphCache C F L}

lemma of_renews {attempted : List CellBuffer} {renewed : List UInt8 → L → L}
    {shaped : GlyphCache C F L} (h : Renews engine context attempted renewed shaped a) :
    Alike engine context a a :=
  ⟨_, _, _, _, _, h, h, rfl⟩

lemma trimmed_eq (h : Alike engine context a b) : a.trimmed = b.trimmed := by
  obtain ⟨_, _, renewed, shaped, visited, ha, hb, heq⟩ := h
  rw [ha.eq_mapLayouts, hb.eq_mapLayouts, trimmed_mapLayouts, trimmed_mapLayouts, heq]

lemma lookup (h : Alike engine context a b) {x y : CellBuffer} (hcontent : x.content = y.content) :
    Alike engine context (a.lookup x).value.1 (b.lookup y).value.1 := by
  obtain ⟨_, _, renewed, shaped, visited, ha, hb, heq⟩ := h
  exact ⟨_, _, renewed, _, _, ha.lookup x, hb.lookup y, trimmed_lookup heq hcontent⟩

/-- Drawing equal contents shows no difference and makes none. -/
lemma drawInPlace (h : Alike engine context a b) {c d : CellBuffer}
    (hcontent : c.content = d.content)
    (surface : DrawingSurface S F L) (state : S) (x y : Nat) :
    Alike engine context (a.drawInPlace surface state c x y).value.1
        (b.drawInPlace surface state d x y).value.1 ∧
      (a.drawInPlace surface state c x y).value.2
        = (b.drawInPlace surface state d x y).value.2 := by
  obtain ⟨_, _, renewed, shaped, visited, ha, hb, heq⟩ := h
  constructor
  · have hdrawn := ha.drawInPlace surface state c x y
    rw [renewedLayout_congr surface _ hcontent] at hdrawn
    exact ⟨_, _, _, _, _, hdrawn, hb.drawInPlace surface state d x y, trimmed_lookup heq hcontent⟩
  · rw [ha.draw_eq, hb.draw_eq, hcontent]
    exact congrArg Noted.value (drawFresh_congr _ _ _ _ hcontent x y)

/-- No run of calls can tell them apart. -/
lemma afterInPlace (h : Alike engine context a b) (calls : List (CacheCall F L)) :
    Alike engine context (a.afterInPlace calls) (b.afterInPlace calls) := by
  induction calls generalizing a b with
  | nil => exact h
  | cons call calls ih =>
    apply ih
    cases call with
    | lookup content => exact h.lookup rfl
    | draw surface state content x y => exact (h.drawInPlace rfl surface state x y).1
    | contains content => exact h

end Alike
end GlyphCache
end GlyphGrid
