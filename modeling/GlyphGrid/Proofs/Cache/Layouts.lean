import GlyphGrid.Cache.InPlace
import GlyphGrid.Proofs.Cache.Transparency

/-!
# Layouts that drawings bring up to date

Drawing in place differs from drawing in one thing: the table keeps the layout that the surface has
brought up to date.  So the table is always one that lookups alone have led to, but for its layouts.
`Renews` says this of a table `cache`: it is the table `shaped` of shapes with `renewed` applied to
the layouts in it, and what can still be entered has a layout that no drawing has touched.

A lookup and a drawing keep it (`Renews.lookup`, `Renews.drawInPlace`), and all that a drawing shows
follows from it: it draws what an engine shapes that hands out the layouts as they are now
(`Renews.draw_eq`).
-/

namespace GlyphGrid

variable {C F L S : Type}

/-! ## Glyphs and clusters with other layouts -/

lemma Glyph.mapLayout_congr {glyph : Glyph F L} {f g : L → L}
    (h : ∀ l, glyph.description = .layout l → f l = g l) :
    glyph.mapLayout f = glyph.mapLayout g := by
  obtain ⟨content, width, description⟩ := glyph
  cases description with
  | layout l =>
    have hl := h l rfl
    simp only [mapLayout, Description.mapLayout, hl]
  | run face glyphs baseline => rfl
  | empty => rfl

lemma Glyph.mapLayout_id (glyph : Glyph F L) : glyph.mapLayout id = glyph := by
  obtain ⟨content, width, description⟩ := glyph
  cases description <;> rfl

/-- The cluster with another layout. -/
def ShapedCluster.mapLayout (f : L → L) (s : ShapedCluster F L) : ShapedCluster F L :=
  ⟨s.logical, s.baseline, s.runs, f s.layout⟩

/-- The engine with other layouts. -/
def ShapingEngine.mapLayouts (engine : ShapingEngine C F L) (f : L → L) : ShapingEngine C F L :=
  ⟨engine.createContext, fun context text => (engine.shape context text).map (·.mapLayout f)⟩

lemma ShapedCluster.widthPixels_mapLayout (f : L → L) (s : ShapedCluster F L) :
    (s.mapLayout f).widthPixels = s.widthPixels := by
  rw [widthPixels_eq, widthPixels_eq, mapLayout]

lemma ShapedCluster.baselinePixels_mapLayout (f : L → L) (s : ShapedCluster F L) :
    (s.mapLayout f).baselinePixels = s.baselinePixels := by
  rw [baselinePixels_eq, baselinePixels_eq, mapLayout]

lemma CacheEntry.mapLayout_ofShape (content : CellBuffer) (s : ShapedCluster F L) (f : L → L) :
    (ofShape content s).glyph.mapLayout f = (ofShape content (s.mapLayout f)).glyph := by
  have hdescribe : s.describe.mapLayout f = (s.mapLayout f).describe := by
    unfold ShapedCluster.describe
    rw [s.baselinePixels_mapLayout]
    simp only [ShapedCluster.mapLayout]
    rcases s.runs with _ | (_ | ⟨run, _ | ⟨second, others⟩⟩) <;> rfl
  simp only [ofShape, Glyph.mapLayout, hdescribe, s.widthPixels_mapLayout]

/-- The layout of the content with the given bytes after a content was drawn: a drawing brings the
layout of its own content up to date, unless the surface refuses. -/
def renewedLayout (surface : DrawingSurface S F L) (state : S) (content : CellBuffer)
    (bytes : List UInt8) (layout : L) : L :=
  if content.content = bytes then
    ((surface.updateLayout state layout).value.2.toOption).getD layout
  else layout

namespace GlyphCache

/-! ## Tables with other layouts -/

section

variable (cache : GlyphCache C F L) (f g : List UInt8 → L → L) (content : CellBuffer)

/-- Only the layouts of the glyphs in the table matter. -/
lemma mapLayouts_congr {cache : GlyphCache C F L} {f g : List UInt8 → L → L}
    (h : ∀ e ∈ cache.entries, ∀ l, e.glyph.description = .layout l →
      f e.key.content l = g e.key.content l) : cache.mapLayouts f = cache.mapLayouts g := by
  rw [mapLayouts, mapLayouts,
    List.map_congr_left fun e he => by rw [Glyph.mapLayout_congr (h e he)]]

lemma mapLayouts_id : cache.mapLayouts (fun _ => id) = cache := by
  simp only [mapLayouts, Glyph.mapLayout_id, List.map_id']

lemma mapLayouts_mapLayouts : (cache.mapLayouts f).mapLayouts g
    = cache.mapLayouts fun bytes layout => g bytes (f bytes layout) := by
  have hglyph (glyph : Glyph F L) (a b : L → L) :
      (glyph.mapLayout a).mapLayout b = glyph.mapLayout fun layout => b (a layout) := by
    obtain ⟨_, _, description⟩ := glyph
    cases description <;> rfl
  simp only [mapLayouts, List.map_map, Function.comp_def, hglyph]

@[simp] lemma keys_mapLayouts : (cache.mapLayouts f).keys = cache.keys := by
  simp only [keys, mapLayouts, List.map_map, Function.comp_def]

/-- A place of the table with another layout. -/
def Slot.mapLayout (f : L → L) (slot : Slot F L) : Slot F L :=
  ⟨slot.index, slot.glyph.mapLayout f⟩

lemma slot?_mapLayouts : (cache.mapLayouts f).slot? content
    = (cache.slot? content).map (Slot.mapLayout (f content.content)) := by
  have hfind : (cache.mapLayouts f).find? content = cache.find? content := by
    simp only [find?, mapLayouts, List.findIdx?_map, Function.comp_def]
  rw [slot?, slot?, hfind]
  cases hplace : cache.find? content with
  | none => rfl
  | some i =>
    obtain ⟨hi, hkey, -⟩ := List.findIdx?_eq_some_iff_getElem.mp hplace
    have hcontent := (CellBuffer.beq_iff_content_eq _ _).mp hkey
    simp only [Option.bind_some, mapLayouts, List.getElem?_map, List.getElem?_eq_getElem hi,
      Option.map_some, hcontent]
    rfl

/-- A lookup does not depend on the layouts in the table, and enters what it would enter. -/
lemma lookup_mapLayouts {cache : GlyphCache C F L} {f : List UInt8 → L → L} {content : CellBuffer}
    (fresh : ∀ s, content.content ∉ cache.keys → content.content ≠ [] →
      cache.engine.shape cache.context content.text = .ok s → f content.content = id) :
    ((cache.mapLayouts f).lookup content).value
      = ((cache.lookup content).value.1.mapLayouts f,
        (cache.lookup content).value.2.map (Slot.mapLayout (f content.content))) := by
  rw [lookup_value, lookup_value, slot?_mapLayouts]
  cases hslot : cache.slot? content with
  | some slot => rfl
  | none =>
    have missing := (cache.slot?_eq_none_iff content).mp hslot
    have hshape : (cache.mapLayouts f).engine.shape (cache.mapLayouts f).context content.text
        = cache.engine.shape cache.context content.text := rfl
    simp only [Option.map_none, hshape]
    split
    · rfl
    next nonempty =>
    cases shaped : cache.engine.shape cache.context content.text with
    | error e => rfl
    | ok s =>
      have hid := fresh s missing nonempty shaped
      simp only [enter, mapLayouts, List.map_append, List.map_cons, List.map_nil, List.length_map,
        CacheEntry.ofShape, CellBuffer.content_duplicate, Except.map, Slot.mapLayout, hid,
        Glyph.mapLayout_id]

end

/-! ## Drawing in place -/

/-- The layout of a glyph, if a surface brings it up to date. -/
def later? (surface : DrawingSurface S F L) (state : S) (glyph : Glyph F L) : Option L :=
  match glyph.description with
  | .layout l => (surface.updateLayout state l).value.2.toOption
  | _ => none

lemma later?_mapLayout {surface : DrawingSurface S F L} {state : S} {glyph : Glyph F L} {l : L}
    (h : glyph.description = .layout l) (f : L → L) :
    later? surface state (glyph.mapLayout f)
      = (surface.updateLayout state (f l)).value.2.toOption := by
  unfold later? Glyph.mapLayout
  rw [h]
  rfl

/-- To keep a layout, if there is one, is to give the entry of its content another one. -/
lemma elim_setLayout (cache : GlyphCache C F L) (content : CellBuffer) (later? : Option L) :
    later?.elim cache (cache.setLayout content) = cache.mapLayouts fun bytes layout =>
      if content.content = bytes then later?.getD layout else layout := by
  cases later? with
  | some later => rfl
  | none =>
    simp only [Option.elim_none, Option.getD_none, ite_self]
    exact cache.mapLayouts_id.symm

/-- Painting in place paints as painting does. -/
lemma paintInPlace_value (surface : DrawingSurface S F L) (state : S) (glyph : Glyph F L)
    (x y : Nat) : (paintInPlace surface state glyph x y).value
      = (later? surface (surface.moveTo state x y) glyph,
        (paint surface state glyph x y).value) := by
  unfold paintInPlace later? paint
  cases glyph.description with
  | layout l =>
    simp only [Noted.value_bind]
    rcases (surface.updateLayout (surface.moveTo state x y) l).value with ⟨later, e | l'⟩ <;> rfl
  | run face glyphs baseline => rfl
  | empty => rfl

/-- Drawing in place answers as drawing does, and keeps the layout that was brought up to date. -/
lemma drawInPlace_value (cache : GlyphCache C F L) (surface : DrawingSurface S F L) (state : S)
    (content : CellBuffer) (x y : Nat) :
    (cache.drawInPlace surface state content x y).value =
      (match (cache.lookup content).value.2 with
        | .error _ => (cache.lookup content).value.1
        | .ok slot => (later? surface (surface.moveTo state x y) slot.glyph).elim
            (cache.lookup content).value.1 ((cache.lookup content).value.1.setLayout content),
        (cache.draw surface state content x y).value.2) := by
  rw [draw_value]
  unfold drawInPlace
  rw [Noted.value_bind]
  rcases (cache.lookup content).value with ⟨later, e | slot⟩
  · rfl
  · simp only [Noted.value_bind, paintInPlace_value]
    rfl

/-- In a table without repetitions a content has one glyph. -/
lemma glyph_eq_of_slot? {cache : GlyphCache C F L} (nodup : cache.keys.Nodup)
    {content : CellBuffer} {slot : Slot F L} (found : cache.slot? content = some slot)
    {e : CacheEntry F L} (he : e ∈ cache.entries) (same : e.key.content = content.content) :
    e.glyph = slot.glyph := by
  obtain ⟨e', he', hkey, hglyph⟩ := entry_of_slot? found
  rw [← hglyph, List.inj_on_of_nodup_map nodup he (List.mem_of_getElem? he')
    (same.trans hkey.symm)]

/-- A drawing brings one layout of the table up to date. -/
lemma drawInPlace_mapLayouts {cache : GlyphCache C F L} {f : List UInt8 → L → L}
    {content : CellBuffer} (nodup : (cache.lookup content).value.1.keys.Nodup)
    (fresh : ∀ s, content.content ∉ cache.keys → content.content ≠ [] →
      cache.engine.shape cache.context content.text = .ok s → f content.content = id)
    (surface : DrawingSurface S F L) (state : S) (x y : Nat) :
    ((cache.mapLayouts f).drawInPlace surface state content x y).value.1
      = (cache.lookup content).value.1.mapLayouts fun bytes layout =>
        renewedLayout surface (surface.moveTo state x y) content bytes (f bytes layout) := by
  have hfound := fun slot (answer : (cache.lookup content).value.2 = .ok slot) =>
    slot?_of_lookup_eq_ok answer
  have hmissing := fun e (answer : (cache.lookup content).value.2 = .error e) =>
    not_mem_keys_of_lookup_eq_error answer
  rw [drawInPlace_value, lookup_mapLayouts fresh]
  generalize (cache.lookup content).value = r at nodup hfound hmissing ⊢
  obtain ⟨later, error | slot⟩ := r
  · refine mapLayouts_congr fun e he l _ => ?_
    have hother : content.content ≠ e.key.content := fun hsame =>
      hmissing error rfl (hsame ▸ mem_keys.mpr ⟨e, he, rfl⟩)
    rw [renewedLayout, if_neg hother]
  · -- Only the entry of the content has a layout that is brought up to date.
    simp only [Except.map, Slot.mapLayout, elim_setLayout, mapLayouts_mapLayouts]
    refine mapLayouts_congr fun e he l hlayout => ?_
    rw [renewedLayout]
    split
    · next same =>
      rw [glyph_eq_of_slot? nodup (hfound slot rfl) he same.symm] at hlayout
      rw [later?_mapLayout hlayout, same]
    · rfl

/-- Drawing in place is drawing, but that the layout of the content is kept as the surface has
brought it up to date. -/
lemma drawInPlace_eq_draw {cache : GlyphCache C F L} {content : CellBuffer}
    (nodup : (cache.lookup content).value.1.keys.Nodup) (surface : DrawingSurface S F L) (state : S)
    (x y : Nat) : (cache.drawInPlace surface state content x y).value
      = ((cache.draw surface state content x y).value.1.mapLayouts
          (renewedLayout surface (surface.moveTo state x y) content),
        (cache.draw surface state content x y).value.2) := by
  have htable := drawInPlace_mapLayouts (f := fun _ => id) nodup (fun _ _ _ _ => rfl) surface state
    x y
  rw [mapLayouts_id] at htable
  rw [draw_cache]
  exact Prod.ext htable (by rw [drawInPlace_value])

/-- A later table of the same font has the same keys, with new ones behind them. -/
structure ExtendsKeys (cache later : GlyphCache C F L) : Prop where
  engine_eq : later.engine = cache.engine
  context_eq : later.context = cache.context
  height_eq : later.height = cache.height
  width_eq : later.width = cache.width
  keys_kept : cache.entries.map (·.key) <+: later.entries.map (·.key)

lemma ExtendsKeys.refl (cache : GlyphCache C F L) : cache.ExtendsKeys cache :=
  ⟨rfl, rfl, rfl, rfl, List.prefix_rfl⟩

lemma ExtendsKeys.trans {a b c : GlyphCache C F L} (hab : a.ExtendsKeys b)
    (hbc : b.ExtendsKeys c) : a.ExtendsKeys c :=
  ⟨hbc.engine_eq.trans hab.engine_eq, hbc.context_eq.trans hab.context_eq,
    hbc.height_eq.trans hab.height_eq, hbc.width_eq.trans hab.width_eq,
    hab.keys_kept.trans hbc.keys_kept⟩

lemma Extends.extendsKeys {cache later : GlyphCache C F L} (h : cache.Extends later) :
    cache.ExtendsKeys later :=
  ⟨h.engine_eq, h.context_eq, h.height_eq, h.width_eq, h.entries_kept.map _⟩

lemma mapLayouts_extendsKeys (cache : GlyphCache C F L) (f : List UInt8 → L → L) :
    cache.ExtendsKeys (cache.mapLayouts f) := by
  refine ⟨rfl, rfl, rfl, rfl, ?_⟩
  simp only [mapLayouts, List.map_map, Function.comp_def]
  exact List.prefix_rfl

lemma drawInPlace_extendsKeys (cache : GlyphCache C F L) (surface : DrawingSurface S F L)
    (state : S) (content : CellBuffer) (x y : Nat) :
    cache.ExtendsKeys (cache.drawInPlace surface state content x y).value.1 := by
  have hlookup := (cache.lookup_extends content).extendsKeys
  rw [drawInPlace_value]
  generalize (cache.lookup content).value = r at hlookup ⊢
  obtain ⟨later, e | slot⟩ := r
  · exact hlookup
  · simp only [elim_setLayout]
    exact hlookup.trans (later.mapLayouts_extendsKeys _)

/-! ## Tables that lookups have led to, but for the layouts -/

/-- The table of the attempts is `shaped`, and `cache` is that table with other layouts. -/
structure Renews (engine : ShapingEngine C F L) (context : C) (attempted : List CellBuffer)
    (renewed : List UInt8 → L → L) (shaped cache : GlyphCache C F L) : Prop where
  records : Records engine context attempted shaped
  eq_mapLayouts : cache = shaped.mapLayouts renewed
  /-- What can still be entered has a layout as the engine makes it. -/
  fresh : ∀ (content : CellBuffer) (s : ShapedCluster F L), content.content ∉ shaped.keys →
    content.content ≠ [] → engine.shape context content.text = .ok s →
      renewed content.content = id

namespace Renews

variable {engine : ShapingEngine C F L} {context : C} {attempted : List CellBuffer}
  {renewed : List UInt8 → L → L} {shaped cache : GlyphCache C F L}

lemma of_records (h : Records engine context attempted cache) :
    Renews engine context attempted (fun _ => id) cache cache :=
  ⟨h, cache.mapLayouts_id.symm, fun _ _ _ _ _ => rfl⟩

lemma lookup_value (h : Renews engine context attempted renewed shaped cache)
    (content : CellBuffer) : (cache.lookup content).value
      = ((shaped.lookup content).value.1.mapLayouts renewed,
        (shaped.lookup content).value.2.map (Slot.mapLayout (renewed content.content))) := by
  rw [h.eq_mapLayouts, lookup_mapLayouts]
  intro s missing nonempty hshape
  rw [h.records.engine_eq, h.records.context_eq] at hshape
  exact h.fresh content s missing nonempty hshape

/-- What is found or entered is the shape of its content, with the layout as it is now. -/
lemma glyph_of_lookup_eq_ok (h : Renews engine context attempted renewed shaped cache)
    {content : CellBuffer} {slot : Slot F L} (answer : (cache.lookup content).value.2 = .ok slot) :
    content.content ≠ [] ∧ ∃ first s, engine.shape context content.text = .ok s ∧
      slot.glyph = (CacheEntry.ofShape first (s.mapLayout (renewed content.content))).glyph := by
  rw [h.lookup_value] at answer
  cases hanswer : (shaped.lookup content).value.2 with
  | error e =>
    rw [hanswer] at answer
    cases answer
  | ok found =>
    rw [hanswer] at answer
    obtain ⟨nonempty, first, s, -, hs, hglyph⟩ := h.records.glyph_of_lookup_eq_ok hanswer
    refine ⟨nonempty, first, s, hs, ?_⟩
    rw [← Except.ok.inj answer, Slot.mapLayout, hglyph, CacheEntry.mapLayout_ofShape]

/-- A content that is not in the table after its lookup cannot be shaped. -/
lemma not_shaped (h : Renews engine context attempted renewed shaped cache)
    {content other : CellBuffer} {s : ShapedCluster F L}
    (missing : other.content ∉ (shaped.lookup content).value.1.keys)
    (nonempty : other.content ≠ []) (hshape : engine.shape context other.text = .ok s) :
    content.content ≠ other.content := by
  intro hsame
  apply missing
  rw [← hsame]
  refine (h.records.lookup content).complete content (List.mem_append_right _ List.mem_cons_self)
    (hsame ▸ nonempty) s ?_
  rw [CellBuffer.text_congr hsame]
  exact hshape

lemma lookup (h : Renews engine context attempted renewed shaped cache) (content : CellBuffer) :
    Renews engine context (attempted ++ [content]) renewed (shaped.lookup content).value.1
      (cache.lookup content).value.1 := by
  refine ⟨h.records.lookup content, by rw [h.lookup_value], ?_⟩
  intro other s missing nonempty hshape
  have hgrow := (shaped.lookup_extends content).entries_kept.map (·.key.content)
  exact h.fresh other s (fun hmem => missing (hgrow.subset hmem)) nonempty hshape

lemma drawInPlace (h : Renews engine context attempted renewed shaped cache)
    (surface : DrawingSurface S F L) (state : S) (content : CellBuffer) (x y : Nat) :
    Renews engine context (attempted ++ [content])
      (fun bytes layout =>
        renewedLayout surface (surface.moveTo state x y) content bytes (renewed bytes layout))
      (shaped.lookup content).value.1 (cache.drawInPlace surface state content x y).value.1 := by
  refine ⟨h.records.lookup content, ?_, ?_⟩
  · rw [h.eq_mapLayouts]
    refine drawInPlace_mapLayouts (h.records.lookup content).nodup ?_ surface state x y
    intro s missing nonempty hshape
    rw [h.records.engine_eq, h.records.context_eq] at hshape
    exact h.fresh content s missing nonempty hshape
  · intro other s missing nonempty hshape
    have hold := (h.lookup content).fresh other s missing nonempty hshape
    funext layout
    rw [renewedLayout, if_neg (h.not_shaped missing nonempty hshape), hold]

/-- Drawing in place draws what an engine shapes whose layouts are as they are now. -/
lemma draw_eq (h : Renews engine context attempted renewed shaped cache)
    (surface : DrawingSurface S F L) (state : S) (content : CellBuffer) (x y : Nat) :
    (cache.drawInPlace surface state content x y).value.2
      = (drawFresh (engine.mapLayouts (renewed content.content)) context surface state content
          x y).value := by
  have hshape : (engine.mapLayouts (renewed content.content)).shape context content.text
      = (engine.shape context content.text).map
        (ShapedCluster.mapLayout (renewed content.content)) := rfl
  rw [drawInPlace_value]
  change (draw _ surface state content x y).value.2 = _
  rw [draw_value, h.lookup_value]
  unfold drawFresh drawBy
  rw [hshape]
  cases answer : (shaped.lookup content).value.2 with
  | error e =>
    obtain ⟨isEmpty, rfl, -⟩ | ⟨nonempty, refused, -⟩ := lookup_of_error answer
    · rw [if_pos isEmpty]
      rfl
    · rw [h.records.engine_eq, h.records.context_eq] at refused
      rw [if_neg nonempty, refused]
      rfl
  | ok slot =>
    obtain ⟨nonempty, first, s, -, hs, hglyph⟩ := h.records.glyph_of_lookup_eq_ok answer
    rw [if_neg nonempty, hs]
    simp only [Except.map, Slot.mapLayout, hglyph, CacheEntry.mapLayout_ofShape, paint_ofShape,
      ShapedCluster.baselinePixels_eq]

end Renews
end GlyphCache
end GlyphGrid
