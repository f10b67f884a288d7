import GlyphGrid.Command.Run
import GlyphGrid.Proofs.Font.Segments
import GlyphGrid.Proofs.Grid.Geometry
import GlyphGrid.Proofs.Grid.Wrapping

/-!
# A rendered text has no gap

A cell of a grid is left out if it has no origin, if it is empty, if its text cannot be shaped, or
if the surface refuses it.  `DrawsAll` says that none of this happens where a text is rendered: with
the faces of any stack, at any height at which there is a font, for any text and any limit of
columns, on a canvas of the size that was computed before.

Each of the four has its own reason, and each is a lemma of another file: the canvas has room for
every cell (`coversGrid_of_canvasSize`), a cell is never empty (`ne_of_mem_layout`), shaping finds
every face (`exists_shape_eq_ok`), and a canvas refuses nothing that could be shaped
(`neverRefuses_canvas`).  They meet in one induction over the cells (`Drawing.run_draws`), whose
invariant is that the table is still one of the font, whatever became of its layouts.
-/

namespace GlyphGrid

open GlyphCache

variable {C F L S : Type}

/-- A surface on which everything can be drawn that shows something, whatever became of its
layout. -/
def NeverRefuses (engine : ShapingEngine C F L) (context : C) (surface : DrawingSurface S F L) :
    Prop :=
  ∀ (f : L → L) (state : S) (content : CellBuffer) (x y : Nat), content.content ≠ [] →
    (drawFresh (engine.mapLayouts f) context surface state content x y).value.2 = .ok ()

/-- How many clusters of a text end no line. -/
def visibleCount (text : String) : Nat :=
  (Text.clusters text).countP fun cluster => cluster ≠ "\n" ∧ cluster ≠ "\r\n"

/-- A text is rendered with the faces of a stack, on a canvas of size `size`, and no error occurs on
the way. -/
structure DrawsAll (fonts : FontStack) (cache : Command.FontCache) (text : String)
    (columns : Nat) (size : Nat × Nat) : Prop where
  /-- Every cell is drawn, whatever the canvas shows before. -/
  count_eq : ∀ canvas, (drawGrid cache Canvas.surface canvas (.layout text columns)).value.2.2
    = ⟨visibleCount text, 0⟩
  /-- A picture that can be written is reported as complete. -/
  output_eq : ∀ place (world : World) (config : Config) path saved,
    let drawn := world.take place (drawGrid cache Canvas.surface
      (Canvas.blank size.1 size.2 config.background config.foreground) (.layout text columns))
    drawn.1.save? place path drawn.2.2.1.image = some saved →
    Command.renderGrid place world config cache (.layout text columns) path
      = ((saved.take place drawn.2.1.closeNote).1,
        .ok [Command.renderedLine ⟨visibleCount text, 0⟩ path])
  origin_fits : ∀ cell ∈ (CellGrid.layout text columns).rowMajor, ∃ origin,
    CellGrid.cellOrigin cell.column cell.row cache.width cache.height = some origin
  text_ne : ∀ cell ∈ (CellGrid.layout text columns).rowMajor, cell.text ≠ ""
  /-- Every face of a segment is one of the stack. -/
  face_exists : ∀ cs, ∀ s ∈ Segment.list fonts cs, ∃ font, fonts.get? s.face = some font
  shape_ok : ∀ cluster, ∃ s, fonts.engine.shape cache.context cluster = .ok s
  refresh_ok : ∀ layout : TextLayout, ∃ later, layout.refresh = .ok later
  /-- The canvas refuses no call. -/
  paint_ok : ∀ (canvas : Canvas) (layout : TextLayout) (face : FontFace) (glyphs : GlyphString),
    (∃ later, (Canvas.surface.updateLayout canvas layout).value.2 = .ok later) ∧
      (Canvas.surface.showLayout canvas layout).value.2 = .ok () ∧
      (Canvas.surface.showGlyphs canvas face glyphs).value.2 = .ok ()

/-! ## Drawing on a canvas -/

lemma Canvas.exists_updateLayout_eq_ok (canvas : Canvas) (layout : TextLayout) :
    ∃ later, (Canvas.surface.updateLayout canvas layout).value = (canvas, .ok later) := by
  obtain ⟨later, hlater⟩ := layout.exists_refresh_eq_ok
  exact ⟨later, congrArg (Prod.mk canvas) hlater⟩

/-- A canvas paints every cluster. -/
lemma Canvas.paintAt_eq_ok (s : ShapedCluster FontFace TextLayout) (baseline : Int)
    (canvas : Canvas) (x y : Nat) :
    (s.paintAt baseline Canvas.surface canvas x y).value.2 = .ok () := by
  unfold ShapedCluster.paintAt
  split
  · rfl
  · obtain ⟨later, hlater⟩ :=
      exists_updateLayout_eq_ok (Canvas.surface.moveTo canvas x y) s.layout
    rw [Noted.value_bind, hlater]
    rfl

/-- A canvas refuses nothing, and a stack of faces shapes everything. -/
lemma neverRefuses_canvas (fonts : FontStack) (context : ShapingContext) :
    NeverRefuses fonts.engine context Canvas.surface := by
  intro f canvas content x y nonempty
  obtain ⟨s, hs⟩ := context.exists_shape_eq_ok content.text
  have hshape : (fonts.engine.mapLayouts f).shape context content.text = .ok (s.mapLayout f) := by
    change (context.shape content.text).map _ = _
    rw [hs]
    rfl
  rw [drawFresh, drawBy, if_neg nonempty, hshape]
  exact Canvas.paintAt_eq_ok _ _ canvas x y

/-! ## Drawing every cell -/

namespace Drawing

variable {engine : ShapingEngine C F L} {context : C} {surface : DrawingSurface S F L}
  {attempted : List CellBuffer} {renewed : List UInt8 → L → L} {shaped : GlyphCache C F L}
  {d : Drawing C F L S}

/-- A cell that has a place and a text is drawn, and the table stays one of the font. -/
lemma step_draws (hsurface : NeverRefuses engine context surface)
    (hrenews : Renews engine context attempted renewed shaped d.cache) (hwidth : 0 < d.cache.width)
    (hheight : 0 < d.cache.height) {cell : GridCell}
    (hfits : cell.Fits d.cache.width d.cache.height) (htext : cell.text ≠ "") :
    (d.step surface cell).count = ⟨d.count.drawn + 1, d.count.skipped⟩ ∧
      (∃ attempted renewed shaped,
        Renews engine context attempted renewed shaped (d.step surface cell).cache) ∧
      d.cache.ExtendsKeys (d.step surface cell).cache := by
  have hdrawn := hsurface (renewed (d.buffer.fill cell.text).content) d.state
    (d.buffer.fill cell.text) (cell.column * d.cache.width)
    (cell.row * d.cache.height) (d.buffer.content_fill_ne_nil htext)
  rw [← hrenews.draw_eq] at hdrawn
  rw [Drawing.step, cell_value surface d cell hwidth hheight, if_pos hfits]
  simp only [hdrawn]
  exact ⟨rfl, ⟨_, _, _, hrenews.drawInPlace surface d.state _ _ _⟩,
    d.cache.drawInPlace_extendsKeys surface d.state _ _ _⟩

/-- All cells are drawn that have a place and a text. -/
lemma run_draws (hsurface : NeverRefuses engine context surface)
    (hrenews : Renews engine context attempted renewed shaped d.cache) (hwidth : 0 < d.cache.width)
    (hheight : 0 < d.cache.height) (cells : List GridCell)
    (hcells : ∀ cell ∈ cells, cell.Fits d.cache.width d.cache.height ∧ cell.text ≠ "") :
    (cells.foldl (Drawing.step surface) d).count
      = ⟨d.count.drawn + cells.length, d.count.skipped⟩ := by
  induction cells generalizing d attempted renewed shaped with
  | nil => rfl
  | cons cell cells ih =>
    rw [List.forall_mem_cons] at hcells
    obtain ⟨hcount, ⟨_, _, _, hnext⟩, hfont⟩ :=
      step_draws hsurface hrenews hwidth hheight hcells.1.1 hcells.1.2
    have hrest := ih hnext (hfont.width_eq ▸ hwidth) (hfont.height_eq ▸ hheight)
      (by rw [hfont.width_eq, hfont.height_eq]; exact hcells.2)
    rw [List.foldl_cons, hrest, hcount, List.length_cons]
    simp only [DrawCount.mk.injEq, and_true]
    omega

end Drawing

/-- A grid is drawn whole where every cell has a place and a text. -/
lemma drawGrid_count_eq {engine : ShapingEngine C F L} {height : Nat} {cache : GlyphCache C F L}
    {surface : DrawingSurface S F L} (hnew : IsNew engine height cache)
    (hsurface : NeverRefuses engine cache.context surface) (state : S) {grid : CellGrid}
    (hcells : ∀ cell ∈ grid.rowMajor, cell.Fits cache.width cache.height ∧ cell.text ≠ "") :
    (drawGrid cache surface state grid).value.2.2 = ⟨grid.cellCount, 0⟩ := by
  have hrun := Drawing.run_draws (d := ⟨cache, state, .empty, ⟨0, 0⟩⟩) hsurface
    (.of_records hnew.records) hnew.width_pos hnew.cache_height_pos grid.rowMajor hcells
  have hlength : grid.rowMajor.length = grid.cellCount := CellGrid.length_cellsFrom 0 grid
  rw [drawGrid_value]
  simp only [hrun, Nat.zero_add, hlength]

/-! ## Rendering a text -/

namespace CellGrid

lemma cellCount_eq_length_flatten (grid : CellGrid) : grid.cellCount = grid.flatten.length := by
  induction grid with
  | nil => rfl
  | cons texts grid ih =>
    rw [List.flatten_cons, List.length_append, ← ih]
    rfl

lemma cellCount_layout (text : String) (columns : Nat) :
    (layout text columns).cellCount = visibleCount text := by
  rw [cellCount_eq_length_flatten, flatten_layout, visibleCount, List.countP_eq_length_filter]

/-- The cells of a text show something. -/
lemma text_ne_of_mem_rowMajor {text : String} {columns : Nat} {cell : GridCell}
    (h : cell ∈ (layout text columns).rowMajor) : cell.text ≠ "" := by
  obtain ⟨texts, hrow, hcolumn⟩ := ((layout text columns).mem_rowMajor cell).mp h
  exact (ne_of_mem_layout (List.mem_of_getElem? hrow) (List.mem_of_getElem? hcolumn)).1

end CellGrid

/-- The output of a rendering whose picture can be written. -/
lemma Command.renderGrid_eq_ok {place : LogPlace} {world saved : World} {config : Config}
    {cache : FontCache} {grid : CellGrid} {path : String} {size : Nat × Nat}
    (hsize : grid.canvasSize cache.width cache.height = some size) :
    let drawn := world.take place (drawGrid cache Canvas.surface
      (Canvas.blank size.1 size.2 config.background config.foreground) grid)
    drawn.1.save? place path drawn.2.2.1.image = some saved →
    renderGrid place world config cache grid path
      = ((saved.take place drawn.2.1.closeNote).1, .ok [renderedLine drawn.2.2.2 path]) := by
  intro drawn hsave
  unfold renderGrid
  rw [hsize]
  simp only [drawn] at hsave
  simp only [hsave, drawn]

/-- **A rendered text has no gap.**  Whatever the faces, the height, the text and the limit of
columns, all cells are drawn and none is left out, provided that the font can be made and that
the canvas has a size. -/
theorem layout_drawsAll {fonts : FontStack} {height : Nat} {cache : Command.FontCache}
    (created : (create fonts.engine height).value = .ok cache) (text : String) (columns : Nat)
    {size : Nat × Nat} (hsize : (CellGrid.layout text columns).canvasSize cache.width cache.height
      = some size) : DrawsAll fonts cache text columns size := by
  have hnew := isNew_of_create created
  have hcovers := CellGrid.coversGrid_of_canvasSize hnew.width_pos hnew.cache_height_pos hsize
  have hcells : ∀ cell ∈ (CellGrid.layout text columns).rowMajor,
      cell.Fits cache.width cache.height ∧ cell.text ≠ "" := by
    intro cell hcell
    have horigin := hcovers.origin_eq cell hcell
    rw [CellGrid.cellOrigin_eq_some_iff hnew.width_pos hnew.cache_height_pos] at horigin
    exact ⟨horigin.1, CellGrid.text_ne_of_mem_rowMajor hcell⟩
  have hcount : ∀ canvas, (drawGrid cache Canvas.surface canvas (.layout text columns)).value.2.2
      = ⟨visibleCount text, 0⟩ := by
    intro canvas
    rw [drawGrid_count_eq hnew (neverRefuses_canvas fonts cache.context) canvas hcells,
      CellGrid.cellCount_layout]
  refine ⟨hcount, ?_, ?_, ?_, ?_, ?_, ?_, ?_⟩
  · intro place world config path saved drawn hsave
    have hdrawn : drawn.2.2.2 = ⟨visibleCount text, 0⟩ := hcount _
    rw [Command.renderGrid_eq_ok hsize hsave, hdrawn]
  · exact fun cell hcell => ⟨_, hcovers.origin_eq cell hcell⟩
  · exact fun cell hcell => (hcells cell hcell).2
  · exact fun cs s hs => FontStack.exists_get?_eq_some (Segment.face_lt_of_mem_list hs)
  · exact cache.context.exists_shape_eq_ok
  · exact TextLayout.exists_refresh_eq_ok
  · intro canvas layout face glyphs
    obtain ⟨later, hlater⟩ := Canvas.exists_updateLayout_eq_ok canvas layout
    exact ⟨⟨later, congrArg Prod.snd hlater⟩, rfl, rfl⟩

/-- Three lines are rendered in rows of one cell: a letter with an accent that no face has, a Greek
letter behind it, nothing, and a letter. -/
theorem layout_drawsAll_of_fallback :
    ∃ cache, (create sampleStack.engine 16).value = .ok cache ∧
      (CellGrid.layout "e\u0301ω\r\n\nb" 1).canvasSize cache.width cache.height = some (8, 64) ∧
      (drawGrid cache Canvas.surface (Canvas.blank 8 64 ⟨0, 0, 0, 255⟩ ⟨255, 255, 255, 255⟩)
        (.layout "e\u0301ω\r\n\nb" 1)).value.2.2 = ⟨3, 0⟩ := by
  have hwidth : (create sampleStack.engine 16).value.toOption.map width = some 8 := by
    decide +kernel
  cases hcache : (create sampleStack.engine 16).value with
  | error e =>
    rw [hcache] at hwidth
    cases hwidth
  | ok cache =>
    rw [hcache] at hwidth
    have hcache_width : cache.width = 8 := Option.some.inj hwidth
    have hcache_height : cache.height = 16 := (isNew_of_create hcache).font_eq.2
    have hsize : (CellGrid.layout "e\u0301ω\r\n\nb" 1).canvasSize cache.width cache.height
        = some (8, 64) := by
      rw [hcache_width, hcache_height]
      decide +kernel
    refine ⟨cache, rfl, hsize, ?_⟩
    rw [(layout_drawsAll hcache "e\u0301ω\r\n\nb" 1 hsize).count_eq]
    decide +kernel

end GlyphGrid
