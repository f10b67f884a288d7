import GlyphGrid.Proofs.Grid.RowMajor
import GlyphGrid.Proofs.Log.Precedence
import GlyphGrid.Proofs.Raster.Painting

/-!
# What a run writes

A run has one file of its own, the log, and writes one more at most, the picture of a rendering.
The picture is written last, after everything that can fail: every part of a run that fails has left
a world in which nothing but the log was written (`Command.renderText_outcome`), and the run ends in
that world.  A rendering that succeeds has written the picture, whose size is the one that was
computed from the layout before anything was drawn: drawing never changes the size of a canvas
(`drawGrid_keeps` with `Canvas.painted_perform`).

The log may be anywhere, also where the picture goes.  Where they meet, the last lines of the log
are written over the bytes of the picture.
-/

namespace GlyphGrid

open GlyphCache

variable {C F L S : Type}

/-! ## What drawing keeps -/

/-- A property of surfaces that no call changes. -/
structure DrawingSurface.Keeps (surface : DrawingSurface S F L) (P : S → Prop) : Prop where
  moveTo : ∀ s x y, P s → P (surface.moveTo s x y)
  updateLayout : ∀ s layout, P s → P (surface.updateLayout s layout).value.1
  showLayout : ∀ s layout, P s → P (surface.showLayout s layout).value.1
  showGlyphs : ∀ s face glyphs, P s → P (surface.showGlyphs s face glyphs).value.1

section

variable {surface : DrawingSurface S F L} {P : S → Prop} (h : surface.Keeps P)

include h in
lemma paint_keeps (glyph : Glyph F L) (x y : Nat) {state : S} (hstate : P state) :
    P (paint surface state glyph x y).value.1 := by
  unfold paint
  split
  · next layout _ =>
    have hmoved := h.updateLayout _ layout (h.moveTo state x y hstate)
    rw [Noted.value_bind]
    generalize (surface.updateLayout (surface.moveTo state x y) layout).value = r at hmoved ⊢
    obtain ⟨later, e | updated⟩ := r
    · exact hmoved
    · exact h.showLayout later updated hmoved
  · exact h.showGlyphs _ _ _ (h.moveTo _ _ _ hstate)
  · exact hstate

include h in
lemma draw_keeps (cache : GlyphCache C F L) (content : CellBuffer) (x y : Nat) {state : S}
    (hstate : P state) : P (cache.draw surface state content x y).value.2.1 := by
  rw [draw_value]
  dsimp only
  split
  · exact hstate
  · exact paint_keeps h _ x y hstate

include h in
lemma drawInPlace_keeps (cache : GlyphCache C F L) (content : CellBuffer) (x y : Nat) {state : S}
    (hstate : P state) : P (cache.drawInPlace surface state content x y).value.2.1 := by
  rw [drawInPlace_value]
  exact draw_keeps h cache content x y hstate

/-- One more cell was counted, as drawn or as left out. -/
lemma Drawing.count_step (surface : DrawingSurface S F L) (d : Drawing C F L S)
    (cell : GridCell) : (d.step surface cell).count.drawn + (d.step surface cell).count.skipped
      = d.count.drawn + d.count.skipped + 1 := by
  unfold Drawing.step Drawing.cell
  split
  · rfl
  · simp only [Noted.value_bind]
    generalize (d.cache.drawInPlace surface d.state _ _ _).value = r
    obtain ⟨cache, state, e | ⟨⟩⟩ := r
    · rfl
    · change d.count.drawn + 1 + d.count.skipped = _
      omega

lemma Drawing.count_run (surface : DrawingSurface S F L) (d : Drawing C F L S)
    (cells : List GridCell) : (cells.foldl (Drawing.step surface) d).count.drawn
      + (cells.foldl (Drawing.step surface) d).count.skipped
        = d.count.drawn + d.count.skipped + cells.length := by
  induction cells generalizing d with
  | nil => rfl
  | cons cell cells ih =>
    rw [List.foldl_cons, ih, Drawing.count_step, List.length_cons]
    omega

include h in
lemma Drawing.step_keeps {d : Drawing C F L S} (hstate : P d.state) (cell : GridCell) :
    P (d.step surface cell).state := by
  unfold Drawing.step Drawing.cell
  split
  · exact hstate
  · next x y _ =>
    have hdrawn := drawInPlace_keeps h d.cache (d.buffer.fill cell.text) x y hstate
    simp only [Noted.value_bind]
    generalize (d.cache.drawInPlace surface d.state _ x y).value = r at hdrawn ⊢
    obtain ⟨cache, state, e | ⟨⟩⟩ := r
    · exact hdrawn
    · exact hdrawn

include h in
/-- Drawing a grid keeps what every call keeps. -/
lemma drawGrid_keeps (cache : GlyphCache C F L) {state : S} (hstate : P state)
    (grid : CellGrid) : P (drawGrid cache surface state grid).value.2.1 := by
  rw [drawGrid_value]
  exact List.foldlRecOn (motive := fun d : Drawing C F L S => P d.state) _ _ hstate
    fun d hd cell _ => Drawing.step_keeps h hd cell

end

lemma drawGrid_total (cache : GlyphCache C F L) (surface : DrawingSurface S F L) (state : S)
    (grid : CellGrid) : (drawGrid cache surface state grid).value.2.2.drawn
      + (drawGrid cache surface state grid).value.2.2.skipped = grid.cellCount := by
  rw [drawGrid_value]
  simp only [Drawing.count_run, Nat.zero_add]
  exact CellGrid.length_cellsFrom 0 grid

/-- A canvas keeps its size, whatever is drawn. -/
lemma Canvas.surface_keeps_size (width height : Nat) :
    Canvas.surface.Keeps fun c => c.image.width = width ∧ c.image.height = height := by
  have hcall (call : SurfaceCall FontFace TextLayout) (c : Canvas)
      (h : c.image.width = width ∧ c.image.height = height) :
      (c.perform (.surface call)).image.width = width ∧
        (c.perform (.surface call)).image.height = height := by
    have hpainted := (c.painted_perform (P := fun _ => True) (.surface call)
      fun _ _ _ _ _ => trivial).image
    exact ⟨hpainted.width_eq.trans h.1, hpainted.height_eq.trans h.2⟩
  exact ⟨fun c x y => hcall (.move x y) c, fun c layout => hcall (.update layout) c,
    fun c layout => hcall (.layout layout) c,
    fun c face glyphs => hcall (.glyphs face glyphs) c⟩

/-! ## What a rendering shows -/

namespace Rendering

variable {fonts : Catalogue} {config : Config} {text : String} {columns : Nat}
  (r : Rendering fonts config text columns)

lemma size_drawn : r.drawn.1.image.width = r.size.1 ∧ r.drawn.1.image.height = r.size.2 := by
  unfold drawn
  exact drawGrid_keeps (Canvas.surface_keeps_size _ _) r.cache ⟨rfl, rfl⟩ _

lemma count_drawn :
    r.drawn.2.drawn + r.drawn.2.skipped = (CellGrid.layout text columns).cellCount :=
  drawGrid_total _ _ _ _

end Rendering

/-! ## What a run writes -/

/-- Everything that a run leaves as it was: all files but the log, and but the picture of a
rendering that succeeded. -/
structure WritesOnly (w : Surroundings) (i : Invocation) : Prop where
  exitCode_ne_iff : (w.carryOut i).exitCode ≠ 0 ↔ ∃ e, (w.stages i).2 = .error e
  failed : (w.carryOut i).exitCode ≠ 0 → ∀ place ∉ w.logPlace.locations w.files,
    (w.carryOut i).files.get? place = w.files.get? place
  metrics : ∀ height? font?, i.command = .metrics height? font? →
    ∀ place ∉ w.logPlace.locations w.files,
      (w.carryOut i).files.get? place = w.files.get? place
  rendered : ∀ text height? font? path columns?,
    i.command = .render text height? font? path columns? → (w.carryOut i).exitCode = 0 →
    ∃ config place, w.loaded i = .ok config ∧ w.files.locate? w.working path = some place ∧
      ∃ r : Rendering w.fonts (config.override height? font?) text
          (columns?.getD config.columns).toNat,
        (w.carryOut i).files.Shows place r.drawn.1.image ∧
        (place ∉ w.logPlace.locations w.files →
          (w.carryOut i).files.get? place = some (.picture r.drawn.1.image [])) ∧
        (r.drawn.1.image.width, r.drawn.1.image.height) = r.size ∧
        (w.carryOut i).output = [Command.renderedLine r.drawn.2 path] ∧
        r.drawn.2.drawn + r.drawn.2.skipped
          = (CellGrid.layout text (columns?.getD config.columns).toNat).cellCount ∧
        ∀ other ∉ place :: w.logPlace.locations w.files,
          (w.carryOut i).files.get? other = w.files.get? other

lemma LogSession.inForce_keeps (place : LogPlace) (files : FileTree) (isFixed : Bool)
    (level : LogLevel) :
    files.Keeps (inForce place files isFixed level).2 (place.locations files) := by
  unfold inForce
  split
  · exact .refl files _
  · cases hopen : place.open? files with
    | none => exact .refl files _
    | some later => exact FileTree.keeps_of_write? hopen

namespace Surroundings

variable (w : Surroundings) (i : Invocation)

/-- A run goes on from a world in which nothing but the log was written. -/
lemma exists_world_stages_eq : ∃ world, w.stages i = w.goOn i world ∧
    w.files.Keeps world.files (w.logPlace.locations w.files) := by
  obtain ⟨lines, hstages⟩ := w.exists_stages_eq i
  have hready : w.files.Keeps (w.ready i).files (w.logPlace.locations w.files) :=
    LogSession.inForce_keeps _ _ _ _
  have hwrite := ((w.ready i).follows_write w.logPlace lines).files
  rw [hready.locations_eq] at hwrite
  exact ⟨_, hstages, hready.trans hwrite⟩

lemma exitCode_ne_iff : (w.carryOut i).exitCode ≠ 0 ↔ ∃ e, (w.stages i).2 = .error e := by
  unfold carryOut finish
  cases (w.stages i).2 with
  | error e => exact ⟨fun _ => ⟨e, rfl⟩, fun _ => Nat.one_ne_zero⟩
  | ok output =>
    constructor
    · exact fun h => absurd rfl h
    · rintro ⟨e, he⟩
      cases he

/-- How a run goes on whose configuration can be loaded and which renders a text. -/
lemma goOn_outcome {config : Config} (hloaded : w.loaded i = .ok config) {text : String}
    {height? : Option UInt32} {font? : Option String} {path : String} {columns? : Option UInt64}
    (hcommand : i.command = .render text height? font? path columns?) (world : World) :
    Command.RenderOutcome w.logPlace world w.fonts (config.override height? font?) text
      (columns?.getD config.columns).toNat path (w.goOn i world) := by
  rw [goOn, hloaded, hcommand]
  exact Command.renderText_outcome _ _ _ _ _ _ _

/-- A run that only reports writes nothing but the log, whether it fails or not. -/
lemma goOn_keeps_of_metrics {height? : Option UInt32} {font? : Option String}
    (hcommand : i.command = .metrics height? font?) (world : World) :
    world.files.Keeps (w.goOn i world).1.files (w.logPlace.locations world.files) := by
  rw [goOn]
  split
  · exact .refl _ _
  · rw [hcommand]
    exact (Command.follows_reportMetrics _ _ _ _).files

/-- A run that fails has written nothing but the log. -/
lemma goOn_keeps_of_error {world : World} {e : RunError} (h : (w.goOn i world).2 = .error e) :
    world.files.Keeps (w.goOn i world).1.files (w.logPlace.locations world.files) := by
  cases hloaded : w.loaded i with
  | error e =>
    rw [goOn, hloaded]
    exact .refl _ _
  | ok config =>
    cases hcommand : i.command with
    | metrics height? font? => exact w.goOn_keeps_of_metrics i hcommand world
    | render text height? font? path columns? =>
      have houtcome := w.goOn_outcome i hloaded hcommand world
      generalize w.goOn i world = outcome at h houtcome ⊢
      cases houtcome with
      | failed e later follows => exact follows.files
      | saved r drawn later closing follows saves => cases h

end Surroundings

/-- **A run writes the log, and the picture of a rendering that succeeds.**  Whatever the command
line, the configuration, the fonts and the text, a run that fails and one that only reports leave
all other files alone, and a rendering writes a picture of the size that its layout needs. -/
theorem carryOut_writesOnly (w : Surroundings) (i : Invocation) : WritesOnly w i := by
  obtain ⟨world, hstages, hkeeps⟩ := w.exists_world_stages_eq i
  have hfiles : (w.carryOut i).files = (w.goOn i world).1.files := congrArg (·.1.files) hstages
  constructor
  case exitCode_ne_iff => exact w.exitCode_ne_iff i
  case failed =>
    intro hcode
    obtain ⟨e, he⟩ := (w.exitCode_ne_iff i).mp hcode
    rw [hstages] at he
    have hrun := w.goOn_keeps_of_error i he
    rw [hkeeps.locations_eq] at hrun
    rw [hfiles]
    exact (hkeeps.trans hrun).get?_eq
  case metrics =>
    intro height? font? hcommand
    have hrun := w.goOn_keeps_of_metrics i hcommand world
    rw [hkeeps.locations_eq] at hrun
    rw [hfiles]
    exact (hkeeps.trans hrun).get?_eq
  case rendered =>
    intro text height? font? path columns? hcommand hcode
    have hsucceeds : ∀ e, (w.goOn i world).2 ≠ .error e := by
      intro e he
      rw [← hstages] at he
      exact (w.exitCode_ne_iff i).mpr ⟨e, he⟩ hcode
    cases hloaded : w.loaded i with
    | error e =>
      refine absurd ?_ (hsucceeds (.config e))
      rw [Surroundings.goOn, hloaded]
    | ok config =>
    have houtput : (w.carryOut i).output = (w.goOn i world).2.toOption.getD [] :=
      congrArg (fun outcome => outcome.2.toOption.getD []) hstages
    have houtcome := w.goOn_outcome i hloaded hcommand world
    rw [hfiles, houtput]
    generalize w.goOn i world = outcome at hsucceeds houtcome
    obtain ⟨last, e | lines⟩ := outcome
    · exact absurd rfl (hsucceeds e)
    obtain ⟨place, r, hplace, rfl, hshows, halone, hrun⟩ := houtcome.puts_picture
    rw [hkeeps.locate?_eq] at hplace
    rw [hkeeps.locations_eq] at halone hrun
    refine ⟨config, place, rfl, hplace, r, hshows, halone, ?_, rfl, r.count_drawn, ?_⟩
    · rw [r.size_drawn.1, r.size_drawn.2]
    · exact ((hkeeps.mono (List.subset_cons_self _ _)).trans hrun).get?_eq

end GlyphGrid
