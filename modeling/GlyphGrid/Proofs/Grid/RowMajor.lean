import GlyphGrid.Grid.Draw
import GlyphGrid.Proofs.Cache.Entries
import GlyphGrid.Proofs.Cache.Storage

/-!
# A grid is drawn cell by cell

`drawGrid` threads one buffer, the cache and the surface through a loop in a loop.  `visitCells` has
no loop in a loop and no buffer: it goes through the cells in row-major order and draws each whose
origin fits with a new buffer that holds its text.  `DrawsRowMajor` says that the two agree: in the
state of the surface and in what becomes of each cell exactly, and in the cache but for the room
behind the contents in it (`GlyphCache.trimmed`), which in a buffer that is used again may be larger
(`drawGrid_keeps_room`).

`directCells` has no cache either.  It gives from one cell to the next nothing but the state of the
surface, and agrees with the others where a surface makes of a layout that it has brought up to date
what it makes of a new one (`DrawingSurface.Settles`).  A cell that fails before it comes to the
surface leaves the surface and the table as they are, and where besides the answers of a surface do
not depend on its state (`DrawingSurface.Steady`) what becomes of a cell depends on that cell alone.
On other surfaces a cell that fails can make the next one fail (`drawGrid_keeps_room`).

The two loops become one in `Drawing.rows_value`; the rest is one induction over the cells, with
the invariant `Drawing.Follows`, whose step is `Drawing.Follows.step`.
-/

namespace GlyphGrid

open GlyphCache

variable {C F L S : Type}

/-! ## The cells in order -/

/-- A cell of a grid: where it stands and what it shows. -/
structure GridCell where
  row : Nat
  column : Nat
  text : String

namespace CellGrid

/-- The cells of some rows, the first of which has the given number. -/
def cellsFrom (row : Nat) (grid : CellGrid) : List GridCell :=
  (grid.zipIdx row).flatMap fun r => r.1.zipIdx.map fun c => ⟨r.2, c.2, c.1⟩

/-- The cells of a grid, row by row. -/
def rowMajor (grid : CellGrid) : List GridCell := cellsFrom 0 grid

lemma cellsFrom_cons (row : Nat) (texts : List String) (grid : CellGrid) :
    cellsFrom row (texts :: grid)
      = (texts.zipIdx.map fun c => ⟨row, c.2, c.1⟩) ++ cellsFrom (row + 1) grid := by
  rw [cellsFrom, List.zipIdx_cons, List.flatMap_cons]
  rfl

lemma length_cellsFrom (row : Nat) (grid : CellGrid) :
    (cellsFrom row grid).length = grid.cellCount := by
  induction grid generalizing row with
  | nil => rfl
  | cons texts grid ih =>
    rw [cellsFrom_cons, List.length_append, ih, List.length_map, List.length_zipIdx]
    rfl

/-- The cells of a grid are the texts in it, each at its place. -/
lemma mem_rowMajor (grid : CellGrid) (cell : GridCell) : cell ∈ grid.rowMajor ↔
    ∃ texts, grid[cell.row]? = some texts ∧ texts[cell.column]? = some cell.text := by
  simp only [rowMajor, cellsFrom, List.mem_flatMap, List.mem_map, List.mem_zipIdx_iff_getElem?]
  constructor
  · rintro ⟨r, hrow, c, hcolumn, rfl⟩
    exact ⟨r.1, hrow, hcolumn⟩
  · rintro ⟨texts, hrow, hcolumn⟩
    exact ⟨(texts, cell.row), hrow, (cell.text, cell.column), hcolumn, rfl⟩

end CellGrid

/-- The origin of a cell fits in 32 bits. -/
def GridCell.Fits (cell : GridCell) (width height : Nat) : Prop :=
  cell.column * width < 2 ^ 32 ∧ cell.row * height < 2 ^ 32

instance (cell : GridCell) (width height : Nat) : Decidable (cell.Fits width height) :=
  inferInstanceAs (Decidable (_ ∧ _))

/-- Cells are at least a pixel wide and high, so that the numbers of a cell whose origin fits do
themselves. -/
lemma GridCell.cellOrigin_eq (cell : GridCell) {width height : Nat} (hwidth : 0 < width)
    (hheight : 0 < height) : CellGrid.cellOrigin cell.column cell.row width height =
      if cell.Fits width height then some (cell.column * width, cell.row * height) else none := by
  have hcolumn : cell.column ≤ cell.column * width := Nat.le_mul_of_pos_right _ hwidth
  have hrow : cell.row ≤ cell.row * height := Nat.le_mul_of_pos_right _ hheight
  unfold CellGrid.cellOrigin CellGrid.coordinateLimit
  by_cases hfits : cell.Fits width height
  · obtain ⟨hx, hy⟩ := hfits
    rw [if_pos ⟨hcolumn.trans_lt hx, hx, hrow.trans_lt hy, hy⟩, if_pos ⟨hx, hy⟩]
  · rw [if_neg hfits, if_neg fun h => hfits ⟨h.2.1, h.2.2.2⟩]

/-! ## Visiting cells one by one -/

/-- What becomes of a cell: the answer of its drawing, or nothing where it lies outside the pixel
range. -/
abbrev CellOutcome := Option (Except GlyphError Unit)

/-- Whether a cell was drawn. -/
def isDrawn : CellOutcome → Bool
  | some (.ok _) => true
  | _ => false

namespace GridCell

/-- Draws a cell with a buffer of its own, if its origin fits. -/
def visit (surface : DrawingSurface S F L) (cache : GlyphCache C F L) (state : S)
    (cell : GridCell) : GlyphCache C F L × S × CellOutcome :=
  if cell.Fits cache.width cache.height then
    let r := (cache.drawInPlace surface state (.ofText cell.text) (cell.column * cache.width)
      (cell.row * cache.height)).value
    (r.1, r.2.1, some r.2.2)
  else (cache, state, none)

/-- Draws a cell without a cache, if its origin fits. -/
def direct (engine : ShapingEngine C F L) (context : C) (width height : Nat)
    (surface : DrawingSurface S F L) (state : S) (cell : GridCell) : S × CellOutcome :=
  if cell.Fits width height then
    let r := (drawFresh engine context surface state (.ofText cell.text) (cell.column * width)
      (cell.row * height)).value
    (r.1, some r.2)
  else (state, none)

end GridCell

/-- Draws cells one after the other, each with a buffer of its own. -/
def visitCells (surface : DrawingSurface S F L) (cache : GlyphCache C F L) (state : S) :
    List GridCell → GlyphCache C F L × S × List CellOutcome
  | [] => (cache, state, [])
  | cell :: cells =>
    let r := cell.visit surface cache state
    let rest := visitCells surface r.1 r.2.1 cells
    (rest.1, rest.2.1, r.2.2 :: rest.2.2)

/-- Draws cells one after the other without a cache. -/
def directCells (engine : ShapingEngine C F L) (context : C) (width height : Nat)
    (surface : DrawingSurface S F L) (state : S) : List GridCell → S × List CellOutcome
  | [] => (state, [])
  | cell :: cells =>
    let r := cell.direct engine context width height surface state
    let rest := directCells engine context width height surface r.1 cells
    (rest.1, r.2 :: rest.2)

/-- A surface whose answers do not depend on its state. -/
structure DrawingSurface.Steady (surface : DrawingSurface S F L) : Prop where
  update : ∀ s t layout,
    (surface.updateLayout s layout).value.2 = (surface.updateLayout t layout).value.2
  layout : ∀ s t layout,
    (surface.showLayout s layout).value.2 = (surface.showLayout t layout).value.2
  glyphs : ∀ s t face glyphs,
    (surface.showGlyphs s face glyphs).value.2 = (surface.showGlyphs t face glyphs).value.2

/-- A surface that refuses some kinds of calls refuses them always. -/
lemma steady_recordingSurface (F L : Type) (refused : List FallibleCall) :
    (recordingSurface F L refused).Steady :=
  ⟨fun _ _ _ => rfl, fun _ _ _ => rfl, fun _ _ _ _ => rfl⟩

/-- A surface can have brought a layout to another one. -/
inductive DrawingSurface.Brings (surface : DrawingSurface S F L) : L → L → Prop
  | refl (l : L) : Brings surface l l
  | update {l m n : L} (t : S) (updated : (surface.updateLayout t l).value.2 = .ok m)
      (later : Brings surface m n) : Brings surface l n

/-- A surface makes of the layouts of some texts what it makes of new ones, however often it has
brought them up to date since they were as `renewed` says. -/
def DrawingSurface.Settles (surface : DrawingSurface S F L) (engine : ShapingEngine C F L)
    (context : C) (renewed : List UInt8 → L → L) (texts : List String) : Prop :=
  ∀ text ∈ texts, ∀ s, engine.shape context (CellBuffer.ofText text).text = .ok s →
    (∀ run, s.runs ≠ some [run]) →
      ∀ l, surface.Brings (renewed (CellBuffer.ofText text).content s.layout) l → ∀ t,
        (surface.updateLayout t l).value = (surface.updateLayout t s.layout).value

/-- A surface that answers an update with the layout itself settles what was not renewed. -/
lemma DrawingSurface.settles_of_keeps {surface : DrawingSurface S F L}
    (keeps : ∀ t l, (surface.updateLayout t l).value.2 = .ok l ∨
      ∃ e, (surface.updateLayout t l).value.2 = .error e)
    (engine : ShapingEngine C F L) (context : C) (texts : List String) :
    surface.Settles engine context (fun _ => id) texts := by
  intro text _ s _ _ l hl t
  have hsame : ∀ l m, surface.Brings l m → m = l := by
    intro l m h
    induction h with
    | refl l => rfl
    | update t updated later ih =>
      rw [ih]
      rcases keeps t _ with hkept | ⟨e, he⟩
      · exact Except.ok.inj (updated.symm.trans hkept)
      · rw [he] at updated
        cases updated
  rw [hsame _ l hl]
  rfl

/-- A grid was drawn as its cells one by one, on a table whose layouts are as `renewed` says. -/
structure DrawsRowMajor (engine : ShapingEngine C F L) (renewed : List UInt8 → L → L)
    (font : GlyphCache C F L) (surface : DrawingSurface S F L) (state : S) (grid : CellGrid) :
    Prop where
  /-- The cache is that of visiting the cells, but for the room behind its contents. -/
  cache_eq : (drawGrid font surface state grid).value.1.trimmed
    = (visitCells surface font state grid.rowMajor).1.trimmed
  /-- The room is cleared, and what was in the table before keeps even that. -/
  cleared : font.entries.map (·.key)
      <+: (drawGrid font surface state grid).value.1.entries.map (·.key) ∧
    ∀ e ∈ (drawGrid font surface state grid).value.1.entries, e.glyph.content = e.key ∧
      e.key.storage = e.key.content ++ List.replicate (e.key.capacity - e.key.content.length) 0
  /-- No later drawing tells the two caches apart. -/
  same_later : ∀ {T : Type} (calls : List (CacheCall F L)) (other : DrawingSurface T F L) (t : T)
    (content : CellBuffer) (x y : Nat),
    (((drawGrid font surface state grid).value.1.afterInPlace calls).drawInPlace other t content
        x y).value.2
      = (((visitCells surface font state grid.rowMajor).1.afterInPlace calls).drawInPlace other t
          content x y).value.2
  /-- The surface is that of visiting the cells. -/
  state_eq : (drawGrid font surface state grid).value.2.1
    = (visitCells surface font state grid.rowMajor).2.1
  drawn_eq : (drawGrid font surface state grid).value.2.2.drawn
    = (visitCells surface font state grid.rowMajor).2.2.countP isDrawn
  skipped_eq : (drawGrid font surface state grid).value.2.2.skipped
    = (visitCells surface font state grid.rowMajor).2.2.countP fun o => !isDrawn o
  total_eq : (drawGrid font surface state grid).value.2.2.drawn
    + (drawGrid font surface state grid).value.2.2.skipped = grid.cellCount
  /-- A cell that fails before it comes to the surface leaves the surface and the table as they
  are, wherever it stands. -/
  untouched : ∀ (cells : List GridCell) (cell : GridCell) (s : S),
    ¬ cell.Fits font.width font.height ∨ cell.text = "" ∨
      (∃ e, engine.shape font.context (CellBuffer.ofText cell.text).text = .error e) →
    let before := (visitCells surface font state cells).1
    let visited := cell.visit surface before s
    visited.1.entries = before.entries ∧ visited.2.1 = s
  /-- From one cell to the next goes the state of the surface, and nothing else. -/
  independent : surface.Settles engine font.context renewed grid.flatten →
    (visitCells surface font state grid.rowMajor).2
      = directCells engine font.context font.width font.height surface state grid.rowMajor
  /-- On a steady surface what becomes of a cell depends on that cell alone. -/
  steady : surface.Settles engine font.context renewed grid.flatten → surface.Steady →
    (visitCells surface font state grid.rowMajor).2.2
      = grid.rowMajor.map fun cell =>
        (cell.direct engine font.context font.width font.height surface state).2

/-! ## Visiting and drawing directly -/

namespace GridCell

lemma visit_extendsKeys (surface : DrawingSurface S F L) (cache : GlyphCache C F L) (state : S)
    (cell : GridCell) : cache.ExtendsKeys (cell.visit surface cache state).1 := by
  unfold visit
  split
  · exact cache.drawInPlace_extendsKeys surface state _ _ _
  · exact .refl cache

end GridCell

lemma visitCells_extendsKeys (surface : DrawingSurface S F L) (cache : GlyphCache C F L) (state : S)
    (cells : List GridCell) : cache.ExtendsKeys (visitCells surface cache state cells).1 := by
  induction cells generalizing cache state with
  | nil => exact .refl cache
  | cons cell cells ih => exact (cell.visit_extendsKeys surface cache state).trans (ih _ _)

section

variable {engine : ShapingEngine C F L} {context : C} {attempted : List CellBuffer}
  {renewed : List UInt8 → L → L} {shaped cache : GlyphCache C F L}

lemma DrawingSurface.Brings.of_renewedLayout {surface : DrawingSurface S F L} {state : S}
    {content : CellBuffer} {bytes : List UInt8} {l m : L}
    (h : surface.Brings (renewedLayout surface state content bytes l) m) : surface.Brings l m := by
  unfold renewedLayout at h
  split at h
  · cases hupdate : (surface.updateLayout state l).value.2 with
    | error e =>
      rw [hupdate] at h
      exact h
    | ok later =>
      rw [hupdate] at h
      exact .update state hupdate h
  · exact h

/-- A drawing brings layouts on, and they stay settled. -/
lemma DrawingSurface.Settles.renew {surface : DrawingSurface S F L} {texts : List String}
    (h : surface.Settles engine context renewed texts) (state : S) (content : CellBuffer) :
    surface.Settles engine context
      (fun bytes layout => renewedLayout surface state content bytes (renewed bytes layout))
      texts :=
  fun text htext s hs hmany l hl => h text htext s hs hmany l hl.of_renewedLayout

lemma GridCell.visit_eq_direct {texts : List String}
    (h : Renews engine context attempted renewed shaped cache) {surface : DrawingSurface S F L}
    (hsettles : surface.Settles engine context renewed texts) {cell : GridCell}
    (htext : cell.text ∈ texts) (state : S) : (cell.visit surface cache state).2
      = cell.direct engine context cache.width cache.height surface state := by
  unfold visit direct
  split
  · have hdirect := (drawFresh_mapLayouts (fun s hs hmany =>
      hsettles cell.text htext s hs hmany _ (.refl _)) state (cell.column * cache.width)
        (cell.row * cache.height)).1
    simp only [h.draw_eq, hdirect]
  · rfl

/-- A visit of a cell brings the table of attempts on, and keeps what is settled. -/
lemma GridCell.exists_renews_visit (h : Renews engine context attempted renewed shaped cache)
    (surface : DrawingSurface S F L) (cell : GridCell) (state : S) :
    ∃ attempted later shaped,
      Renews engine context attempted later shaped (cell.visit surface cache state).1 ∧
      ∀ texts, surface.Settles engine context renewed texts →
        surface.Settles engine context later texts := by
  unfold visit
  split
  · exact ⟨_, _, _, h.drawInPlace surface state _ _ _, fun _ hsettles => hsettles.renew _ _⟩
  · exact ⟨_, _, _, h, fun _ hsettles => hsettles⟩

lemma exists_renews_visitCells (h : Renews engine context attempted renewed shaped cache)
    (surface : DrawingSurface S F L) (state : S) (cells : List GridCell) :
    ∃ attempted renewed shaped,
      Renews engine context attempted renewed shaped (visitCells surface cache state cells).1 := by
  induction cells generalizing cache state attempted renewed shaped with
  | nil => exact ⟨_, _, _, h⟩
  | cons cell cells ih =>
    obtain ⟨_, _, _, hnext, -⟩ := cell.exists_renews_visit h surface state
    exact ih hnext _

/-- The cache does not show in the outcome of visiting cells. -/
lemma visitCells_eq_directCells {texts : List String}
    (h : Renews engine context attempted renewed shaped cache) {surface : DrawingSurface S F L}
    (hsettles : surface.Settles engine context renewed texts) (state : S) {cells : List GridCell}
    (htexts : ∀ cell ∈ cells, cell.text ∈ texts) : (visitCells surface cache state cells).2
      = directCells engine context cache.width cache.height surface state cells := by
  induction cells generalizing cache state attempted renewed shaped with
  | nil => rfl
  | cons cell cells ih =>
    rw [List.forall_mem_cons] at htexts
    obtain ⟨_, _, _, hnext, hsettled⟩ := cell.exists_renews_visit h surface state
    have hfont := cell.visit_extendsKeys surface cache state
    have hrest := ih hnext (hsettled texts hsettles) (cell.visit surface cache state).2.1 htexts.2
    rw [hfont.width_eq, hfont.height_eq] at hrest
    rw [directCells, ← cell.visit_eq_direct h hsettles htexts.1, ← hrest]
    rfl

end

/-! ### Cells that stay apart -/

/-- A cell without an origin, a text or a shape does not come to the surface. -/
lemma GridCell.visit_untouched {engine : ShapingEngine C F L} {context : C}
    {attempted : List CellBuffer} {renewed : List UInt8 → L → L} {shaped cache : GlyphCache C F L}
    (h : Renews engine context attempted renewed shaped cache) (surface : DrawingSurface S F L)
    (state : S) {cell : GridCell} (fails : ¬ cell.Fits cache.width cache.height ∨ cell.text = "" ∨
      ∃ e, engine.shape context (CellBuffer.ofText cell.text).text = .error e) :
    (cell.visit surface cache state).1.entries = cache.entries ∧
      (cell.visit surface cache state).2.1 = state := by
  unfold visit
  split
  · next hfits =>
    obtain ⟨e, answer⟩ : ∃ e, (cache.lookup (.ofText cell.text)).value.2 = .error e := by
      cases answer : (cache.lookup (.ofText cell.text)).value.2 with
      | error e => exact ⟨e, rfl⟩
      | ok slot =>
        obtain ⟨nonempty, -, s, hs, -⟩ := h.glyph_of_lookup_eq_ok answer
        rcases fails with hout | hempty | ⟨e, he⟩
        · exact absurd hfits hout
        · rw [hempty] at nonempty
          exact absurd rfl nonempty
        · rw [hs] at he
          cases he
    simp only [drawInPlace_value, draw_value, answer, and_true]
    obtain ⟨-, -, hcache⟩ | ⟨-, -, hcache⟩ := lookup_of_error answer
    · rw [hcache]
    · rw [hcache]
      rfl
  · exact ⟨rfl, rfl⟩

namespace DrawingSurface.Steady

variable {surface : DrawingSurface S F L}

lemma paintAt_eq (h : surface.Steady) (s : ShapedCluster F L) (baseline : Int) (a b : S)
    (x y : Nat) :
    (s.paintAt baseline surface a x y).value.2 = (s.paintAt baseline surface b x y).value.2 := by
  unfold ShapedCluster.paintAt
  split
  · exact h.glyphs _ _ _ _
  · have hupdate := h.update (surface.moveTo a x y) (surface.moveTo b x y) s.layout
    rw [Noted.value_bind, Noted.value_bind]
    generalize (surface.updateLayout (surface.moveTo a x y) s.layout).value = ra at hupdate ⊢
    generalize (surface.updateLayout (surface.moveTo b x y) s.layout).value = rb at hupdate ⊢
    rcases ra with ⟨a', ea | la⟩ <;> rcases rb with ⟨b', eb | lb⟩
    · have hsame : ea = eb := Except.error.inj hupdate
      rw [hsame]
      rfl
    · cases hupdate
    · cases hupdate
    · have hsame : la = lb := Except.ok.inj hupdate
      rw [hsame]
      exact h.layout a' b' lb

lemma direct_eq (h : surface.Steady) (engine : ShapingEngine C F L) (context : C)
    (width height : Nat) (cell : GridCell) (a b : S) :
    (cell.direct engine context width height surface a).2
      = (cell.direct engine context width height surface b).2 := by
  unfold GridCell.direct
  split
  · unfold drawFresh drawBy
    split
    · rfl
    · split
      · rfl
      · exact congrArg some (h.paintAt_eq _ _ a b _ _)
  · rfl

/-- On a steady surface every cell has the outcome that it would have alone. -/
lemma directCells_eq_map (h : surface.Steady) (engine : ShapingEngine C F L) (context : C)
    (width height : Nat) (start state : S) (cells : List GridCell) :
    (directCells engine context width height surface state cells).2
      = cells.map fun cell => (cell.direct engine context width height surface start).2 := by
  induction cells generalizing state with
  | nil => rfl
  | cons cell cells ih =>
    rw [directCells, List.map_cons, ih, h.direct_eq engine context width height cell state start]

end DrawingSurface.Steady

/-! ## The loop -/

/-- One more cell. -/
def DrawCount.add (n : DrawCount) (outcome : CellOutcome) : DrawCount :=
  if isDrawn outcome then ⟨n.drawn + 1, n.skipped⟩ else ⟨n.drawn, n.skipped + 1⟩

lemma DrawCount.foldl_add (n : DrawCount) (outcomes : List CellOutcome) :
    outcomes.foldl add n = ⟨n.drawn + outcomes.countP isDrawn,
      n.skipped + outcomes.countP fun o => !isDrawn o⟩ := by
  induction outcomes generalizing n with
  | nil => rfl
  | cons outcome outcomes ih =>
    rw [List.foldl_cons, ih, List.countP_cons, List.countP_cons, add]
    cases isDrawn outcome
    · simp only [Bool.false_eq_true, if_false, Bool.not_false, if_true, mk.injEq]
      omega
    · simp only [if_true, Bool.not_true, Bool.false_eq_true, if_false, mk.injEq]
      omega

/-- A cell that was not drawn was left out. -/
lemma countP_isDrawn_add (outcomes : List CellOutcome) :
    outcomes.countP isDrawn + outcomes.countP (fun o => !isDrawn o) = outcomes.length := by
  rw [List.length_eq_countP_add_countP isDrawn]
  congr 2
  funext outcome
  cases isDrawn outcome <;> rfl

namespace Drawing

variable (surface : DrawingSurface S F L)

/-- A cell is drawn with the buffer of all cells, filled with its text. -/
lemma cell_value (d : Drawing C F L S) (cell : GridCell) (hwidth : 0 < d.cache.width)
    (hheight : 0 < d.cache.height) :
    (d.cell surface cell.row cell.column cell.text).value =
      if cell.Fits d.cache.width d.cache.height then
        let r := (d.cache.drawInPlace surface d.state (d.buffer.fill cell.text)
          (cell.column * d.cache.width) (cell.row * d.cache.height)).value
        ⟨r.1, r.2.1, d.buffer.fill cell.text, d.count.add (some r.2.2)⟩
      else ⟨d.cache, d.state, d.buffer, d.count.add none⟩ := by
  unfold Drawing.cell
  rw [cell.cellOrigin_eq hwidth hheight]
  by_cases hfits : cell.Fits d.cache.width d.cache.height
  · rw [if_pos hfits, if_pos hfits]
    simp only [Noted.value_bind]
    rcases (d.cache.drawInPlace surface d.state (d.buffer.fill cell.text)
      (cell.column * d.cache.width) (cell.row * d.cache.height)).value with ⟨cache, s, e | ⟨⟩⟩
    · rfl
    · rfl
  · rw [if_neg hfits, if_neg hfits]
    rfl

/-- One cell of the loop. -/
def step (d : Drawing C F L S) (cell : GridCell) : Drawing C F L S :=
  (d.cell surface cell.row cell.column cell.text).value

lemma cells_value (row column : Nat) (d : Drawing C F L S) (texts : List String) :
    (cells surface row column d texts).value =
      ((texts.zipIdx column).map fun c => ⟨row, c.2, c.1⟩).foldl (step surface) d := by
  induction texts generalizing column d with
  | nil => rfl
  | cons text texts ih =>
    rw [cells, Noted.value_bind, ih]
    rfl

/-- The two loops are one over the cells in row-major order. -/
lemma rows_value (row : Nat) (d : Drawing C F L S) (grid : CellGrid) :
    (rows surface row d grid).value = (CellGrid.cellsFrom row grid).foldl (step surface) d := by
  induction grid generalizing row d with
  | nil => rfl
  | cons texts grid ih =>
    rw [rows, Noted.value_bind, ih, cells_value, CellGrid.cellsFrom_cons, List.foldl_append]

/-- A grid in the course of being drawn, and a cache and a surface that are visited cell by cell:
they agree but for the room behind contents. -/
structure Follows (engine : ShapingEngine C F L) (context : C) (d : Drawing C F L S)
    (cache : GlyphCache C F L) (state : S) : Prop where
  alike : Alike engine context d.cache cache
  state_eq : d.state = state
  width_pos : 0 < cache.width
  height_pos : 0 < cache.height

namespace Follows

variable {engine : ShapingEngine C F L} {context : C} {d : Drawing C F L S}
  {cache : GlyphCache C F L} {state : S}

lemma size_eq (h : Follows engine context d cache state) :
    d.cache.width = cache.width ∧ d.cache.height = cache.height := by
  have htrimmed := h.alike.trimmed_eq
  constructor
  · rw [← GlyphCache.width_trimmed d.cache, htrimmed, GlyphCache.width_trimmed]
  · rw [← GlyphCache.height_trimmed d.cache, htrimmed, GlyphCache.height_trimmed]

/-- A cell of the loop does what a visit of the cell does. -/
lemma step (h : Follows engine context d cache state) (cell : GridCell) :
    Follows engine context (d.step surface cell) (cell.visit surface cache state).1
        (cell.visit surface cache state).2.1 ∧
      (d.step surface cell).count = d.count.add (cell.visit surface cache state).2.2 ∧
      d.cache.ExtendsKeys (d.step surface cell).cache := by
  obtain ⟨hwidth, hheight⟩ := h.size_eq
  have hfont := cell.visit_extendsKeys surface cache state
  have hwidth_pos : 0 < (cell.visit surface cache state).1.width := hfont.width_eq ▸ h.width_pos
  have hheight_pos : 0 < (cell.visit surface cache state).1.height :=
    hfont.height_eq ▸ h.height_pos
  rw [Drawing.step, cell_value surface d cell (hwidth ▸ h.width_pos) (hheight ▸ h.height_pos),
    hwidth, hheight]
  by_cases hfits : cell.Fits cache.width cache.height
  · -- Only the content of the buffer shows on the surface.
    obtain ⟨halike, hdraw⟩ := h.alike.drawInPlace (d.buffer.content_fill_eq_ofText cell.text)
      surface state (cell.column * cache.width) (cell.row * cache.height)
    have hgrow := d.cache.drawInPlace_extendsKeys surface state (d.buffer.fill cell.text)
      (cell.column * cache.width) (cell.row * cache.height)
    have hvisit : cell.visit surface cache state =
        let r := (cache.drawInPlace surface state (.ofText cell.text) (cell.column * cache.width)
          (cell.row * cache.height)).value
        (r.1, r.2.1, some r.2.2) := if_pos hfits
    rw [hvisit] at hwidth_pos hheight_pos ⊢
    rw [if_pos hfits, h.state_eq]
    refine ⟨⟨halike, ?_, hwidth_pos, hheight_pos⟩, ?_, hgrow⟩
    · simp only [hdraw]
    · simp only [hdraw]
  · have hvisit : cell.visit surface cache state = (cache, state, none) := if_neg hfits
    rw [if_neg hfits, hvisit]
    exact ⟨⟨h.alike, h.state_eq, h.width_pos, h.height_pos⟩, rfl, .refl d.cache⟩

/-- The loop does what visiting the cells does. -/
lemma run (h : Follows engine context d cache state) (cells : List GridCell) :
    let r := visitCells surface cache state cells
    Follows engine context (cells.foldl (Drawing.step surface) d) r.1 r.2.1 ∧
      (cells.foldl (Drawing.step surface) d).count = r.2.2.foldl DrawCount.add d.count ∧
      d.cache.ExtendsKeys (cells.foldl (Drawing.step surface) d).cache := by
  induction cells generalizing d cache state with
  | nil => exact ⟨h, rfl, .refl d.cache⟩
  | cons cell cells ih =>
    obtain ⟨hnext, hcount, hgrow⟩ := h.step surface cell
    obtain ⟨hlast, hcounts, hgrows⟩ := ih hnext
    refine ⟨hlast, ?_, hgrow.trans hgrows⟩
    rw [List.foldl_cons, hcounts, hcount]
    rfl

end Follows
end Drawing

/-! ## Drawing a grid -/

lemma length_visitCells (surface : DrawingSurface S F L) (cache : GlyphCache C F L) (state : S)
    (cells : List GridCell) : (visitCells surface cache state cells).2.2.length = cells.length := by
  induction cells generalizing cache state with
  | nil => rfl
  | cons cell cells ih => rw [visitCells, List.length_cons, ih, List.length_cons]

lemma drawGrid_value (cache : GlyphCache C F L) (surface : DrawingSurface S F L) (state : S)
    (grid : CellGrid) : (drawGrid cache surface state grid).value =
      let d := grid.rowMajor.foldl (Drawing.step surface) ⟨cache, state, .empty, ⟨0, 0⟩⟩
      (d.cache, d.state, d.count) := by
  unfold drawGrid
  simp only [Noted.value_bind, Drawing.rows_value]
  rfl

lemma CellGrid.mem_flatten_of_mem_rowMajor {grid : CellGrid} {cell : GridCell}
    (h : cell ∈ grid.rowMajor) : cell.text ∈ grid.flatten := by
  obtain ⟨texts, hrow, hcolumn⟩ := (grid.mem_rowMajor cell).mp h
  exact List.mem_flatten.mpr ⟨texts, List.mem_of_getElem? hrow, List.mem_of_getElem? hcolumn⟩

/-- **A grid is its cells, one by one.**  Whatever calls a font has answered, drawing a grid on any
surface has the outcome of drawing its cells in row-major order, each with a buffer of its own, but
for the room behind the contents in the table. -/
theorem drawGrid_rowMajor {engine : ShapingEngine C F L} {height : Nat}
    {cache : GlyphCache C F L} (created : (create engine height).value = .ok cache)
    (calls : List (CacheCall F L)) (surface : DrawingSurface S F L) (state : S)
    (grid : CellGrid) :
    DrawsRowMajor engine (renewedBy calls) (cache.afterInPlace calls) surface state grid := by
  have hnew := isNew_of_create created
  have hrenews := hnew.renews_after calls
  have hfont := (cache.after_extends calls).extendsKeys.trans
    ((cache.after calls).mapLayouts_extendsKeys (renewedBy calls))
  rw [← hrenews.eq_mapLayouts] at hfont
  have hstart : Drawing.Follows engine cache.context
      ⟨cache.afterInPlace calls, state, .empty, ⟨0, 0⟩⟩ (cache.afterInPlace calls) state :=
    ⟨.of_renews hrenews, rfl, hfont.width_eq ▸ hnew.width_pos,
      hfont.height_eq ▸ hnew.font_eq.2 ▸ hnew.height_pos⟩
  obtain ⟨hlast, hcount, hgrow⟩ := hstart.run surface grid.rowMajor
  have hvalue := drawGrid_value (cache.afterInPlace calls) surface state grid
  have hdirect : surface.Settles engine (cache.afterInPlace calls).context (renewedBy calls)
      grid.flatten → _ := fun hsettles => visitCells_eq_directCells (hfont.context_eq ▸ hrenews)
        hsettles state fun cell hcell => CellGrid.mem_flatten_of_mem_rowMajor hcell
  rw [DrawCount.foldl_add] at hcount
  constructor
  case cache_eq =>
    rw [hvalue]
    exact hlast.alike.trimmed_eq
  case cleared =>
    rw [hvalue]
    obtain ⟨_, _, _, _, _, hlast_renews, -⟩ := hlast.alike
    exact ⟨hgrow.keys_kept, fun e he => hlast_renews.key_storage he⟩
  case same_later =>
    intro T later other t content x y
    rw [hvalue]
    exact ((hlast.alike.afterInPlace later).drawInPlace rfl other t x y).2
  case state_eq =>
    rw [hvalue]
    exact hlast.state_eq
  case drawn_eq =>
    rw [hvalue]
    simp only [hcount, Nat.zero_add]
  case skipped_eq =>
    rw [hvalue]
    simp only [hcount, Nat.zero_add]
  case total_eq =>
    rw [hvalue]
    simp only [hcount, Nat.zero_add]
    rw [countP_isDrawn_add, length_visitCells]
    exact CellGrid.length_cellsFrom 0 grid
  case untouched =>
    intro cells cell s fails
    obtain ⟨_, _, _, hbefore⟩ := exists_renews_visitCells hrenews surface state cells
    have hsame := visitCells_extendsKeys surface (cache.afterInPlace calls) state cells
    rw [← hsame.width_eq, ← hsame.height_eq, hfont.context_eq] at fails
    exact cell.visit_untouched hbefore surface s fails
  case independent => exact hdirect
  case steady =>
    intro hsettles hsteady
    rw [hdirect hsettles]
    exact hsteady.directCells_eq_map engine _ _ _ state state grid.rowMajor

/-- A longer cell comes first, then one that is refused, an empty one and one whose layout the
surface refuses; a row without cells lies before the last cell, which is drawn as if alone. -/
theorem drawGrid_rowMajor_of_failures :
    ∃ cache, (create sampleScript.engine 16).value = .ok cache ∧
      let font := cache.afterInPlace [.lookup (.ofText "fi")]
      let surface := recordingSurface String String [.layout]
      let grid : CellGrid := [["xy", "?", "", "fi"], [], ["a"]]
      let r := (drawGrid font surface [] grid).value
      r.2.2.drawn = 2 ∧ r.2.2.skipped = 3 ∧ r.2.1 =
        [.move 0 13, .glyphs "F16.0" ⟨[⟨120, 0, 8192, 0, 0⟩, ⟨121, 1, 8192, 0, 0⟩]⟩,
          .move 24 0, .update "L:fi", .layout "L:fi",
          .move 0 45, .glyphs "F16.0" ⟨[⟨97, 0, 8192, 0, 0⟩]⟩] ∧
      (visitCells surface font [] grid.rowMajor).2.2[4]?
        = some (GridCell.direct sampleScript.engine 16 8 16 surface [] ⟨2, 0, "a"⟩).2 := by
  obtain ⟨cache, hcache, hwidth⟩ := exists_sampleFont
  have hdraws := drawGrid_rowMajor hcache [.lookup (.ofText "fi")]
    (recordingSurface String String [.layout]) [] [["xy", "?", "", "fi"], [], ["a"]]
  have hnew := isNew_of_create hcache
  have hfont := (cache.after_extends [.lookup (.ofText "fi")])
  have hcontext : (cache.afterInPlace [.lookup (.ofText "fi")]).context = 16 :=
    hfont.context_eq.trans (Except.ok.inj hnew.context_ok).symm
  have hsettles : (recordingSurface String String [.layout]).Settles sampleScript.engine
      (cache.afterInPlace [.lookup (.ofText "fi")]).context (fun _ => id)
      [["xy", "?", "", "fi"], [], ["a"]].flatten :=
    DrawingSurface.settles_of_keeps (fun _ _ => .inl rfl) _ _ _
  have hdirect := hdraws.independent hsettles
  have halone := hdraws.steady hsettles (steady_recordingSurface String String [.layout])
  have hsize : (cache.afterInPlace [.lookup (.ofText "fi")]).width = 8 ∧
      (cache.afterInPlace [.lookup (.ofText "fi")]).height = 16 :=
    ⟨hfont.width_eq.trans hwidth, hfont.height_eq.trans hnew.font_eq.2⟩
  rw [hcontext, hsize.1, hsize.2] at hdirect halone
  refine ⟨cache, hcache, ?_, ?_, ?_, ?_⟩
  · rw [hdraws.drawn_eq, hdirect]
    decide +kernel
  · rw [hdraws.skipped_eq, hdirect]
    decide +kernel
  · rw [hdraws.state_eq, hdirect]
    with_unfolding_all rfl
  · rw [halone]
    rfl

/-- A surface that paints no layout, and nothing more once it was asked to. -/
def brittleSurface : DrawingSurface Bool String String where
  moveTo broken _ _ := broken
  updateLayout broken l := pure (broken, .ok l)
  showLayout _ _ := pure (true, .error (.inconsistent "no layouts"))
  showGlyphs broken _ _ :=
    pure (broken, if broken then .error (.inconsistent "broken") else .ok ())

/-- The buffer of all cells leaves more room behind a content than a new one, and on a surface that
breaks a cell that fails makes the next one fail. -/
theorem drawGrid_keeps_room :
    ∃ cache, (create sampleScript.engine 16).value = .ok cache ∧
      (∃ e ∈ (drawGrid cache brittleSurface false [["é"]]).value.1.entries,
        e.key.content = [195, 169] ∧ e.glyph.content.capacity = 6) ∧
      (∃ e ∈ (visitCells brittleSurface cache false (CellGrid.rowMajor [["é"]])).1.entries,
        e.key.content = [195, 169] ∧ e.glyph.content.capacity = 2) ∧
      (visitCells brittleSurface cache false (CellGrid.rowMajor [["fi", "a"]])).2.2
        = [some (.error (.inconsistent "no layouts")), some (.error (.inconsistent "broken"))] ∧
      (visitCells brittleSurface cache false (CellGrid.rowMajor [["", "a"]])).2.2
        = [some (.error (.invalidArgument .emptyContent)), some (.ok ())] := by
  obtain ⟨cache, hcache, hwidth⟩ := exists_sampleFont
  have hnew := isNew_of_create hcache
  have hrenews := Renews.of_records hnew.records
  have hcontext : cache.context = 16 := (Except.ok.inj hnew.context_ok).symm
  -- The first content with these bytes is that of the drawing.
  have hentry {content : CellBuffer} (hbytes : content.content = [195, 169])
      (hfirst : (measured ++ [content]).find? (fun b => b.content == [195, 169]
        && (sampleScript.engine.shape 16 b.text).isOk) = some content) :
      ∃ e ∈ (cache.drawInPlace brittleSurface false content 0 0).value.1.entries,
        e.key.content = [195, 169] ∧ e.glyph.content.capacity = content.capacity := by
    have hdrawn := hrenews.drawInPlace brittleSurface false content 0 0
    have hshape : ∃ s, sampleScript.engine.shape cache.context content.text = .ok s :=
      ⟨_, by rw [hcontext, CellBuffer.text_congr (b := .ofText "é") hbytes]; rfl⟩
    obtain ⟨s, hs⟩ := hshape
    have hmem := hdrawn.records.complete content (List.mem_append_right _ List.mem_cons_self)
      (by rw [hbytes]; decide) s hs
    rw [← keys_mapLayouts _ (fun bytes layout => _), ← hdrawn.eq_mapLayouts, hbytes] at hmem
    obtain ⟨e, he, hkey⟩ := mem_keys.mp hmem
    obtain ⟨first, hfound, hcapacity⟩ := (hdrawn.wellFormed.fits e he).capacity_eq
    rw [hkey, hcontext, hfirst] at hfound
    exact ⟨e, he, hkey, by rw [hcapacity, Option.some.inj hfound]⟩
  have hsettles (grid : CellGrid) : brittleSurface.Settles sampleScript.engine cache.context
      (fun _ => id) grid.flatten :=
    DrawingSurface.settles_of_keeps (fun _ _ => .inl rfl) _ _ _
  have hdirect (grid : CellGrid) := visitCells_eq_directCells hrenews
    (hsettles grid) false
    fun _ hcell => CellGrid.mem_flatten_of_mem_rowMajor hcell
  rw [hcontext, hwidth, hnew.font_eq.2] at hdirect
  refine ⟨cache, hcache, ?_, ?_, ?_, ?_⟩
  · have hgrid : (drawGrid cache brittleSurface false [["é"]]).value.1
        = (cache.drawInPlace brittleSurface false (CellBuffer.empty.fill "é") 0 0).value.1 := by
      rw [drawGrid_value]
      change (Drawing.step brittleSurface _ ⟨0, 0, "é"⟩).cache = _
      rw [Drawing.step, Drawing.cell_value _ _ ⟨0, 0, "é"⟩ hnew.width_pos hnew.cache_height_pos,
        if_pos ⟨by simp, by simp⟩]
      simp only [Nat.zero_mul]
    rw [hgrid]
    exact hentry rfl rfl
  · have hgrid : (visitCells brittleSurface cache false (CellGrid.rowMajor [["é"]])).1
        = (cache.drawInPlace brittleSurface false (.ofText "é") 0 0).value.1 := by
      change (GridCell.visit brittleSurface cache false ⟨0, 0, "é"⟩).1 = _
      rw [GridCell.visit, if_pos ⟨by simp, by simp⟩]
      simp only [Nat.zero_mul]
    rw [hgrid]
    exact hentry rfl rfl
  · rw [hdirect [["fi", "a"]]]
    with_unfolding_all rfl
  · rw [hdirect [["", "a"]]]
    with_unfolding_all rfl

end GlyphGrid
