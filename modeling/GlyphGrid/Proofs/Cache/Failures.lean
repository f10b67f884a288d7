import GlyphGrid.Proofs.Cache.Entries

/-!
# Failures leave nothing half done

A lookup that fails has entered nothing, and a drawing that fails has stopped at the failure.
`FailsCleanly` is this of a cache, for every content and every surface: the lookup comes first and
is all that changes the cache, so that an entry stays that was made for a drawing which the surface
then refuses, and the surface is not called at all if the lookup fails.  A drawing in place changes
one thing more, the layout of its own content (`drawInPlace_eq_draw`).

To see where a drawing stops, `DrawingSurface.answered` keeps each call together with the error that
it was answered with.  `EndsAs` relates such a log to the answer of the drawing: no call has failed,
or the last one alone, and its error is the answer.
-/

namespace GlyphGrid

variable {C F L S : Type}

/-! ## Answers made visible -/

/-- A call that a surface received, and the error that it answered with. -/
structure AnsweredCall (F L : Type) where
  call : SurfaceCall F L
  error? : Option GlyphError

/-- The error of an answer. -/
def errorOf {α : Type} : Except GlyphError α → Option GlyphError
  | .ok _ => none
  | .error e => some e

/-- The surface that keeps, besides its state, the calls that it has received and its answers. -/
def DrawingSurface.answered (surface : DrawingSurface S F L) :
    DrawingSurface (S × List (AnsweredCall F L)) F L where
  moveTo s x y := (surface.moveTo s.1 x y, s.2 ++ [⟨.move x y, none⟩])
  updateLayout s layout := do
    let (state, result) ← surface.updateLayout s.1 layout
    pure ((state, s.2 ++ [⟨.update layout, errorOf result⟩]), result)
  showLayout s layout := do
    let (state, result) ← surface.showLayout s.1 layout
    pure ((state, s.2 ++ [⟨.layout layout, errorOf result⟩]), result)
  showGlyphs s face glyphs := do
    let (state, result) ← surface.showGlyphs s.1 face glyphs
    pure ((state, s.2 ++ [⟨.glyphs face glyphs, errorOf result⟩]), result)

/-- No call has failed. -/
def AllAnswered (log : List (AnsweredCall F L)) : Prop := ∀ c ∈ log, c.error? = none

lemma AllAnswered.snoc {log : List (AnsweredCall F L)} (h : AllAnswered log)
    (call : SurfaceCall F L) : AllAnswered (log ++ [⟨call, none⟩]) := by
  intro c hc
  rcases List.mem_append.mp hc with hold | hlast
  · exact h c hold
  · rw [List.mem_singleton.mp hlast]

/-- How the calls of a drawing go with its answer. -/
inductive EndsAs : List (AnsweredCall F L) → Except GlyphError Unit → Prop
  | ok {log : List (AnsweredCall F L)} (answered : AllAnswered log) : EndsAs log (.ok ())
  /-- The call that fails is the last one, and its error is the answer. -/
  | error {before : List (AnsweredCall F L)} (answered : AllAnswered before)
      (call : SurfaceCall F L) (e : GlyphError) : EndsAs (before ++ [⟨call, some e⟩]) (.error e)

/-- A drawing is answered as its last call is. -/
lemma AllAnswered.endsAs {before : List (AnsweredCall F L)} (h : AllAnswered before)
    (call : SurfaceCall F L) (result : Except GlyphError Unit) :
    EndsAs (before ++ [⟨call, errorOf result⟩]) result := by
  cases result with
  | error e => exact .error h call e
  | ok _ => exact .ok (h.snoc call)

namespace DrawingSurface

variable (surface : DrawingSurface S F L) (state : S) (log : List (AnsweredCall F L))

/-- No surface refuses a move of its cursor. -/
lemma answered_moveTo (x y : Rat) : AllAnswered (surface.answered.moveTo (state, []) x y).2 :=
  AllAnswered.snoc (fun _ hc => absurd hc List.not_mem_nil) _

lemma answered_updateLayout (layout : L) :
    (surface.answered.updateLayout (state, log) layout).value
      = (((surface.updateLayout state layout).value.1,
          log ++ [⟨.update layout, errorOf (surface.updateLayout state layout).value.2⟩]),
        (surface.updateLayout state layout).value.2) := rfl

lemma answered_showLayout (layout : L) :
    (surface.answered.showLayout (state, log) layout).value
      = (((surface.showLayout state layout).value.1,
          log ++ [⟨.layout layout, errorOf (surface.showLayout state layout).value.2⟩]),
        (surface.showLayout state layout).value.2) := rfl

end DrawingSurface

/-- The answered calls of painting a cluster end as the painting does. -/
lemma ShapedCluster.paintAt_answered (s : ShapedCluster F L) (baseline : Int)
    (surface : DrawingSurface S F L) (state : S) (x y : Nat) :
    let result := (s.paintAt baseline surface state x y).value
    ∃ log, (s.paintAt baseline surface.answered (state, []) x y).value
        = ((result.1, log), result.2) ∧ EndsAs log result.2 := by
  unfold ShapedCluster.paintAt
  split
  · next run hrun =>
    exact ⟨_, rfl, (surface.answered_moveTo _ _ _).endsAs (.glyphs run.face run.glyphs) _⟩
  · have hmoved := surface.answered_moveTo state x y
    simp only [Noted.value_bind]
    generalize hmove : surface.answered.moveTo (state, []) x y = moved at hmoved ⊢
    obtain ⟨start, log⟩ := moved
    have hstart : surface.moveTo state x y = start := congrArg Prod.fst hmove
    rw [surface.answered_updateLayout, hstart]
    generalize (surface.updateLayout start s.layout).value = update
    obtain ⟨later, e | layout⟩ := update
    · exact ⟨_, rfl, .error hmoved (.update s.layout) e⟩
    · exact ⟨_, surface.answered_showLayout later _ layout,
        (hmoved.snoc (.update s.layout)).endsAs (.layout layout) _⟩

namespace GlyphCache

/-! ## Failures -/

/-- What a failure leaves behind, in a cache whose engine and context are given. -/
structure FailsCleanly (engine : ShapingEngine C F L) (context : C) (cache : GlyphCache C F L) :
    Prop where
  /-- A lookup that fails changes no entry.  Either the content is empty, and the engine was not
  asked, or it was asked once, and the error is its own. -/
  lookup_error : ∀ content e, (cache.lookup content).value.2 = .error e →
    let later := (cache.lookup content).value.1
    later.entries = cache.entries ∧ later.width = cache.width ∧ later.height = cache.height ∧
      later.engine = cache.engine ∧ later.context = cache.context ∧
      ((content.content = [] ∧ e = .invalidArgument .emptyContent ∧
          later.shapings = cache.shapings) ∨
        (content.content ≠ [] ∧ engine.shape context content.text = .error e ∧
          later.shapings = cache.shapings + 1))
  /-- A drawing whose lookup fails does not come to the surface. -/
  draw_of_lookup_error : ∀ {S : Type} (surface : DrawingSurface S F L) (state : S)
    (content : CellBuffer) (x y : Nat) e, (cache.lookup content).value.2 = .error e →
      (cache.draw surface state content x y).value
        = ((cache.lookup content).value.1, state, .error e) ∧
      (cache.draw surface.answered (state, []) content x y).value
        = ((cache.lookup content).value.1, (state, []), .error e)
  /-- Any other drawing leaves the cache that the lookup leaves, with the content in its table, and
  ends with the first call that the surface refuses. -/
  draw_of_lookup_ok : ∀ {S : Type} (surface : DrawingSurface S F L) (state : S)
    (content : CellBuffer) (x y : Nat) slot, (cache.lookup content).value.2 = .ok slot →
      (cache.lookup content).value.1.slot? content = some slot ∧
      ∃ later log result,
        (cache.draw surface state content x y).value
          = ((cache.lookup content).value.1, later, result) ∧
        (cache.draw surface.answered (state, []) content x y).value
          = ((cache.lookup content).value.1, (later, log), result) ∧
        EndsAs log result
  /-- Drawing in place answers alike, and of the table it changes the layout of its own content
  alone, which it keeps as it was if the surface refuses to bring it up to date. -/
  drawInPlace_eq : ∀ {S : Type} (surface : DrawingSurface S F L) (state : S)
    (content : CellBuffer) (x y : Nat),
      (cache.drawInPlace surface state content x y).value
        = ((cache.draw surface state content x y).value.1.mapLayouts
            (renewedLayout surface (surface.moveTo state x y) content),
          (cache.draw surface state content x y).value.2)

/-- All that matters is that what a lookup finds is the shape of something, with whatever layout. -/
lemma failsCleanly_of_shapes {engine : ShapingEngine C F L} {context : C} {cache : GlyphCache C F L}
    (engine_eq : cache.engine = engine) (context_eq : cache.context = context)
    (nodup : ∀ content, (cache.lookup content).value.1.keys.Nodup)
    (shapes : ∀ content slot, (cache.lookup content).value.2 = .ok slot →
      ∃ first s, slot.glyph = (CacheEntry.ofShape first s).glyph) :
    FailsCleanly engine context cache where
  lookup_error := by
    intro content e answer
    obtain ⟨isEmpty, herror, hcache⟩ | ⟨nonempty, refused, hcache⟩ := lookup_of_error answer
    · rw [hcache]
      exact ⟨rfl, rfl, rfl, rfl, rfl, .inl ⟨isEmpty, herror, rfl⟩⟩
    · rw [engine_eq, context_eq] at refused
      rw [hcache]
      exact ⟨rfl, rfl, rfl, rfl, rfl, .inr ⟨nonempty, refused, shapings_request cache _⟩⟩
  draw_of_lookup_error := by
    intro S surface state content x y e answer
    rw [draw_value, draw_value, answer]
    exact ⟨rfl, rfl⟩
  draw_of_lookup_ok := by
    intro S surface state content x y slot answer
    obtain ⟨first, s, hglyph⟩ := shapes content slot answer
    obtain ⟨log, hpaint, hends⟩ := s.paintAt_answered s.baselinePixels surface state x y
    refine ⟨slot?_of_lookup_eq_ok answer, (s.paintAt s.baselinePixels surface state x y).value.1,
      log, (s.paintAt s.baselinePixels surface state x y).value.2, ?_, ?_, hends⟩
    · rw [draw_value, answer]
      simp only [hglyph, paint_ofShape]
    · rw [draw_value, answer]
      simp only [hglyph, paint_ofShape, hpaint]
  drawInPlace_eq := fun surface state content x y =>
    drawInPlace_eq_draw (nodup content) surface state x y

lemma Records.failsCleanly {engine : ShapingEngine C F L} {context : C}
    {attempted : List CellBuffer} {cache : GlyphCache C F L}
    (h : Records engine context attempted cache) : FailsCleanly engine context cache := by
  refine failsCleanly_of_shapes h.engine_eq h.context_eq (fun content => (h.lookup content).nodup)
    ?_
  intro content slot answer
  obtain ⟨-, first, s, -, -, hglyph⟩ := h.glyph_of_lookup_eq_ok answer
  exact ⟨first, s, hglyph⟩

lemma Renews.failsCleanly {engine : ShapingEngine C F L} {context : C}
    {attempted : List CellBuffer} {renewed : List UInt8 → L → L} {shaped cache : GlyphCache C F L}
    (h : Renews engine context attempted renewed shaped cache) :
    FailsCleanly engine context cache := by
  refine failsCleanly_of_shapes (by rw [h.eq_mapLayouts]; exact h.records.engine_eq)
    (by rw [h.eq_mapLayouts]; exact h.records.context_eq) ?_ ?_
  · intro content
    rw [(h.lookup content).eq_mapLayouts, keys_mapLayouts]
    exact (h.lookup content).records.nodup
  · intro content slot answer
    obtain ⟨-, first, s, -, hglyph⟩ := h.glyph_of_lookup_eq_ok answer
    exact ⟨first, _, hglyph⟩

/-- **Failures leave nothing half done.**  Whatever calls a font has answered, a lookup that fails
leaves the table as it was, and a drawing that fails leaves the cache as a lookup does and ends with
the failure; so it is too if the calls were drawings in place. -/
theorem failsCleanly_after {engine : ShapingEngine C F L} {height : Nat} {cache : GlyphCache C F L}
    (created : (create engine height).value = .ok cache) (calls : List (CacheCall F L)) :
    FailsCleanly engine cache.context (cache.after calls) ∧
      FailsCleanly engine cache.context (cache.afterInPlace calls) := by
  have hnew := isNew_of_create created
  exact ⟨(hnew.records_after calls).failsCleanly, (hnew.renews_after calls).failsCleanly⟩

/-- The engine refuses `?`, and nothing is entered for it.  The surface refuses the layout of `fi`,
and is not called any more, but the content stays in the table. -/
theorem failsCleanly_after_refusals :
    ∃ cache, (create sampleScript.engine 16).value = .ok cache ∧
      (cache.lookup (.ofText "?")).value.2 = .error (.shapingFailed "no glyph") ∧
      (cache.lookup (.ofText "?")).value.1.entries = cache.entries ∧
      ∃ later calls, (cache.draw (recordingSurface String String [.layout]).answered ([], [])
          (.ofText "fi") 8 32).value
          = (later, (calls, [⟨.move 8 32, none⟩, ⟨.update "L:fi", none⟩,
              ⟨.layout "L:fi", some (.inconsistent "surface refused layout")⟩]),
            .error (.inconsistent "surface refused layout")) ∧
        (later.slot? (.ofText "fi")).isSome = true := by
  obtain ⟨cache, hcache, -⟩ := exists_sampleFont
  have hfails := (failsCleanly_after hcache []).1
  have hnew := isNew_of_create hcache
  have hrecords := hnew.records
  have hcontext : cache.context = 16 := (Except.ok.inj hnew.context_ok).symm
  obtain ⟨e, answer⟩ : ∃ e, (cache.lookup (.ofText "?")).value.2 = .error e := by
    rcases answer : (cache.lookup (.ofText "?")).value.2 with e | slot
    · exact ⟨e, rfl⟩
    · obtain ⟨-, -, s, -, shaped, -⟩ := hrecords.glyph_of_lookup_eq_ok answer
      rw [hcontext] at shaped
      cases shaped
  obtain ⟨hentries, -, -, -, -, hreason⟩ := hfails.lookup_error _ e answer
  have herror : e = .shapingFailed "no glyph" := by
    obtain ⟨isEmpty, -⟩ | ⟨-, refused, -⟩ := hreason
    · exact absurd isEmpty (by decide)
    · rw [hcontext] at refused
      exact (Except.error.inj refused).symm
  obtain ⟨slot, found⟩ := (hrecords.lookup_ok_iff (.ofText "fi")).mpr ⟨by decide, _, rfl⟩
  obtain ⟨hslot, state, log, result, -, hdraw, -⟩ :=
    hfails.draw_of_lookup_ok (recordingSurface String String [.layout]) [] (.ofText "fi") 8 32 slot
      found
  have hdirect := hrecords.draw_eq (recordingSurface String String [.layout]).answered ([], [])
    (.ofText "fi") 8 32
  rw [hcontext] at hdirect
  refine ⟨cache, hcache, herror ▸ answer, hentries, (cache.lookup (.ofText "fi")).value.1,
    [.move 8 32, .update "L:fi", .layout "L:fi"], ?_, ?_⟩
  · have hcache_after := congrArg Prod.fst hdraw
    exact Prod.ext hcache_after hdirect
  · exact Option.isSome_iff_exists.mpr ⟨slot, hslot⟩

end GlyphCache
end GlyphGrid
