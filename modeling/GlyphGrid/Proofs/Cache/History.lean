import Mathlib.Data.List.Nodup
import GlyphGrid.Proofs.Cache.Lookup
import GlyphGrid.Shaping.Scripted

/-!
# What a cache has been through

A `CacheCall` is one thing that a client can ask of a cache: to look a content up, to draw it on
any surface in any state, or to say whether it is in the table.  `GlyphCache.after` is the cache
after a list of calls.  A drawing changes a cache as the lookup in it does and a question does not
change it at all, so that a history comes down to the contents that were attempted
(`after_eq_afterLookups`).  The same holds of the calibration of a new font, which attempts the
contents `GlyphCache.measured` before any client can call (`isNew_of_create`).

`Records` is the invariant of all these runs.  It ties the table to the contents attempted so far:
no content has two entries, every entry is the shape of the first attempt at its content, and
every attempt that could be shaped has an entry.  A lookup keeps it (`Records.lookup`), hence so
does a run (`Records.afterLookups`), and it holds of every cache that is reached from a new font
(`IsNew.records_after`).
-/

namespace GlyphGrid

variable {C F L S : Type}

/-- A call that a client makes of a cache. -/
inductive CacheCall (F L : Type) : Type 1 where
  | lookup (content : CellBuffer)
  | draw {S : Type} (surface : DrawingSurface S F L) (state : S) (content : CellBuffer)
      (x y : Nat)
  | contains (content : CellBuffer)

namespace CacheCall

/-- The content that a call looks up. -/
def attempt? : CacheCall F L → Option CellBuffer
  | .lookup content => some content
  | .draw _ _ content _ _ => some content
  | .contains _ => none

/-- The cache after a call. -/
def perform (cache : GlyphCache C F L) : CacheCall F L → GlyphCache C F L
  | .lookup content => (cache.lookup content).value.1
  | .draw surface state content x y => (cache.draw surface state content x y).value.1
  | .contains _ => cache

end CacheCall

/-- The contents that some calls look up, in order. -/
def attempts (calls : List (CacheCall F L)) : List CellBuffer :=
  calls.filterMap CacheCall.attempt?

lemma attempts_append (calls more : List (CacheCall F L)) :
    attempts (calls ++ more) = attempts calls ++ attempts more :=
  List.filterMap_append

namespace GlyphCache

/-! ## Runs of calls -/

/-- The cache after some calls. -/
def after (cache : GlyphCache C F L) (calls : List (CacheCall F L)) : GlyphCache C F L :=
  calls.foldl CacheCall.perform cache

/-- The cache after the lookups of some contents. -/
def afterLookups (cache : GlyphCache C F L) (contents : List CellBuffer) : GlyphCache C F L :=
  contents.foldl (fun cache content => (cache.lookup content).value.1) cache

lemma after_append (cache : GlyphCache C F L) (calls more : List (CacheCall F L)) :
    cache.after (calls ++ more) = (cache.after calls).after more :=
  List.foldl_append

/-- The lookups of a run are all that changes the cache. -/
lemma after_eq_afterLookups (cache : GlyphCache C F L) (calls : List (CacheCall F L)) :
    cache.after calls = cache.afterLookups (attempts calls) := by
  induction calls generalizing cache with
  | nil => rfl
  | cons call calls ih =>
    have hrest : cache.after (call :: calls) = (call.perform cache).after calls := rfl
    rw [hrest, ih]
    cases call with
    | lookup content => rfl
    | draw surface state content x y =>
      simp only [CacheCall.perform, draw_cache]
      rfl
    | contains content => rfl

lemma afterLookups_extends (cache : GlyphCache C F L) (contents : List CellBuffer) :
    cache.Extends (cache.afterLookups contents) := by
  induction contents generalizing cache with
  | nil => exact .refl cache
  | cons content contents ih => exact (cache.lookup_extends content).trans (ih _)

/-- A run keeps the font and all entries, and new entries come behind the old ones. -/
lemma after_extends (cache : GlyphCache C F L) (calls : List (CacheCall F L)) :
    cache.Extends (cache.after calls) := by
  rw [after_eq_afterLookups]
  exact cache.afterLookups_extends _

/-! ## The invariant -/

/-- The table of a cache after the contents `attempted` were looked up in it, in this order, with
nothing in it before. -/
structure Records (engine : ShapingEngine C F L) (context : C) (attempted : List CellBuffer)
    (cache : GlyphCache C F L) : Prop where
  engine_eq : cache.engine = engine
  context_eq : cache.context = context
  /-- No content has two entries. -/
  nodup : cache.keys.Nodup
  /-- An entry is what the first attempt at its content was shaped to. -/
  entry_eq : ∀ e ∈ cache.entries, ∃ content s,
    attempted.find? (fun b => b.content == e.key.content) = some content ∧
      content.content ≠ [] ∧ engine.shape context content.text = .ok s ∧
      e = CacheEntry.ofShape content s
  /-- An attempt that could be shaped has left an entry. -/
  complete : ∀ content ∈ attempted, content.content ≠ [] → ∀ s,
    engine.shape context content.text = .ok s → content.content ∈ cache.keys

namespace Records

variable {engine : ShapingEngine C F L} {context : C} {attempted : List CellBuffer}
  {cache : GlyphCache C F L}

lemma blank (engine : ShapingEngine C F L) (context : C) (height : Nat) :
    Records engine context [] (GlyphCache.blank engine context height) where
  engine_eq := rfl
  context_eq := rfl
  nodup := List.nodup_nil
  entry_eq := fun _ he => absurd he List.not_mem_nil
  complete := fun _ hcontent => absurd hcontent List.not_mem_nil

lemma withWidth (h : Records engine context attempted cache) (width : Nat) :
    Records engine context attempted (cache.withWidth width) :=
  ⟨h.engine_eq, h.context_eq, h.nodup, h.entry_eq, h.complete⟩

/-- What is found for a content is the shape of its text, whatever buffer was entered. -/
lemma glyph_of_slot? (h : Records engine context attempted cache) {content : CellBuffer}
    {slot : Slot F L} (found : cache.slot? content = some slot) :
    content.content ≠ [] ∧ ∃ first s, first.content = content.content ∧
      engine.shape context content.text = .ok s ∧
      slot.glyph = (CacheEntry.ofShape first s).glyph := by
  obtain ⟨e, he, hkey, hglyph⟩ := entry_of_slot? found
  obtain ⟨first, s, -, nonempty, shaped, rfl⟩ := h.entry_eq e (List.mem_of_getElem? he)
  have hfirst : first.content = content.content := by
    rw [← hkey]
    exact (CellBuffer.content_duplicate first).symm
  rw [hfirst] at nonempty
  rw [CellBuffer.text_congr hfirst] at shaped
  exact ⟨nonempty, first, s, hfirst, shaped, hglyph.symm⟩

/-- Later attempts do not change what was attempted first. -/
lemma entry_eq_append (h : Records engine context attempted cache) (more : List CellBuffer)
    {e : CacheEntry F L} (he : e ∈ cache.entries) : ∃ content s,
      (attempted ++ more).find? (fun b => b.content == e.key.content) = some content ∧
        content.content ≠ [] ∧ engine.shape context content.text = .ok s ∧
        e = CacheEntry.ofShape content s := by
  obtain ⟨content, s, hfirst, hrest⟩ := h.entry_eq e he
  exact ⟨content, s, by rw [List.find?_append, hfirst, Option.some_or], hrest⟩

/-- A content that can be shaped and is missing was not attempted before. -/
lemma not_attempted (h : Records engine context attempted cache) {content : CellBuffer}
    (missing : content.content ∉ cache.keys) (nonempty : content.content ≠ [])
    {s : ShapedCluster F L} (shaped : engine.shape context content.text = .ok s) :
    attempted.find? (fun b => b.content == content.content) = none := by
  rw [List.find?_eq_none]
  intro b hb hsame
  rw [beq_iff_eq] at hsame
  apply missing
  rw [← hsame]
  apply h.complete b hb
  · rw [hsame]
    exact nonempty
  · rw [CellBuffer.text_congr hsame]
    exact shaped

/-- One more lookup is recorded. -/
lemma lookup (h : Records engine context attempted cache) (content : CellBuffer) :
    Records engine context (attempted ++ [content]) (cache.lookup content).value.1 := by
  have houtcome := cache.lookup_outcome content
  generalize (cache.lookup content).value = r at houtcome ⊢
  -- Unless something is entered the table stays, and it is left to show that nothing is missing.
  have hkept : (∀ s, content.content ≠ [] → engine.shape context content.text = .ok s →
      content.content ∈ cache.keys) → ∀ b ∈ attempted ++ [content], b.content ≠ [] → ∀ s,
        engine.shape context b.text = .ok s → b.content ∈ cache.keys := by
    intro hself b hb hnonempty s hs
    rcases List.mem_append.mp hb with hold | hnew
    · exact h.complete b hold hnonempty s hs
    · rw [List.mem_singleton.mp hnew] at hnonempty hs ⊢
      exact hself s hnonempty hs
  cases houtcome with
  | hit slot found =>
    refine ⟨h.engine_eq, h.context_eq, h.nodup, fun e he => h.entry_eq_append _ he, ?_⟩
    exact hkept fun _ _ _ => mem_keys_of_slot? found
  | empty missing isEmpty =>
    refine ⟨h.engine_eq, h.context_eq, h.nodup, fun e he => h.entry_eq_append _ he, ?_⟩
    exact hkept fun _ hnonempty _ => absurd isEmpty hnonempty
  | failed e missing nonempty refused =>
    refine ⟨h.engine_eq, h.context_eq, h.nodup, fun e he => h.entry_eq_append _ he, ?_⟩
    refine hkept fun s _ hs => ?_
    rw [h.engine_eq, h.context_eq, hs] at refused
    cases refused
  | entered s missing nonempty shaped =>
    rw [h.engine_eq, h.context_eq] at shaped
    refine ⟨h.engine_eq, h.context_eq, ?_, ?_, ?_⟩
    · rw [keys_enter, List.nodup_append]
      refine ⟨h.nodup, List.nodup_singleton _, fun old hold new hnew hsame => missing ?_⟩
      rw [← List.mem_singleton.mp hnew, ← hsame]
      exact hold
    · intro e he
      rcases List.mem_append.mp he with hold | hnew
      · exact h.entry_eq_append _ hold
      · rw [List.mem_singleton.mp hnew]
        refine ⟨content, s, ?_, nonempty, shaped, rfl⟩
        have hkey : (CacheEntry.ofShape content s).key.content = content.content :=
          CellBuffer.content_duplicate content
        rw [hkey, List.find?_append, h.not_attempted missing nonempty shaped, Option.none_or]
        simp
    · intro b hb hnonempty t ht
      rw [keys_enter]
      rcases List.mem_append.mp hb with hold | hnew
      · exact List.mem_append_left _ (h.complete b hold hnonempty t ht)
      · rw [List.mem_singleton.mp hnew]
        exact List.mem_append_right _ (List.mem_singleton.mpr rfl)

/-- What a lookup answers is the shape of the text of its content. -/
lemma glyph_of_lookup_eq_ok (h : Records engine context attempted cache) {content : CellBuffer}
    {slot : Slot F L} (answer : (cache.lookup content).value.2 = .ok slot) :
    content.content ≠ [] ∧ ∃ first s, first.content = content.content ∧
      engine.shape context content.text = .ok s ∧
      slot.glyph = (CacheEntry.ofShape first s).glyph :=
  (h.lookup content).glyph_of_slot? (slot?_of_lookup_eq_ok answer)

/-- A run of lookups is recorded. -/
lemma afterLookups (h : Records engine context attempted cache) (contents : List CellBuffer) :
    Records engine context (attempted ++ contents) (cache.afterLookups contents) := by
  induction contents generalizing attempted cache with
  | nil =>
    rw [List.append_nil]
    exact h
  | cons content contents ih =>
    have hstep := ih (h.lookup content)
    rw [List.append_assoc, List.singleton_append] at hstep
    exact hstep

end Records

/-! ## Calibration

A new font looks the measured bytes up, all of them in one buffer.  As each byte takes the place of
the one before, the buffer holds it as a new one would. -/

/-- The contents that a new font attempts. -/
def measured : List CellBuffer :=
  measuredBytes.map fun b => CellBuffer.empty.setBytes [b]

/-- The width that the answer of a lookup adds to a calibration. -/
def measuredWidth : Except GlyphError (Slot F L) → Nat
  | .ok slot => slot.glyph.width
  | .error _ => 0

lemma Calibration.step_value (m : Calibration C F L) (b : UInt8) :
    (m.step b).value =
      let r := (m.cache.lookup (m.buffer.setBytes [b])).value
      ⟨r.1, m.buffer.setBytes [b], m.total + measuredWidth r.2,
        m.count + if measuredWidth r.2 = 0 then 0 else 1⟩ := by
  unfold step
  simp only [Noted.value_bind]
  rcases (m.cache.lookup (m.buffer.setBytes [b])).value with ⟨cache, e | slot⟩
  · rfl
  · by_cases hwidth : slot.glyph.width = 0
    · simp [measuredWidth, hwidth, Noted.value_pure]
    · simp [measuredWidth, hwidth, Noted.value_pure]

/-- A calibration attempts the bytes as contents of new buffers. -/
lemma Calibration.run_cache (m : Calibration C F L) (bytes : List UInt8)
    (hbuffer : ∀ b, m.buffer.setBytes [b] = CellBuffer.empty.setBytes [b]) :
    (m.run bytes).value.cache =
      m.cache.afterLookups (bytes.map fun b => CellBuffer.empty.setBytes [b]) := by
  induction bytes generalizing m with
  | nil => rfl
  | cons b bytes ih =>
    have hrun : (m.run (b :: bytes)).value = ((m.step b).value.run bytes).value := rfl
    have hnext : ∀ c, (m.step b).value.buffer.setBytes [c] = CellBuffer.empty.setBytes [c] := by
      intro c
      rw [step_value, ← hbuffer c]
      exact m.buffer.setBytes_setBytes rfl
    rw [hrun, ih _ hnext, step_value, List.map_cons, hbuffer b]
    rfl

/-- Every width that is counted adds at least one pixel to the total. -/
lemma Calibration.count_le_total (m : Calibration C F L) (bytes : List UInt8)
    (h : m.count ≤ m.total) : (m.run bytes).value.count ≤ (m.run bytes).value.total := by
  induction bytes generalizing m with
  | nil => exact h
  | cons b bytes ih =>
    have hrun : (m.run (b :: bytes)).value = ((m.step b).value.run bytes).value := rfl
    rw [hrun]
    apply ih
    rw [step_value]
    simp only
    split <;> omega

lemma calibrate_cache (engine : ShapingEngine C F L) (context : C) (height : Nat) :
    (calibrate engine context height).value.cache =
      (blank engine context height).afterLookups measured :=
  Calibration.run_cache _ measuredBytes fun _ => rfl

/-- Making a font asks for a context, calibrates, and divides. -/
lemma make_value (engine : ShapingEngine C F L) (height : Nat) :
    (make engine height).value =
      if height = 0 then ⟨[], .error (.invalidArgument .zeroHeight)⟩
      else match (engine.createContext height).value with
        | .error e => ⟨[], .error e⟩
        | .ok context =>
          ⟨(calibrate engine context height).value.cache.requests,
            if (calibrate engine context height).value.count = 0 then .error (.noWidth height)
            else .ok ((calibrate engine context height).value.cache.withWidth
              ((calibrate engine context height).value.total
                / (calibrate engine context height).value.count))⟩ := by
  unfold make
  by_cases hheight : height = 0
  · rw [if_pos hheight, if_pos hheight]
    rfl
  · rw [if_neg hheight, if_neg hheight]
    simp only [Noted.value_bind]
    cases (engine.createContext height).value with
    | error e => rfl
    | ok context =>
      simp only [Noted.value_bind]
      split <;> rfl

lemma create_value (engine : ShapingEngine C F L) (height : Nat) :
    (create engine height).value =
      if height = 0 then .error (.invalidArgument .zeroHeight)
      else match (engine.createContext height).value with
        | .error e => .error e
        | .ok context =>
          if (calibrate engine context height).value.count = 0 then .error (.noWidth height)
          else .ok ((calibrate engine context height).value.cache.withWidth
            ((calibrate engine context height).value.total
              / (calibrate engine context height).value.count)) := by
  rw [create, Noted.value_bind, Noted.value_pure, make_value]
  by_cases hheight : height = 0
  · rw [if_pos hheight, if_pos hheight]
  · rw [if_neg hheight, if_neg hheight]
    split
    · rfl
    · next context _ => simp only

/-- Calibrating with any contents and setting a width makes a font of the engine, the context and
the height that one began with. -/
lemma font_of_calibrated (engine : ShapingEngine C F L) (context : C) (height width : Nat)
    (contents : List CellBuffer) :
    let cache := ((blank engine context height).afterLookups contents).withWidth width
    cache.engine = engine ∧ cache.context = context ∧ cache.height = height := by
  have h := (blank engine context height).afterLookups_extends contents
  exact ⟨h.engine_eq, h.context_eq, h.height_eq⟩

/-- A font as it is made: its context is the engine's for the height, its cells are at least one
pixel wide and high, and its table is what the measured contents have left. -/
structure IsNew (engine : ShapingEngine C F L) (height : Nat) (cache : GlyphCache C F L) :
    Prop where
  context_ok : (engine.createContext height).value = .ok cache.context
  height_pos : 0 < height
  width_pos : 0 < cache.width
  eq_calibrated : cache =
    ((blank engine cache.context height).afterLookups measured).withWidth cache.width

lemma isNew_of_create {engine : ShapingEngine C F L} {height : Nat} {cache : GlyphCache C F L}
    (created : (create engine height).value = .ok cache) : IsNew engine height cache := by
  rw [create_value] at created
  split at created
  · cases created
  next hheight =>
  split at created
  · cases created
  next context hcontext =>
  split at created
  · cases created
  next hcount =>
  have hle : (calibrate engine context height).value.count
      ≤ (calibrate engine context height).value.total :=
    Calibration.count_le_total _ measuredBytes (Nat.le_refl 0)
  have hwidth := Nat.div_pos hle (Nat.pos_of_ne_zero hcount)
  rw [calibrate_cache] at created
  obtain ⟨-, hcontext_eq, -⟩ := font_of_calibrated engine context height
    ((calibrate engine context height).value.total
      / (calibrate engine context height).value.count) measured
  have hcache := Except.ok.inj created
  rw [hcache] at hcontext_eq
  have hcache_width := congrArg GlyphCache.width hcache
  rw [← hcontext_eq] at hcontext
  refine ⟨hcontext, Nat.pos_of_ne_zero hheight, ?_, ?_⟩
  · rw [← hcache_width]
    exact hwidth
  · rw [hcontext_eq, ← hcache_width]
    exact hcache.symm

namespace IsNew

variable {engine : ShapingEngine C F L} {height : Nat} {cache : GlyphCache C F L}

lemma font_eq (h : IsNew engine height cache) :
    cache.engine = engine ∧ cache.height = height := by
  obtain ⟨hengine, -, hheight⟩ :=
    font_of_calibrated engine cache.context height cache.width measured
  rw [← h.eq_calibrated] at hengine hheight
  exact ⟨hengine, hheight⟩

lemma cache_height_pos (h : IsNew engine height cache) : 0 < cache.height := by
  rw [h.font_eq.2]
  exact h.height_pos

lemma records (h : IsNew engine height cache) : Records engine cache.context measured cache := by
  have hcalibrated := ((Records.blank engine cache.context height).afterLookups measured).withWidth
    cache.width
  rw [← h.eq_calibrated] at hcalibrated
  exact hcalibrated

/-- The table of a font that was made and then called is that of the measured contents and the
contents of the calls. -/
theorem records_after (h : IsNew engine height cache) (calls : List (CacheCall F L)) :
    Records engine cache.context (measured ++ attempts calls) (cache.after calls) := by
  rw [after_eq_afterLookups]
  exact h.records.afterLookups _

end IsNew

/-! ## Fonts to run things on

The statements about histories are tried on two fonts of scripted engines.  In the first the three
kinds of content occur: one run, several runs, and a text that is refused.  In the second there is a
content with distances as great as can be. -/

/-- Every character is eight pixels wide, but `fi` is shaped to two runs and `?` is refused. -/
def sampleScript : Script :=
  ⟨8 * 1024, 0, 1, 800,
    [⟨some "fi", none, none, none, none, none, 2⟩,
      ⟨some "?", none, some (.shapingFailed "no glyph"), none, none, none, 1⟩], none⟩

lemma exists_font_of_width {C F L : Type} {engine : ShapingEngine C F L} {height width : Nat}
    (h : (create engine height).value.toOption.map GlyphCache.width = some width) :
    ∃ cache, (create engine height).value = .ok cache ∧ cache.width = width := by
  cases hfont : (create engine height).value with
  | ok cache =>
    rw [hfont] at h
    exact ⟨cache, rfl, Option.some.inj h⟩
  | error e =>
    rw [hfont] at h
    cases h

lemma exists_sampleFont :
    ∃ cache, (create sampleScript.engine 16).value = .ok cache ∧ cache.width = 8 :=
  exists_font_of_width (by decide +kernel)

end GlyphCache
end GlyphGrid
