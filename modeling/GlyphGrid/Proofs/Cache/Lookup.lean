import Mathlib.Tactic.Lemma
import GlyphGrid.Cache.Basic
import GlyphGrid.Proofs.Cell.Content

/-!
# What one lookup does to a cache

A lookup ends in one of four ways, and `LookupOutcome` lists them with all that each of them
presupposes and changes: the content is in the table (`hit`), it is empty (`empty`), the engine
refuses its text (`failed`), or it is shaped and entered behind the others (`entered`).
`lookup_outcome` says that there is no fifth way.  Every fact about runs of lookups is a case
analysis on it, and nothing later unfolds `GlyphCache.lookup`.

The table is seen through `GlyphCache.keys`, the contents in it as bytes.  The place of a content
is found by comparing bytes alone, so that it stays the same when the table grows behind it
(`slot?_mono`).
-/

namespace GlyphGrid

variable {C F L S : Type}

/-- The entry of a content with the given shape. -/
def CacheEntry.ofShape (content : CellBuffer) (s : ShapedCluster F L) : CacheEntry F L :=
  ⟨content.duplicate, ⟨content.duplicate, s.widthPixels, s.describe⟩⟩

namespace GlyphCache

/-! ## The table -/

/-- The contents in the table, as bytes and in the order of their entries. -/
def keys (cache : GlyphCache C F L) : List (List UInt8) :=
  cache.entries.map (·.key.content)

/-- A cache of the same font with more in its table, and one more text asked for. -/
def enter (cache : GlyphCache C F L) (content : CellBuffer) (s : ShapedCluster F L) :
    GlyphCache C F L :=
  ⟨cache.engine, cache.context, cache.height, cache.width,
    cache.entries ++ [CacheEntry.ofShape content s],
    cache.requests ++ [content.text]⟩

@[simp] lemma shapings_request (cache : GlyphCache C F L) (text : String) :
    (cache.request text).shapings = cache.shapings + 1 := by
  rw [shapings, request, List.length_append, List.length_singleton, shapings]

lemma mem_keys {cache : GlyphCache C F L} {bytes : List UInt8} :
    bytes ∈ cache.keys ↔ ∃ e ∈ cache.entries, e.key.content = bytes := by
  simp only [keys, List.mem_map]

@[simp] lemma keys_enter (cache : GlyphCache C F L) (content : CellBuffer)
    (s : ShapedCluster F L) : (cache.enter content s).keys = cache.keys ++ [content.content] := by
  simp only [keys, enter, List.map_append, List.map_cons, List.map_nil, CacheEntry.ofShape,
    CellBuffer.content_duplicate]

lemma contains_iff_mem_keys (cache : GlyphCache C F L) (content : CellBuffer) :
    cache.contains content = true ↔ content.content ∈ cache.keys := by
  rw [contains, find?, List.findIdx?_isSome, List.any_eq_true, mem_keys]
  simp only [CellBuffer.beq_iff_content_eq]

/-! ## The place of a content -/

lemma find?_congr (cache : GlyphCache C F L) {a b : CellBuffer} (h : a.content = b.content) :
    cache.find? a = cache.find? b := by
  have hpred : (fun e : CacheEntry F L => e.key == a) = fun e => e.key == b := by
    funext e
    rw [Bool.eq_iff_iff, CellBuffer.beq_iff_content_eq, CellBuffer.beq_iff_content_eq, h]
  rw [find?, find?, hpred]

/-- Only the bytes of a content matter for its place. -/
lemma slot?_congr (cache : GlyphCache C F L) {a b : CellBuffer} (h : a.content = b.content) :
    cache.slot? a = cache.slot? b := by
  rw [slot?, slot?, cache.find?_congr h]

lemma find?_eq_none_iff (cache : GlyphCache C F L) (content : CellBuffer) :
    cache.find? content = none ↔ content.content ∉ cache.keys := by
  rw [← contains_iff_mem_keys, contains, Bool.not_eq_true, Option.isSome_eq_false_iff,
    Option.isNone_iff_eq_none]

lemma slot?_eq_none_iff (cache : GlyphCache C F L) (content : CellBuffer) :
    cache.slot? content = none ↔ content.content ∉ cache.keys := by
  rw [← find?_eq_none_iff, slot?]
  cases hfind : cache.find? content with
  | none => simp
  | some i =>
    obtain ⟨hi, -⟩ := List.findIdx?_eq_some_iff_getElem.mp hfind
    simp [List.getElem?_eq_getElem hi]

/-- What is found is an entry with the bytes that were looked for. -/
lemma entry_of_slot? {cache : GlyphCache C F L} {content : CellBuffer} {slot : Slot F L}
    (h : cache.slot? content = some slot) :
    ∃ e, cache.entries[slot.index]? = some e ∧ e.key.content = content.content
      ∧ e.glyph = slot.glyph := by
  obtain ⟨i, hfind, hslot⟩ := Option.bind_eq_some_iff.mp h
  obtain ⟨e, he, rfl⟩ := Option.map_eq_some_iff.mp hslot
  obtain ⟨hi, hkey, -⟩ := List.findIdx?_eq_some_iff_getElem.mp hfind
  refine ⟨e, he, ?_, rfl⟩
  rw [List.getElem?_eq_getElem hi, Option.some_inj] at he
  rw [← he]
  exact (CellBuffer.beq_iff_content_eq _ _).mp hkey

lemma mem_keys_of_slot? {cache : GlyphCache C F L} {content : CellBuffer} {slot : Slot F L}
    (h : cache.slot? content = some slot) : content.content ∈ cache.keys := by
  obtain ⟨e, he, hkey, -⟩ := entry_of_slot? h
  exact mem_keys.mpr ⟨e, List.mem_of_getElem? he, hkey⟩

/-- A content keeps its place when entries come behind it. -/
lemma slot?_mono {cache later : GlyphCache C F L} (hgrow : cache.entries <+: later.entries)
    {content : CellBuffer} {slot : Slot F L} (h : cache.slot? content = some slot) :
    later.slot? content = some slot := by
  obtain ⟨i, hfind, hslot⟩ := Option.bind_eq_some_iff.mp h
  obtain ⟨rest, hrest⟩ := hgrow
  have hi : i < cache.entries.length := (List.findIdx?_eq_some_iff_getElem.mp hfind).1
  have hfind' : later.find? content = some i := by
    rw [find?] at hfind ⊢
    rw [← hrest, List.findIdx?_append, hfind, Option.some_or]
  rw [slot?, hfind', Option.bind_some, ← hrest, List.getElem?_append_left hi]
  exact hslot

/-- A content that was missing is found where it was entered. -/
lemma slot?_enter {cache : GlyphCache C F L} {content : CellBuffer}
    (missing : content.content ∉ cache.keys) (s : ShapedCluster F L) :
    (cache.enter content s).slot? content
      = some ⟨cache.entries.length, (CacheEntry.ofShape content s).glyph⟩ := by
  have hnone : cache.find? content = none := (cache.find?_eq_none_iff content).mpr missing
  have hself : ((CacheEntry.ofShape content s).key == content) = true :=
    (CellBuffer.beq_iff_content_eq _ _).mpr (CellBuffer.content_duplicate content)
  have hfind : (cache.enter content s).find? content = some cache.entries.length := by
    rw [find?] at hnone ⊢
    simp only [enter]
    rw [List.findIdx?_append, hnone, List.findIdx?_cons, if_pos hself]
    simp
  rw [slot?, hfind, Option.bind_some]
  simp [enter]

/-! ## The four outcomes -/

/-- How the lookup of a content can end: with the cache after it and its answer. -/
inductive LookupOutcome (cache : GlyphCache C F L) (content : CellBuffer) :
    GlyphCache C F L × Except GlyphError (Slot F L) → Prop
  /-- The content is in the table, and the engine is not asked. -/
  | hit (slot : Slot F L) (found : cache.slot? content = some slot) :
      LookupOutcome cache content (cache, .ok slot)
  /-- An empty content is refused before the engine is asked. -/
  | empty (missing : content.content ∉ cache.keys) (isEmpty : content.content = []) :
      LookupOutcome cache content (cache, .error (.invalidArgument .emptyContent))
  /-- The engine refuses the text, and only the request is kept. -/
  | failed (e : GlyphError) (missing : content.content ∉ cache.keys)
      (nonempty : content.content ≠ [])
      (refused : cache.engine.shape cache.context content.text = .error e) :
      LookupOutcome cache content (cache.request content.text, .error e)
  /-- The content is shaped and entered behind all others. -/
  | entered (s : ShapedCluster F L) (missing : content.content ∉ cache.keys)
      (nonempty : content.content ≠ [])
      (shaped : cache.engine.shape cache.context content.text = .ok s) :
      LookupOutcome cache content
        (cache.enter content s,
          .ok ⟨cache.entries.length, (CacheEntry.ofShape content s).glyph⟩)

/-- Every lookup ends in one of the four ways. -/
lemma lookup_outcome (cache : GlyphCache C F L) (content : CellBuffer) :
    LookupOutcome cache content (cache.lookup content).value := by
  unfold lookup
  split
  case h_1 slot found => exact .hit slot found
  case h_2 hnone =>
    have missing := (cache.slot?_eq_none_iff content).mp hnone
    unfold shapeNew Glyph.ofContent?
    by_cases hempty : content.isEmpty = true
    · rw [if_pos hempty]
      exact .empty missing ((content.isEmpty_iff_content).mp hempty)
    · rw [if_neg hempty]
      have nonempty : content.content ≠ [] := fun h =>
        hempty ((content.isEmpty_iff_content).mpr h)
      have htext : content.duplicate.text = content.text :=
        CellBuffer.text_congr content.content_duplicate
      -- The engine is asked for the text of the glyph's copy, which is the text of the content.
      cases hshape : cache.engine.shape cache.context content.text with
      | error e =>
        simp only [Glyph.populate, Glyph.populate?, request, htext, hshape, Except.map,
          Noted.value_bind, Noted.value_pure]
        exact .failed e missing nonempty hshape
      | ok s =>
        simp only [Glyph.populate, Glyph.populate?, request, htext, hshape, Except.map,
          Noted.value_bind, Noted.value_pure]
        exact .entered s missing nonempty hshape

/-- The cache after a lookup and its answer, by what is in the table and what the engine says. -/
lemma lookup_value (cache : GlyphCache C F L) (content : CellBuffer) :
    (cache.lookup content).value =
      match cache.slot? content with
      | some slot => (cache, .ok slot)
      | none =>
        if content.content = [] then (cache, .error (.invalidArgument .emptyContent))
        else match cache.engine.shape cache.context content.text with
          | .error e => (cache.request content.text, .error e)
          | .ok s => (cache.enter content s,
              .ok ⟨cache.entries.length, (CacheEntry.ofShape content s).glyph⟩) := by
  have houtcome := cache.lookup_outcome content
  generalize (cache.lookup content).value = r at houtcome ⊢
  cases houtcome with
  | hit slot found => rw [found]
  | empty missing isEmpty =>
    rw [(cache.slot?_eq_none_iff content).mpr missing, if_pos isEmpty]
  | failed e missing nonempty refused =>
    rw [(cache.slot?_eq_none_iff content).mpr missing, if_neg nonempty, refused]
  | entered s missing nonempty shaped =>
    rw [(cache.slot?_eq_none_iff content).mpr missing, if_neg nonempty, shaped]

/-- Whether the engine is asked when a content is looked up: it shows something and is missing. -/
def Asks (cache : GlyphCache C F L) (content : CellBuffer) : Prop :=
  content.content ≠ [] ∧ content.content ∉ cache.keys

instance (cache : GlyphCache C F L) (content : CellBuffer) : Decidable (cache.Asks content) :=
  inferInstanceAs (Decidable (_ ∧ _))

/-- The cache after a lookup. -/
lemma lookup_cache (cache : GlyphCache C F L) (content : CellBuffer) :
    (cache.lookup content).value.1 =
      if cache.Asks content then
        match cache.engine.shape cache.context content.text with
        | .error _ => cache.request content.text
        | .ok s => cache.enter content s
      else cache := by
  have houtcome := cache.lookup_outcome content
  generalize (cache.lookup content).value = r at houtcome ⊢
  cases houtcome with
  | hit slot found => rw [if_neg fun h => h.2 (mem_keys_of_slot? found)]
  | empty missing isEmpty => rw [if_neg fun h => h.1 isEmpty]
  | failed e missing nonempty refused => rw [if_pos ⟨nonempty, missing⟩, refused]
  | entered s missing nonempty shaped => rw [if_pos ⟨nonempty, missing⟩, shaped]

/-! ## What every outcome keeps -/

/-- A lookup is of the same font, and the table only grows at its end. -/
structure Extends (cache later : GlyphCache C F L) : Prop where
  engine_eq : later.engine = cache.engine
  context_eq : later.context = cache.context
  height_eq : later.height = cache.height
  width_eq : later.width = cache.width
  entries_kept : cache.entries <+: later.entries

lemma Extends.refl (cache : GlyphCache C F L) : cache.Extends cache :=
  ⟨rfl, rfl, rfl, rfl, List.prefix_rfl⟩

lemma Extends.trans {a b c : GlyphCache C F L} (hab : a.Extends b) (hbc : b.Extends c) :
    a.Extends c :=
  ⟨hbc.engine_eq.trans hab.engine_eq, hbc.context_eq.trans hab.context_eq,
    hbc.height_eq.trans hab.height_eq, hbc.width_eq.trans hab.width_eq,
    hab.entries_kept.trans hbc.entries_kept⟩

lemma lookup_extends (cache : GlyphCache C F L) (content : CellBuffer) :
    cache.Extends (cache.lookup content).value.1 := by
  have h := cache.lookup_outcome content
  generalize (cache.lookup content).value = r at h ⊢
  cases h with
  | hit slot found => exact .refl cache
  | empty missing isEmpty => exact .refl cache
  | failed e missing nonempty refused => exact ⟨rfl, rfl, rfl, rfl, List.prefix_rfl⟩
  | entered s missing nonempty shaped => exact ⟨rfl, rfl, rfl, rfl, List.prefix_append _ _⟩

/-- Once a content was found or entered, it is found in the same place. -/
lemma slot?_of_lookup_eq_ok {cache : GlyphCache C F L} {content : CellBuffer}
    {slot : Slot F L} (h : (cache.lookup content).value.2 = .ok slot) :
    (cache.lookup content).value.1.slot? content = some slot := by
  have houtcome := cache.lookup_outcome content
  generalize (cache.lookup content).value = r at h houtcome ⊢
  cases houtcome with
  | hit found_slot found =>
    cases h
    exact found
  | empty missing isEmpty => cases h
  | failed e missing nonempty refused => cases h
  | entered s missing nonempty shaped =>
    cases h
    exact slot?_enter missing s

/-- A content that was refused is not in the table. -/
lemma not_mem_keys_of_lookup_eq_error {cache : GlyphCache C F L} {content : CellBuffer}
    {e : GlyphError} (h : (cache.lookup content).value.2 = .error e) :
    content.content ∉ (cache.lookup content).value.1.keys := by
  have houtcome := cache.lookup_outcome content
  generalize (cache.lookup content).value = r at h houtcome ⊢
  cases houtcome with
  | hit slot found => cases h
  | empty missing isEmpty => exact missing
  | failed error missing nonempty refused => exact missing
  | entered s missing nonempty shaped => cases h

/-- A content that is in the table is answered from there, and nothing changes. -/
lemma lookup_of_slot? {cache : GlyphCache C F L} {content : CellBuffer} {slot : Slot F L}
    (h : cache.slot? content = some slot) : (cache.lookup content).value = (cache, .ok slot) := by
  unfold lookup
  rw [h]
  rfl

/-- A lookup that fails has refused an empty content and changed nothing, or has passed on an error
of the engine and kept the request. -/
lemma lookup_of_error {cache : GlyphCache C F L} {content : CellBuffer} {e : GlyphError}
    (h : (cache.lookup content).value.2 = .error e) :
    (content.content = [] ∧ e = .invalidArgument .emptyContent ∧
      (cache.lookup content).value.1 = cache) ∨
    (content.content ≠ [] ∧ cache.engine.shape cache.context content.text = .error e ∧
      (cache.lookup content).value.1 = cache.request content.text) := by
  have houtcome := cache.lookup_outcome content
  generalize (cache.lookup content).value = r at h houtcome ⊢
  cases houtcome with
  | hit slot found => cases h
  | empty missing isEmpty =>
    cases h
    exact .inl ⟨isEmpty, rfl, rfl⟩
  | failed error missing nonempty refused =>
    cases h
    exact .inr ⟨nonempty, refused, rfl⟩
  | entered s missing nonempty shaped => cases h

/-! ## Drawing is looking up and painting -/

/-- Drawing paints what a lookup finds, and nothing if the lookup fails. -/
lemma draw_value (cache : GlyphCache C F L) (surface : DrawingSurface S F L) (state : S)
    (content : CellBuffer) (x y : Nat) :
    (cache.draw surface state content x y).value =
      ((cache.lookup content).value.1,
        match (cache.lookup content).value.2 with
        | .error e => (state, .error e)
        | .ok slot => (paint surface state slot.glyph x y).value) := by
  unfold draw
  rw [Noted.value_bind]
  rcases (cache.lookup content).value with ⟨later, e | slot⟩ <;> rfl

lemma draw_cache (cache : GlyphCache C F L) (surface : DrawingSurface S F L) (state : S)
    (content : CellBuffer) (x y : Nat) :
    (cache.draw surface state content x y).value.1 = (cache.lookup content).value.1 := by
  rw [draw_value]

end GlyphCache
end GlyphGrid
