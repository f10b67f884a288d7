import Mathlib.Data.List.Count
import GlyphGrid.Proofs.Cache.InPlace

/-!
# Which contents are in the table, and what they cost

`Ledger` says it from the attempts alone, for every font and all that it was asked since it was
made.  The keys are the contents attempted that can be shaped (`mem_keys_iff`); a key is shaped once
and from then on answered from its place; a content that the engine refuses is asked for at every
attempt.  The measured bytes count as attempts that come before all others, and as they are all
different and show something, each of them costs one question.

The attempts that cost one are `GlyphCache.asked`.  The texts that the engine is asked for are
theirs (`requests_afterLookups`), and a content which can be shaped stands in the table as often as
it is among them (`count_keys_afterLookups`).  Both hold step by step along a run, and as no key
stands twice in the table the second says that a content is shaped at most once.
-/

namespace GlyphGrid

variable {C F L : Type}

namespace GlyphCache

/-! ## Attempts that cost a shape -/

/-- The contents, of those looked up one after the other, for which the engine is asked when their
turn comes. -/
def asked (cache : GlyphCache C F L) : List CellBuffer → List CellBuffer
  | [] => []
  | content :: contents =>
    if cache.Asks content then content :: asked (cache.lookup content).value.1 contents
    else asked (cache.lookup content).value.1 contents

lemma requests_lookup (cache : GlyphCache C F L) (content : CellBuffer) :
    (cache.lookup content).value.1.requests
      = cache.requests ++ if cache.Asks content then [content.text] else [] := by
  have houtcome := cache.lookup_outcome content
  generalize (cache.lookup content).value = r at houtcome ⊢
  cases houtcome with
  | hit slot found => rw [if_neg fun h => h.2 (mem_keys_of_slot? found), List.append_nil]
  | empty missing isEmpty => rw [if_neg fun h => h.1 isEmpty, List.append_nil]
  | failed e missing nonempty refused => rw [if_pos ⟨nonempty, missing⟩]; rfl
  | entered s missing nonempty shaped => rw [if_pos ⟨nonempty, missing⟩]; rfl

/-- The engine was asked for the texts of the attempts that cost one. -/
lemma requests_afterLookups (cache : GlyphCache C F L) (contents : List CellBuffer) :
    (cache.afterLookups contents).requests
      = cache.requests ++ (cache.asked contents).map (·.text) := by
  induction contents generalizing cache with
  | nil => exact (List.append_nil _).symm
  | cons content contents ih =>
    have hstep := ih (cache.lookup content).value.1
    rw [requests_lookup] at hstep
    refine hstep.trans ?_
    rw [asked]
    split
    · rw [List.map_cons, List.append_assoc, List.singleton_append]
    · rw [List.append_nil]

/-- The number of requests counts the attempts that cost one. -/
lemma shapings_afterLookups (cache : GlyphCache C F L) (contents : List CellBuffer) :
    (cache.afterLookups contents).shapings = cache.shapings + (cache.asked contents).length := by
  rw [shapings, requests_afterLookups, List.length_append, List.length_map, shapings]

/-- A lookup adds no key but its own content. -/
lemma mem_keys_lookup {cache : GlyphCache C F L} {content : CellBuffer} {bytes : List UInt8}
    (h : bytes ∈ (cache.lookup content).value.1.keys) :
    bytes ∈ cache.keys ∨ bytes = content.content := by
  have houtcome := cache.lookup_outcome content
  generalize (cache.lookup content).value = r at h houtcome
  cases houtcome with
  | hit slot found => exact .inl h
  | empty missing isEmpty => exact .inl h
  | failed e missing nonempty refused => exact .inl h
  | entered s missing nonempty shaped =>
    rw [keys_enter, List.mem_append, List.mem_singleton] at h
    exact h

/-- Different contents that show something are all asked for, if none of them is in the table. -/
lemma asked_eq_self (cache : GlyphCache C F L) (contents : List CellBuffer)
    (hnodup : (contents.map (·.content)).Nodup) (hnonempty : ∀ b ∈ contents, b.content ≠ [])
    (hmissing : ∀ b ∈ contents, b.content ∉ cache.keys) : cache.asked contents = contents := by
  induction contents generalizing cache with
  | nil => rfl
  | cons content contents ih =>
    rw [List.map_cons, List.nodup_cons] at hnodup
    rw [List.forall_mem_cons] at hnonempty hmissing
    have hlater : ∀ b ∈ contents, b.content ∉ (cache.lookup content).value.1.keys := by
      intro b hb hkey
      rcases mem_keys_lookup hkey with hold | hself
      · exact hmissing.2 b hb hold
      · exact hnodup.1 (hself ▸ List.mem_map_of_mem hb)
    rw [asked, if_pos ⟨hnonempty.1, hmissing.1⟩, ih _ hnodup.2 hnonempty.2 hlater]

/-! ### Contents that can be shaped

Each of them stands in the table as often as it was asked for. -/

lemma count_keys_lookup (cache : GlyphCache C F L) (content : CellBuffer) {bytes : List UInt8}
    {s : ShapedCluster F L}
    (shaped : cache.engine.shape cache.context (Utf8.textLossy bytes) = .ok s) :
    (cache.lookup content).value.1.keys.count bytes
      = cache.keys.count bytes + if cache.Asks content ∧ content.content = bytes then 1 else 0 := by
  have houtcome := cache.lookup_outcome content
  generalize (cache.lookup content).value = r at houtcome ⊢
  cases houtcome with
  | hit slot found => rw [if_neg fun h => h.1.2 (mem_keys_of_slot? found)]; rfl
  | empty missing isEmpty => rw [if_neg fun h => h.1.1 isEmpty]; rfl
  | failed e missing nonempty refused =>
    -- What is refused is not the content that can be shaped.
    have hother : content.content ≠ bytes := by
      rintro rfl
      rw [CellBuffer.text, shaped] at refused
      cases refused
    rw [if_neg fun h => hother h.2]
    rfl
  | entered t missing nonempty _ =>
    rw [keys_enter, List.count_append, List.count_singleton]
    simp only [beq_iff_eq, Asks, ne_eq, nonempty, missing, not_false_eq_true, true_and]

lemma count_keys_afterLookups (cache : GlyphCache C F L) (contents : List CellBuffer)
    {bytes : List UInt8} {s : ShapedCluster F L}
    (shaped : cache.engine.shape cache.context (Utf8.textLossy bytes) = .ok s) :
    (cache.afterLookups contents).keys.count bytes
      = cache.keys.count bytes + (cache.asked contents).countP (·.content == bytes) := by
  induction contents generalizing cache with
  | nil => rfl
  | cons content contents ih =>
    have hfont := cache.lookup_extends content
    have hstep := ih (cache.lookup content).value.1
      (by rw [hfont.engine_eq, hfont.context_eq]; exact shaped)
    rw [count_keys_lookup cache content shaped] at hstep
    refine hstep.trans ?_
    rw [asked]
    by_cases hasks : cache.Asks content
    · rw [if_pos hasks, List.countP_cons]
      simp only [hasks, true_and, beq_iff_eq]
      omega
    · rw [if_neg hasks, if_neg fun h => hasks h.1]
      rfl

namespace Records

variable {engine : ShapingEngine C F L} {context : C} {attempted : List CellBuffer}
  {cache : GlyphCache C F L}

/-- The keys are the contents attempted that show something and can be shaped. -/
lemma mem_keys_iff (h : Records engine context attempted cache) (bytes : List UInt8) :
    bytes ∈ cache.keys ↔ (∃ s, engine.shape context (Utf8.textLossy bytes) = .ok s) ∧
      bytes ≠ [] ∧ ∃ content ∈ attempted, content.content = bytes := by
  constructor
  · intro hkey
    obtain ⟨e, he, rfl⟩ := mem_keys.mp hkey
    obtain ⟨content, s, hfirst, hnonempty, hshaped, heq⟩ := h.entry_eq e he
    have hcontent : content.content = e.key.content := by
      have hsame := List.find?_some hfirst
      exact beq_iff_eq.mp hsame
    rw [← hcontent]
    exact ⟨⟨s, hshaped⟩, hnonempty, content, List.mem_of_find?_eq_some hfirst, rfl⟩
  · rintro ⟨⟨s, hshaped⟩, hnonempty, content, hcontent, rfl⟩
    exact h.complete content hcontent hnonempty s hshaped

/-- A content that the engine refuses is asked for at every attempt. -/
lemma countP_asked_of_refused (h : Records engine context attempted cache)
    (contents : List CellBuffer) {bytes : List UInt8} {e : GlyphError} (nonempty : bytes ≠ [])
    (refused : engine.shape context (Utf8.textLossy bytes) = .error e) :
    (cache.asked contents).countP (·.content == bytes)
      = contents.countP (·.content == bytes) := by
  induction contents generalizing attempted cache with
  | nil => rfl
  | cons content contents ih =>
    have hstep := ih (h.lookup content)
    rw [asked, List.countP_cons, ← hstep]
    by_cases hself : content.content = bytes
    · have hmissing : content.content ∉ cache.keys := by
        intro hkey
        obtain ⟨⟨s, hs⟩, -⟩ := (h.mem_keys_iff content.content).mp hkey
        rw [hself, refused] at hs
        cases hs
      rw [if_pos ⟨hself ▸ nonempty, hmissing⟩, List.countP_cons]
    · have hbeq : (content.content == bytes) = false := beq_eq_false_iff_ne.mpr hself
      split
      · rw [List.countP_cons]
      · simp only [hbeq, Bool.false_eq_true, if_false, Nat.add_zero]

end Records

/-! ## The measured bytes

As attempts they come first, all of them different, and so each is asked for. -/

@[simp] lemma keys_withWidth (cache : GlyphCache C F L) (width : Nat) :
    (cache.withWidth width).keys = cache.keys := rfl

@[simp] lemma shapings_withWidth (cache : GlyphCache C F L) (width : Nat) :
    (cache.withWidth width).shapings = cache.shapings := rfl

lemma length_measured : measured.length = 127 := by
  simp only [measured, measuredBytes, List.length_map, List.length_range]

lemma exists_mem_measured_iff (bytes : List UInt8) :
    (∃ content ∈ measured, content.content = bytes) ↔ ∃ b < 127, bytes = [UInt8.ofNat b] := by
  constructor
  · rintro ⟨content, hcontent, rfl⟩
    obtain ⟨byte, hbyte, rfl⟩ := List.mem_map.mp hcontent
    obtain ⟨b, hb, rfl⟩ := List.mem_map.mp hbyte
    exact ⟨b, List.mem_range.mp hb, CellBuffer.content_setBytes _ _⟩
  · rintro ⟨b, hb, rfl⟩
    refine ⟨CellBuffer.empty.setBytes [UInt8.ofNat b], ?_, CellBuffer.content_setBytes _ _⟩
    exact List.mem_map_of_mem (List.mem_map_of_mem (List.mem_range.mpr hb))

lemma nodup_measuredBytes : measuredBytes.Nodup := by
  refine List.Nodup.map_on ?_ List.nodup_range
  intro a ha b hb hsame
  rw [List.mem_range] at ha hb
  have hnat := congrArg UInt8.toNat hsame
  rw [UInt8.toNat_ofNat', UInt8.toNat_ofNat'] at hnat
  omega

lemma nodup_content_measured : (measured.map (·.content)).Nodup := by
  rw [measured, List.map_map]
  refine List.Nodup.map ?_ nodup_measuredBytes
  intro a b hsame
  simp only [Function.comp_apply, CellBuffer.content_setBytes] at hsame
  exact List.singleton_inj.mp hsame

/-- A font that is being made asks for every measured byte. -/
lemma asked_blank_measured (engine : ShapingEngine C F L) (context : C) (height : Nat) :
    (blank engine context height).asked measured = measured := by
  refine asked_eq_self _ _ nodup_content_measured ?_ fun _ _ => List.not_mem_nil
  intro content hcontent hempty
  obtain ⟨b, -, hb⟩ := (exists_mem_measured_iff []).mp ⟨content, hcontent, hempty⟩
  cases hb

namespace IsNew

variable {engine : ShapingEngine C F L} {height : Nat} {cache : GlyphCache C F L}

lemma shapings_eq (h : IsNew engine height cache) : cache.shapings = 127 := by
  have hcalibrated := congrArg GlyphCache.shapings h.eq_calibrated
  rw [shapings_withWidth, shapings_afterLookups, asked_blank_measured] at hcalibrated
  rw [hcalibrated, length_measured]
  rfl

/-- A content that can be shaped is a key as often as it was asked for, the measured bytes
included. -/
lemma count_keys_after (h : IsNew engine height cache) (calls : List (CacheCall F L))
    {bytes : List UInt8} {s : ShapedCluster F L}
    (shaped : engine.shape cache.context (Utf8.textLossy bytes) = .ok s) :
    (cache.after calls).keys.count bytes
      = (measured ++ cache.asked (attempts calls)).countP (·.content == bytes) := by
  have hcalibrated := congrArg GlyphCache.keys h.eq_calibrated
  rw [keys_withWidth] at hcalibrated
  have hmeasured : cache.keys.count bytes = measured.countP (·.content == bytes) := by
    rw [hcalibrated, count_keys_afterLookups _ measured shaped, asked_blank_measured]
    exact Nat.zero_add _
  rw [← h.font_eq.1] at shaped
  rw [after_eq_afterLookups, count_keys_afterLookups cache _ shaped, hmeasured,
    List.countP_append]

end IsNew

/-! ## Keys and costs -/

/-- The table of a font after some calls, and what its engine was asked for it. -/
structure Ledger (engine : ShapingEngine C F L) (height : Nat) (cache : GlyphCache C F L)
    (calls : List (CacheCall F L)) : Prop where
  /-- The keys are the contents that can be shaped among the bytes below 127 and the contents
  attempted that show something. -/
  mem_keys_iff : ∀ bytes, bytes ∈ (cache.after calls).keys ↔
    (∃ s, engine.shape cache.context (Utf8.textLossy bytes) = .ok s) ∧
      ((∃ b < 127, bytes = [UInt8.ofNat b]) ∨
        bytes ≠ [] ∧ bytes ∈ (attempts calls).map (·.content))
  /-- In which order the contents were attempted and how often does not matter. -/
  keys_congr : ∀ others : List (CacheCall F L),
    (∀ bytes, bytes ∈ (attempts others).map (·.content)
      ↔ bytes ∈ (attempts calls).map (·.content)) →
    ∀ bytes, bytes ∈ (cache.after others).keys ↔ bytes ∈ (cache.after calls).keys
  /-- No later call removes or replaces an entry. -/
  entries_kept : ∀ more, (cache.after calls).entries <+: (cache.after (calls ++ more)).entries
  /-- A content in the table is answered from there, and nothing changes. -/
  hit : ∀ content, content.content ∈ (cache.after calls).keys →
    ∃ slot, ((cache.after calls).lookup content).value = (cache.after calls, .ok slot)
  /-- What a lookup has answered, every later lookup of the same bytes answers from the table. -/
  same_slot : ∀ content slot, ((cache.after calls).lookup content).value.2 = .ok slot →
    ∀ more again, again.content = content.content →
      ((cache.after (calls ++ .lookup content :: more)).lookup again).value
        = (cache.after (calls ++ .lookup content :: more), .ok slot)
  /-- The engine was asked for the bytes below 127 and at every later attempt at a content that
  showed something and was missing. -/
  shapings_eq : (cache.after calls).shapings = 127 + (cache.asked (attempts calls)).length
  /-- A content is shaped at most once. -/
  countP_shaped : ∀ bytes s, engine.shape cache.context (Utf8.textLossy bytes) = .ok s →
    (measured ++ cache.asked (attempts calls)).countP (·.content == bytes) ≤ 1
  /-- A content that is refused is refused anew at every attempt. -/
  countP_refused : ∀ bytes e, bytes ≠ [] →
    engine.shape cache.context (Utf8.textLossy bytes) = .error e →
    (cache.asked (attempts calls)).countP (·.content == bytes)
      = (attempts calls).countP (·.content == bytes)
  width_eq : (cache.after calls).width = cache.width
  height_eq : (cache.after calls).height = height
  /-- Drawings in place lead to the same table with the same costs, but that its layouts are as the
  drawings have left them. -/
  inPlace_eq : cache.afterInPlace calls = (cache.after calls).mapLayouts (renewedBy calls)

lemma IsNew.mem_keys_after_iff {engine : ShapingEngine C F L} {height : Nat}
    {cache : GlyphCache C F L} (h : IsNew engine height cache) (calls : List (CacheCall F L))
    (bytes : List UInt8) : bytes ∈ (cache.after calls).keys ↔
      (∃ s, engine.shape cache.context (Utf8.textLossy bytes) = .ok s) ∧
        ((∃ b < 127, bytes = [UInt8.ofNat b]) ∨
          bytes ≠ [] ∧ bytes ∈ (attempts calls).map (·.content)) := by
  rw [(h.records_after calls).mem_keys_iff, ← exists_mem_measured_iff, List.mem_map]
  refine and_congr_right fun _ => ?_
  constructor
  · rintro ⟨hnonempty, content, hcontent, hbytes⟩
    rcases List.mem_append.mp hcontent with hmeasured | hcalled
    · exact .inl ⟨content, hmeasured, hbytes⟩
    · exact .inr ⟨hnonempty, content, hcalled, hbytes⟩
  · rintro (⟨content, hcontent, hbytes⟩ | ⟨hnonempty, content, hcontent, hbytes⟩)
    · obtain ⟨b, -, hb⟩ := (exists_mem_measured_iff bytes).mp ⟨content, hcontent, hbytes⟩
      rw [hb]
      exact ⟨List.cons_ne_nil _ _, content, List.mem_append_left _ hcontent, hbytes.trans hb⟩
    · exact ⟨hnonempty, content, List.mem_append_right _ hcontent, hbytes⟩

/-- **The ledger of a font.**  Whatever calls a font has answered, its keys are settled by which
contents were attempted, its glyphs stay where they are, and its engine was asked once for each
key and once for each attempt at a content that it refused. -/
theorem ledger_after {engine : ShapingEngine C F L} {height : Nat} {cache : GlyphCache C F L}
    (created : (create engine height).value = .ok cache) (calls : List (CacheCall F L)) :
    Ledger engine height cache calls := by
  have hnew := isNew_of_create created
  have hrecords := hnew.records_after calls
  have hfont := cache.after_extends calls
  constructor
  case mem_keys_iff => exact hnew.mem_keys_after_iff calls
  case keys_congr =>
    intro others hsame bytes
    rw [hnew.mem_keys_after_iff, hnew.mem_keys_after_iff, hsame]
  case entries_kept =>
    intro more
    rw [after_append]
    exact ((cache.after calls).after_extends more).entries_kept
  case hit =>
    intro content hkey
    obtain ⟨slot, hslot⟩ := Option.ne_none_iff_exists'.mp
      (mt ((cache.after calls).slot?_eq_none_iff content).mp (not_not_intro hkey))
    exact ⟨slot, lookup_of_slot? hslot⟩
  case same_slot =>
    intro content slot hanswer more again hbytes
    have hgrow := (((cache.after calls).lookup content).value.1.after_extends more).entries_kept
    have hslot := slot?_mono hgrow (slot?_of_lookup_eq_ok hanswer)
    rw [← slot?_congr _ hbytes] at hslot
    rw [after_append]
    exact lookup_of_slot? hslot
  case shapings_eq =>
    rw [after_eq_afterLookups, shapings_afterLookups, hnew.shapings_eq]
  case countP_shaped =>
    intro bytes s shaped
    rw [← hnew.count_keys_after calls shaped]
    exact List.nodup_iff_count_le_one.mp hrecords.nodup bytes
  case countP_refused =>
    intro bytes e nonempty refused
    exact hnew.records.countP_asked_of_refused _ nonempty refused
  case width_eq => exact hfont.width_eq
  case height_eq => exact hfont.height_eq.trans hnew.font_eq.2
  case inPlace_eq => exact (hnew.renews_after calls).eq_mapLayouts

/-- The content `fi` is looked up twice and `?` attempted twice, after the measured `?`; an empty
content comes between them. -/
theorem ledger_after_fi_and_refusals :
    ∃ cache, (create sampleScript.engine 16).value = .ok cache ∧
      let calls : List (CacheCall String String) :=
        [.lookup (.ofText "fi"), .draw (recordingSurface String String []) [] (.ofText "?") 0 0,
          .lookup .empty, .lookup (.ofText "?"), .lookup (.ofText "fi")]
      [102, 105] ∈ (cache.after calls).keys ∧ [63] ∉ (cache.after calls).keys ∧
        (cache.asked (attempts calls)).countP (·.content == [63]) = 2 ∧
        (cache.asked (attempts calls)).countP (·.content == [102, 105]) ≤ 1 ∧
        (cache.after calls).height = 16 := by
  obtain ⟨cache, hcache, -⟩ := exists_sampleFont
  have hledger := ledger_after hcache
    [.lookup (.ofText "fi"), .draw (recordingSurface String String []) [] (.ofText "?") 0 0,
      .lookup .empty, .lookup (.ofText "?"), .lookup (.ofText "fi")]
  have hshaped : ∃ s, sampleScript.engine.shape cache.context (Utf8.textLossy [102, 105]) = .ok s :=
    ⟨_, rfl⟩
  have hrefused : sampleScript.engine.shape cache.context (Utf8.textLossy [63])
      = .error (.shapingFailed "no glyph") := rfl
  refine ⟨cache, hcache, ?_, ?_, ?_, ?_, hledger.height_eq⟩
  · refine (hledger.mem_keys_iff _).mpr ⟨hshaped, .inr ⟨List.cons_ne_nil _ _, ?_⟩⟩
    exact List.mem_cons_self
  · intro hkey
    obtain ⟨⟨s, hs⟩, -⟩ := (hledger.mem_keys_iff _).mp hkey
    rw [hrefused] at hs
    cases hs
  · rw [hledger.countP_refused _ _ (List.cons_ne_nil _ _) hrefused]
    rfl
  · obtain ⟨s, hs⟩ := hshaped
    have hcount := hledger.countP_shaped _ _ hs
    rw [List.countP_append] at hcount
    omega

end GlyphCache
end GlyphGrid
