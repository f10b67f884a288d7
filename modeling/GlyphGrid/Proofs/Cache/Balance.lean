import Mathlib.Data.List.Nodup
import GlyphGrid.Cache.Handles
import GlyphGrid.Proofs.Cache.Lookup

/-!
# The balance of references

`FontHandles` keeps the numbers of references step by step, one up when a reference is taken and one
down when it is given back.  `Balanced` says what they ought to be at any time: one for the table as
long as the font is held, one for each name (`FontHandles.holders`), and one for each reference that
is `loose`, which an operation has taken and not yet passed on.

Every step has one lemma.  Taking a reference makes it loose, giving it back or putting a name to it
settles a loose one, and forgetting a name makes the reference of the name loose.  When the table
grows nobody holds the new glyphs yet, because a name that is held has its slot in the table that
was there before.
-/

namespace GlyphGrid

open GlyphCache

variable {C F L S : Type}

/-! ## Slots -/

/-- A slot is one of a table. -/
def GlyphCache.HasSlot (cache : GlyphCache C F L) (slot : Slot F L) : Prop :=
  (cache.entries[slot.index]?).map (·.glyph) = some slot.glyph

namespace GlyphCache.HasSlot

variable {cache later : GlyphCache C F L} {slot : Slot F L}

lemma lt_size (h : cache.HasSlot slot) : slot.index < cache.size := by
  obtain ⟨e, he, -⟩ := Option.map_eq_some_iff.mp h
  exact (List.getElem?_eq_some_iff.mp he).1

lemma mono (h : cache.HasSlot slot) (hgrow : cache.Extends later) : later.HasSlot slot := by
  obtain ⟨rest, hrest⟩ := hgrow.entries_kept
  have hindex : slot.index < cache.entries.length := h.lt_size
  rw [HasSlot, ← hrest, List.getElem?_append_left hindex]
  exact h

lemma of_slot? {content : CellBuffer} (h : cache.slot? content = some slot) :
    cache.HasSlot slot := by
  obtain ⟨e, he, -, hglyph⟩ := entry_of_slot? h
  rw [HasSlot, he, Option.map_some, hglyph]

end GlyphCache.HasSlot

lemma GlyphCache.Extends.size_le {cache later : GlyphCache C F L} (h : cache.Extends later) :
    cache.size ≤ later.size :=
  h.entries_kept.length_le

namespace FontHandles

/-! ## Numbers and names -/

/-- The number of names under which a glyph is held. -/
def holders (h : FontHandles C F L) (index : Nat) : Nat :=
  h.held.countP (·.slot.index == index)

/-- The number of references that the table has to each of its glyphs. -/
def tableRefs (h : FontHandles C F L) : Nat := if h.owners = 0 then 0 else 1

lemma countOf_acquire (h : FontHandles C F L) {index : Nat} (hindex : index < h.counts.length)
    (i : Nat) : (h.acquire index).countOf i = h.countOf i + if index = i then 1 else 0 := by
  simp only [countOf, acquire, List.getD_eq_getElem?_getD, List.getElem?_modify]
  by_cases hi : index = i
  · subst hi
    simp [List.getElem?_eq_getElem hindex]
  · simp [hi]

lemma countOf_giveBack (h : FontHandles C F L) (index i : Nat) :
    (h.giveBack index).countOf i = h.countOf i - if index = i then 1 else 0 := by
  simp only [countOf, giveBack, List.getD_eq_getElem?_getD, List.getElem?_modify]
  by_cases hi : index = i
  · subst hi
    cases h.counts[index]? <;> simp
  · simp [hi]

lemma countOf_advance (h : FontHandles C F L) (cache : GlyphCache C F L) {i : Nat}
    (hi : i < cache.size) :
    (h.advance cache).countOf i = if i < h.counts.length then h.countOf i else 1 := by
  simp only [countOf, advance, List.getD_eq_getElem?_getD]
  by_cases hold : i < h.counts.length
  · rw [if_pos hold, List.getElem?_append_left hold]
  · have hnew : i - h.counts.length < cache.size - h.counts.length := by omega
    rw [if_neg hold, List.getElem?_append_right (Nat.le_of_not_lt hold),
      List.getElem?_replicate, if_pos hnew, Option.getD_some]

/-- A reference that is taken and given back leaves no trace. -/
lemma giveBack_acquire (h : FontHandles C F L) (index : Nat) :
    (h.acquire index).giveBack index = h := by
  have hcounts : (h.counts.modify index (· + 1)).modify index (· - 1) = h.counts := by
    rw [List.modify_modify_eq]
    exact List.modify_id _ _
  rw [giveBack, acquire, hcounts]

lemma dropAll_eq (h : FontHandles C F L) (howned : h.owners ≠ 0) :
    h.dropAll = ⟨h.cache, 0, h.held, h.counts.map (· - 1)⟩ := if_neg howned

lemma dropFont_eq (h : FontHandles C F L) (howned : h.owners ≠ 0) :
    h.dropFont = if h.owners = 1 then h.dropAll else ⟨h.cache, h.owners - 1, h.held, h.counts⟩ := by
  rw [dropFont, h.dropAll_eq howned]

/-- Without the font the references of the table are gone. -/
lemma countOf_dropAll (h : FontHandles C F L) (howned : h.owners ≠ 0) (i : Nat) :
    h.dropAll.countOf i = h.countOf i - 1 := by
  simp only [h.dropAll_eq howned, countOf, List.getD_eq_getElem?_getD, List.getElem?_map]
  cases h.counts[i]? <;> simp

lemma held_release (h : FontHandles C F L) (name : String) :
    (h.release name).held = h.held.filter (·.name != name) := by
  unfold release
  split
  · next hnone =>
    have habsent := List.find?_eq_none.mp (Option.map_eq_none_iff.mp hnone)
    exact (List.filter_eq_self.mpr fun g hg => by simpa using habsent g hg).symm
  · rfl

lemma cache_release (h : FontHandles C F L) (name : String) :
    (h.release name).cache = h.cache := by
  unfold release
  split <;> rfl

lemma handle?_release (h : FontHandles C F L) (name other : String) :
    (h.release name).handle? other = if name = other then none else h.handle? other := by
  rw [handle?, held_release, List.find?_filter]
  by_cases hname : name = other
  · subst hname
    rw [if_pos rfl, Option.map_eq_none_iff, List.find?_eq_none]
    intro g _
    simp
  · rw [if_neg hname, handle?]
    congr 2
    funext g
    by_cases hg : g.name = other
    · simp [hg, Ne.symm hname]
    · simp [hg]

lemma handle?_hold (h : FontHandles C F L) (name : String) (slot : Slot F L) (other : String) :
    (h.hold name slot).handle? other = if name = other then some slot else h.handle? other := by
  have hheld : (h.hold name slot).handle? other
      = ((h.release name).handle? other).or (if name = other then some slot else none) := by
    simp only [hold, handle?, List.find?_append, Option.map_or]
    by_cases hname : name = other
    · simp [hname]
    · simp [hname]
  rw [hheld, handle?_release]
  by_cases hname : name = other
  · simp [hname]
  · simp [hname]

/-- The names being different, the glyph of a name stands in one place and the others in the
rest. -/
lemma perm_of_find? {held : List (GlyphHandle F L)} (hnodup : (held.map (·.name)).Nodup)
    {name : String} {g : GlyphHandle F L} (hfind : held.find? (·.name == name) = some g) :
    held.Perm (g :: held.filter (·.name != name)) := by
  induction held with
  | nil => cases hfind
  | cons first rest ih =>
    rw [List.map_cons, List.nodup_cons] at hnodup
    by_cases hname : first.name = name
    · rw [List.find?_cons_of_pos (by simpa using hname)] at hfind
      cases hfind
      have hothers : rest.filter (·.name != name) = rest := by
        rw [List.filter_eq_self]
        intro other hother
        have hne : other.name ≠ name := fun hsame =>
          hnodup.1 (List.mem_map.mpr ⟨other, hother, hsame.trans hname.symm⟩)
        simpa using hne
      rw [List.filter_cons_of_neg (by simpa using hname), hothers]
    · rw [List.find?_cons_of_neg (by simpa using hname)] at hfind
      rw [List.filter_cons_of_pos (by simpa using hname)]
      exact ((ih hnodup.2 hfind).cons first).trans (List.Perm.swap _ _ _)

/-! ## The balance -/

/-- The numbers are what counting the references gives. -/
structure Balanced (loose : List Nat) (h : FontHandles C F L) : Prop where
  length_counts : h.counts.length = h.cache.size
  names_nodup : (h.held.map (·.name)).Nodup
  held_fits : ∀ g ∈ h.held, h.cache.HasSlot g.slot
  countOf_eq : ∀ i < h.cache.size, h.countOf i = h.tableRefs + h.holders i + loose.count i

namespace Balanced

variable {h : FontHandles C F L} {loose : List Nat}

lemma ofCache (cache : GlyphCache C F L) : Balanced [] (FontHandles.ofCache cache) where
  length_counts := List.length_replicate
  names_nodup := List.nodup_nil
  held_fits := fun _ hg => absurd hg List.not_mem_nil
  countOf_eq := by
    intro i hi
    have hcount : (FontHandles.ofCache cache).countOf i = 1 := by
      have hsize : i < cache.size := hi
      simp only [countOf, FontHandles.ofCache, List.getD_eq_getElem?_getD, List.getElem?_replicate]
      rw [if_pos hsize, Option.getD_some]
    rw [hcount]
    rfl

lemma acquire (hb : Balanced loose h) {index : Nat} (hindex : index < h.cache.size) :
    Balanced (index :: loose) (h.acquire index) := by
  refine ⟨(List.length_modify _ _ _).trans hb.length_counts, hb.names_nodup, hb.held_fits, ?_⟩
  intro i hi
  rw [h.countOf_acquire (hb.length_counts ▸ hindex), hb.countOf_eq i hi, List.count_cons]
  simp only [beq_iff_eq]
  exact Nat.add_assoc _ _ _

lemma giveBack {index : Nat} (hb : Balanced (index :: loose) h) :
    Balanced loose (h.giveBack index) := by
  refine ⟨(List.length_modify _ _ _).trans hb.length_counts, hb.names_nodup, hb.held_fits, ?_⟩
  intro i hi
  rw [h.countOf_giveBack, hb.countOf_eq i hi, List.count_cons, ← Nat.add_assoc]
  simp only [beq_iff_eq]
  exact Nat.add_sub_cancel _ _

/-- The reference of a name that is forgotten is loose. -/
lemma forget (hb : Balanced loose h) {name : String} {slot : Slot F L}
    (found : h.handle? name = some slot) : Balanced (slot.index :: loose) (h.forget name) := by
  obtain ⟨g, hg, rfl⟩ := Option.map_eq_some_iff.mp found
  have hsub : (h.forget name).held.Sublist h.held := List.filter_sublist
  refine ⟨hb.length_counts, hb.names_nodup.sublist (hsub.map _),
    fun other hother => hb.held_fits other (hsub.subset hother), ?_⟩
  intro i hi
  have hperm := (perm_of_find? hb.names_nodup hg).countP_eq (·.slot.index == i)
  have hholders : h.holders i = (h.forget name).holders i + if g.slot.index = i then 1 else 0 := by
    rw [holders, hperm, List.countP_cons]
    simp only [beq_iff_eq]
    rfl
  have hcount : (h.forget name).countOf i = h.countOf i := rfl
  have htable : (h.forget name).tableRefs = h.tableRefs := rfl
  rw [hcount, htable, hb.countOf_eq i hi, hholders, List.count_cons]
  simp only [beq_iff_eq]
  omega

lemma release (hb : Balanced loose h) (name : String) : Balanced loose (h.release name) := by
  unfold FontHandles.release
  split
  · exact hb
  · next slot found => exact (hb.forget found).giveBack

/-- A loose reference to a glyph is that of the name which it is put under. -/
lemma hold {slot : Slot F L} (hb : Balanced (slot.index :: loose) h) (hslot : h.cache.HasSlot slot)
    (name : String) : Balanced loose (h.hold name slot) := by
  have hreleased := hb.release name
  have hcache := h.cache_release name
  refine ⟨hreleased.length_counts, ?_, ?_, ?_⟩
  · -- The name that is given was released before.
    have habsent : name ∉ (h.release name).held.map (·.name) := by
      rw [h.held_release, List.mem_map]
      rintro ⟨g, hg, hname⟩
      simp [hname] at hg
    rw [FontHandles.hold, List.map_append, List.nodup_append]
    refine ⟨hreleased.names_nodup, List.nodup_singleton _, ?_⟩
    rintro old hold new hnew rfl
    have hsame : old = name := List.mem_singleton.mp hnew
    exact habsent (hsame ▸ hold)
  · intro g hg
    rcases List.mem_append.mp hg with hold | hnew
    · exact hreleased.held_fits g hold
    · rw [List.mem_singleton.mp hnew]
      exact hcache.symm ▸ hslot
  · intro i hi
    have hcount : (h.hold name slot).countOf i = (h.release name).countOf i := rfl
    have htable : (h.hold name slot).tableRefs = (h.release name).tableRefs := rfl
    have hholders : (h.hold name slot).holders i
        = (h.release name).holders i + if slot.index = i then 1 else 0 := by
      rw [holders, FontHandles.hold, List.countP_append, List.countP_singleton]
      simp only [beq_iff_eq]
      rfl
    rw [hcount, htable, hreleased.countOf_eq i hi, hholders, List.count_cons]
    simp only [beq_iff_eq]
    omega

lemma countOf_advance (hb : Balanced loose h) {later : GlyphCache C F L} {i : Nat}
    (hi : i < later.size) :
    (h.advance later).countOf i = if i < h.cache.size then h.countOf i else 1 := by
  rw [h.countOf_advance later hi, hb.length_counts]

/-- To a glyph that is new the table alone refers. -/
lemma advance (hb : Balanced [] h) (howned : h.owners ≠ 0) {later : GlyphCache C F L}
    (hgrow : h.cache.Extends later) : Balanced [] (h.advance later) := by
  refine ⟨?_, hb.names_nodup, fun g hg => (hb.held_fits g hg).mono hgrow, ?_⟩
  · have hsize := hgrow.size_le
    have hlength := hb.length_counts
    simp only [FontHandles.advance, List.length_append, List.length_replicate]
    omega
  · intro i hi
    have hcount : (h.advance later).countOf i = _ := hb.countOf_advance hi
    have htable : (h.advance later).tableRefs = h.tableRefs := rfl
    have hholders : (h.advance later).holders i = h.holders i := rfl
    rw [hcount, htable, hholders]
    by_cases hold : i < h.cache.size
    · rw [if_pos hold, hb.countOf_eq i hold]
    · have hnobody : h.holders i = 0 := by
        rw [holders, List.countP_eq_zero]
        intro g hg hindex
        have hlt := (hb.held_fits g hg).lt_size
        rw [beq_iff_eq.mp hindex] at hlt
        exact hold hlt
      rw [if_neg hold, hnobody, tableRefs, if_neg howned]
      rfl

lemma share (hb : Balanced [] h) (howned : h.owners ≠ 0) : Balanced [] h.share := by
  refine ⟨hb.length_counts, hb.names_nodup, hb.held_fits, ?_⟩
  intro i hi
  have htable : h.share.tableRefs = h.tableRefs :=
    (if_neg (Nat.succ_ne_zero _)).trans (if_neg howned).symm
  rw [htable]
  exact hb.countOf_eq i hi

/-- With the last holder of the font one reference to every glyph goes. -/
lemma dropAll (hb : Balanced [] h) (howned : h.owners ≠ 0) : Balanced [] h.dropAll := by
  have hcounts := h.countOf_dropAll howned
  rw [h.dropAll_eq howned] at hcounts ⊢
  refine ⟨(List.length_map _).trans hb.length_counts, hb.names_nodup, hb.held_fits, ?_⟩
  intro i hi
  have hbefore : h.tableRefs = 1 := if_neg howned
  rw [hcounts, hb.countOf_eq i hi, hbefore, Nat.add_assoc, Nat.add_sub_cancel_left]
  exact congrArg (· + _) (Nat.zero_add _).symm

lemma dropFont (hb : Balanced [] h) (howned : h.owners ≠ 0) : Balanced [] h.dropFont := by
  rw [h.dropFont_eq howned]
  by_cases hlast : h.owners = 1
  · rw [if_pos hlast]
    exact hb.dropAll howned
  · have hleft : h.owners - 1 ≠ 0 := by omega
    have htable : tableRefs ⟨h.cache, h.owners - 1, h.held, h.counts⟩ = h.tableRefs :=
      (if_neg hleft).trans (if_neg howned).symm
    rw [if_neg hlast]
    refine ⟨hb.length_counts, hb.names_nodup, hb.held_fits, ?_⟩
    intro i hi
    rw [htable]
    exact hb.countOf_eq i hi

end Balanced

/-! ## What a balance says of one glyph -/

/-- The slots of the names that are held. -/
lemma Balanced.handle?_eq_some {h : FontHandles C F L} {loose : List Nat} (hb : Balanced loose h)
    {name : String} {slot : Slot F L} : h.handle? name = some slot ↔ ⟨name, slot⟩ ∈ h.held := by
  rw [handle?, Option.map_eq_some_iff]
  constructor
  · rintro ⟨g, hfind, rfl⟩
    have hname : g.name = name := by simpa using List.find?_some hfind
    rw [← hname]
    exact List.mem_of_find?_eq_some hfind
  · intro hmem
    cases hfind : h.held.find? (·.name == name) with
    | none => exact absurd (beq_self_eq_true name) (List.find?_eq_none.mp hfind _ hmem)
    | some g =>
      have hname : g.name = name := by simpa using List.find?_some hfind
      have hsame := List.inj_on_of_nodup_map hb.names_nodup (List.mem_of_find?_eq_some hfind) hmem
        hname
      exact ⟨g, rfl, congrArg GlyphHandle.slot hsame⟩

/-- A glyph that is held under one name, and by no one else, has one reference. -/
lemma Balanced.countOf_eq_one_iff {h : FontHandles C F L} (hb : Balanced [] h) {name : String}
    {slot : Slot F L} (found : h.handle? name = some slot) :
    h.countOf slot.index = 1 ↔ h.owners = 0 ∧
      ∀ other held, h.handle? other = some held → held.index = slot.index → other = name := by
  have hforget := hb.forget found
  have hlt := (hb.held_fits _ (hb.handle?_eq_some.mp found)).lt_size
  -- The reference of the name is loose once the name is forgotten; the others are still counted.
  have hcount : h.countOf slot.index = h.tableRefs + (h.forget name).holders slot.index + 1 := by
    have heq := hforget.countOf_eq slot.index hlt
    rw [List.count_singleton_self] at heq
    exact heq
  have htable : h.tableRefs = 0 ↔ h.owners = 0 := by
    by_cases howned : h.owners = 0
    · simp [tableRefs, howned]
    · simp [tableRefs, howned]
  have hothers : (h.forget name).holders slot.index = 0 ↔
      ∀ other held, h.handle? other = some held → held.index = slot.index → other = name := by
    rw [holders, List.countP_eq_zero]
    constructor
    · intro hnone other held hother hindex
      by_contra hname
      have hkept : (⟨other, held⟩ : GlyphHandle F L) ∈ (h.forget name).held :=
        List.mem_filter.mpr ⟨hb.handle?_eq_some.mp hother, by simpa using hname⟩
      exact hnone _ hkept (beq_iff_eq.mpr hindex)
    · intro hsole g hg hindex
      obtain ⟨hmem, hname⟩ := List.mem_filter.mp hg
      have hsame := hsole g.name g.slot (hb.handle?_eq_some.mpr hmem) (beq_iff_eq.mp hindex)
      exact absurd hsame (by simpa using hname)
  rw [← htable, ← hothers]
  omega

/-- If the font has one holder and nothing else is held, the table's references are all. -/
lemma Balanced.eq_ofCache {h : FontHandles C F L} (hb : Balanced [] h) (howner : h.owners = 1)
    (hheld : h.held = []) : h = FontHandles.ofCache h.cache := by
  have hcounts : h.counts = List.replicate h.cache.size 1 := by
    rw [List.eq_replicate_iff]
    refine ⟨hb.length_counts, fun count hcount => ?_⟩
    obtain ⟨i, hi, hget⟩ := List.mem_iff_getElem.mp hcount
    have hcountOf : h.countOf i = count := by
      rw [countOf, List.getD_eq_getElem?_getD, List.getElem?_eq_getElem hi, hget, Option.getD_some]
    have heq := hb.countOf_eq i (hb.length_counts ▸ hi)
    rw [hcountOf, holders, hheld, tableRefs, howner] at heq
    exact heq
  obtain ⟨cache, owners, held, counts⟩ := h
  simp only at howner hheld hcounts
  rw [FontHandles.ofCache, howner, hheld, hcounts]

end FontHandles
end GlyphGrid
