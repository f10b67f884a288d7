import GlyphGrid.Proofs.Cache.Balance
import GlyphGrid.Proofs.Cache.History

/-!
# References are counted

A `HandleCall` is one thing that a client can do with a font and with the glyphs that it holds under
names.  Each call is put together from the steps that have their lemmas with `Balanced`, and between
two calls no reference is loose (`Balanced.perform`, `Balanced.after`).  A drawing, however it ends,
leaves to the holders what a lookup leaves whose glyph is given back at once (`draw_fst`,
`lookupFor_none`).

`ReferencesCounted` lists what a client can rely on at any time, and `references_counted` is that it
can, after any calls.
-/

namespace GlyphGrid

open GlyphCache

variable {C F L S : Type}

/-! ## Calls -/

/-- A call that a client makes of a font or of the glyphs that it holds. -/
inductive HandleCall (F L : Type) : Type 1 where
  /-- What is found is held under the name, or given back at once if there is none. -/
  | lookup (content : CellBuffer) (name? : Option String)
  | draw {S : Type} (surface : DrawingSurface S F L) (state : S) (content : CellBuffer)
      (x y : Nat)
  | contains (content : CellBuffer)
  | release (name : String)
  | takeBack (name : String)
  | share
  | dropFont

namespace FontHandles

/-- What was found is held under the name, or given back. -/
def settle (h : FontHandles C F L) (slot : Slot F L) : Option String → FontHandles C F L
  | some name => h.hold name slot
  | none => h.giveBack slot.index

/-- Looks a content up and settles what is found. -/
def lookupFor (h : FontHandles C F L) (content : CellBuffer) (name? : Option String) :
    FontHandles C F L :=
  match h.lookup content with
  | (h, .error _) => h
  | (h, .ok slot) => h.settle slot name?

end FontHandles

open FontHandles

/-- The font and its holders after a call.  A font that nobody holds cannot be called. -/
def HandleCall.perform (h : FontHandles C F L) : HandleCall F L → FontHandles C F L
  | .lookup content name? => if h.owners = 0 then h else h.lookupFor content name?
  | .draw surface state content x y =>
    if h.owners = 0 then h else (h.draw surface state content x y).1
  | .contains _ => h
  | .release name => h.release name
  | .takeBack name =>
    match h.handle? name with
    | none => h
    | some slot => ((h.forget name).takeBack? slot).1
  | .share => if h.owners = 0 then h else h.share
  | .dropFont => if h.owners = 0 then h else h.dropFont

/-- What is held under a name after a call. -/
def HandleCall.handleAfter (h : FontHandles C F L) (name : String) :
    HandleCall F L → Option (Slot F L)
  | .lookup content (some kept) =>
    if kept = name ∧ h.owners ≠ 0 then (h.lookup content).2.toOption.or (h.handle? name)
    else h.handle? name
  | .release given | .takeBack given => if given = name then none else h.handle? name
  | _ => h.handle? name

namespace FontHandles

/-- The state after some calls. -/
def after (h : FontHandles C F L) (calls : List (HandleCall F L)) : FontHandles C F L :=
  calls.foldl HandleCall.perform h

lemma after_append (h : FontHandles C F L) (calls more : List (HandleCall F L)) :
    h.after (calls ++ more) = (h.after calls).after more :=
  List.foldl_append

/-! ## Lookups and drawings -/

/-- A lookup counts the new glyphs, and takes a reference to the glyph that it answers. -/
lemma lookup_cases (h : FontHandles C F L) (content : CellBuffer) :
    (∃ e, (h.cache.lookup content).value.2 = .error e ∧
      h.lookup content = (h.advance (h.cache.lookup content).value.1, .error e)) ∨
    (∃ slot, (h.cache.lookup content).value.2 = .ok slot ∧
      h.lookup content
        = ((h.advance (h.cache.lookup content).value.1).acquire slot.index, .ok slot)) := by
  unfold FontHandles.lookup
  rcases (h.cache.lookup content).value with ⟨later, e | slot⟩
  · exact .inl ⟨e, rfl, rfl⟩
  · exact .inr ⟨slot, rfl, rfl⟩

/-- A glyph that is given back at once leaves the numbers as they were, but for the glyphs that are
new. -/
lemma lookupFor_none (h : FontHandles C F L) (content : CellBuffer) :
    h.lookupFor content none = h.advance (h.cache.lookup content).value.1 := by
  unfold lookupFor
  obtain ⟨e, -, heq⟩ | ⟨slot, -, heq⟩ := h.lookup_cases content
  · rw [heq]
  · rw [heq]
    exact giveBack_acquire _ _

lemma draw_fst (h : FontHandles C F L) (surface : DrawingSurface S F L) (state : S)
    (content : CellBuffer) (x y : Nat) :
    (h.draw surface state content x y).1 = h.advance (h.cache.lookup content).value.1 := by
  have hsame : (h.draw surface state content x y).1 = h.lookupFor content none := by
    unfold FontHandles.draw lookupFor
    rcases h.lookup content with ⟨later, e | slot⟩
    · rfl
    · rfl
  rw [hsame, lookupFor_none]

/-- Drawing through a font that is held is drawing through its cache. -/
lemma draw_eq (h : FontHandles C F L) (surface : DrawingSurface S F L) (state : S)
    (content : CellBuffer) (x y : Nat) :
    ((h.draw surface state content x y).1.cache, (h.draw surface state content x y).2)
      = (h.cache.draw surface state content x y).value := by
  rw [draw_fst, draw_value]
  unfold FontHandles.draw
  obtain ⟨e, hanswer, heq⟩ | ⟨slot, hanswer, heq⟩ := h.lookup_cases content
  · rw [heq, hanswer]
    rfl
  · rw [heq, hanswer]
    rfl

namespace Balanced

variable {h : FontHandles C F L}

/-- The reference of a lookup that succeeds is loose. -/
lemma lookup_ok (hb : Balanced [] h) (howned : h.owners ≠ 0) {content : CellBuffer}
    {slot : Slot F L} (answer : (h.cache.lookup content).value.2 = .ok slot) :
    Balanced [slot.index] ((h.advance (h.cache.lookup content).value.1).acquire slot.index) ∧
      (h.cache.lookup content).value.1.HasSlot slot := by
  have hslot := HasSlot.of_slot? (slot?_of_lookup_eq_ok answer)
  exact ⟨(hb.advance howned (h.cache.lookup_extends content)).acquire hslot.lt_size, hslot⟩

lemma lookupFor (hb : Balanced [] h) (howned : h.owners ≠ 0) (content : CellBuffer)
    (name? : Option String) : Balanced [] (h.lookupFor content name?) := by
  cases name? with
  | none =>
    rw [lookupFor_none]
    exact hb.advance howned (h.cache.lookup_extends content)
  | some name =>
    unfold FontHandles.lookupFor
    obtain ⟨e, -, heq⟩ | ⟨slot, hanswer, heq⟩ := h.lookup_cases content
    · rw [heq]
      exact hb.advance howned (h.cache.lookup_extends content)
    · obtain ⟨hloose, hslot⟩ := hb.lookup_ok howned hanswer
      rw [heq]
      exact hloose.hold hslot name

lemma draw (hb : Balanced [] h) (howned : h.owners ≠ 0) (surface : DrawingSurface S F L)
    (state : S) (content : CellBuffer) (x y : Nat) :
    Balanced [] (h.draw surface state content x y).1 := by
  rw [draw_fst]
  exact hb.advance howned (h.cache.lookup_extends content)

end Balanced

/-! ## Runs -/

lemma perform_takeBack (h : FontHandles C F L) (name : String) :
    HandleCall.perform h (.takeBack name) = h.release name := by
  rw [HandleCall.perform, release]
  cases h.handle? name with
  | none => rfl
  | some slot => rfl

lemma Balanced.perform {h : FontHandles C F L} (hb : Balanced [] h) (call : HandleCall F L) :
    Balanced [] (call.perform h) := by
  cases call with
  | lookup content name? =>
    rw [HandleCall.perform]
    split
    · exact hb
    · next howned => exact hb.lookupFor howned content name?
  | draw surface state content x y =>
    rw [HandleCall.perform]
    split
    · exact hb
    · next howned => exact hb.draw howned surface state content x y
  | contains content => exact hb
  | release name => exact hb.release name
  | takeBack name =>
    rw [perform_takeBack]
    exact hb.release name
  | share =>
    rw [HandleCall.perform]
    split
    · exact hb
    · next howned => exact hb.share howned
  | dropFont =>
    rw [HandleCall.perform]
    split
    · exact hb
    · next howned => exact hb.dropFont howned

lemma Balanced.after {h : FontHandles C F L} (hb : Balanced [] h) (calls : List (HandleCall F L)) :
    Balanced [] (h.after calls) := by
  induction calls generalizing h with
  | nil => exact hb
  | cons call calls ih => exact ih (hb.perform call)

/-- What is held under a name changes by the calls that give this name, and by no others. -/
lemma handle?_perform (h : FontHandles C F L) (call : HandleCall F L) (name : String) :
    (call.perform h).handle? name = call.handleAfter h name := by
  cases call with
  | lookup content name? =>
    rw [HandleCall.perform]
    by_cases howned : h.owners = 0
    · cases name? <;> simp [HandleCall.handleAfter, howned]
    · rw [if_neg howned]
      cases name? with
      | none =>
        rw [lookupFor_none]
        rfl
      | some kept =>
        rw [lookupFor, HandleCall.handleAfter]
        obtain ⟨e, -, heq⟩ | ⟨slot, -, heq⟩ := h.lookup_cases content
        · rw [heq]
          by_cases hname : kept = name
          · rw [if_pos ⟨hname, howned⟩]
            rfl
          · rw [if_neg fun hboth => hname hboth.1]
            rfl
        · rw [heq]
          change (hold _ kept slot).handle? name = _
          rw [handle?_hold]
          by_cases hname : kept = name
          · rw [if_pos hname, if_pos ⟨hname, howned⟩]
            rfl
          · rw [if_neg hname, if_neg fun hboth => hname hboth.1]
            rfl
  | draw surface state content x y =>
    rw [HandleCall.perform]
    split
    · rfl
    · rw [draw_fst]
      rfl
  | contains content => rfl
  | release given => exact h.handle?_release given name
  | takeBack given =>
    rw [perform_takeBack]
    exact h.handle?_release given name
  | share =>
    rw [HandleCall.perform]
    split <;> rfl
  | dropFont =>
    rw [HandleCall.perform, FontHandles.dropFont]
    split
    · rfl
    · split <;> rfl

/-- While somebody still holds the font, holders of it go without a trace. -/
lemma after_replicate_dropFont (h : FontHandles C F L) {n : Nat} (hn : n < h.owners) :
    h.after (List.replicate n .dropFont) = ⟨h.cache, h.owners - n, h.held, h.counts⟩ := by
  induction n generalizing h with
  | zero => rfl
  | succ n ih =>
    have hfirst : HandleCall.perform h .dropFont = ⟨h.cache, h.owners - 1, h.held, h.counts⟩ := by
      have howned : h.owners ≠ 0 := by omega
      have hlast : h.owners ≠ 1 := by omega
      rw [HandleCall.perform, if_neg howned, h.dropFont_eq howned, if_neg hlast]
    have hrest : h.after (List.replicate (n + 1) .dropFont)
        = (HandleCall.perform h .dropFont).after (List.replicate n .dropFont) := rfl
    have hless : n < h.owners - 1 := by omega
    rw [hrest, hfirst, ih _ hless]
    simp only [Nat.sub_sub, Nat.add_comm]

lemma after_dropFonts (h : FontHandles C F L) (howned : h.owners ≠ 0) :
    h.after (List.replicate h.owners .dropFont) = h.dropAll := by
  obtain ⟨others, hothers⟩ := Nat.exists_eq_succ_of_ne_zero howned
  have hless : others < h.owners := by omega
  have hone : h.owners - others = 1 := by omega
  rw [hothers, List.replicate_succ', after_append, h.after_replicate_dropFont hless, hone,
    h.dropAll_eq howned]
  rfl

/-- Contents that are looked up and given back, as a new font does with those that it measures,
leave to every glyph the reference of the table. -/
theorem ofCache_after_lookups (cache : GlyphCache C F L) (contents : List CellBuffer) :
    (ofCache cache).after (contents.map (.lookup · none))
      = ofCache (cache.afterLookups contents) := by
  induction contents generalizing cache with
  | nil => rfl
  | cons content contents ih =>
    have hfirst : HandleCall.perform (ofCache cache) (.lookup content none)
        = ofCache (cache.lookup content).value.1 := by
      have howned : (ofCache cache).owners ≠ 0 := Nat.one_ne_zero
      have hsize := (cache.lookup_extends content).size_le
      rw [HandleCall.perform, if_neg howned, lookupFor_none]
      simp only [advance, ofCache, List.length_replicate, List.replicate_append_replicate,
        Nat.add_sub_cancel' hsize]
    have hrest : (ofCache cache).after ((content :: contents).map (.lookup · none))
        = (HandleCall.perform (ofCache cache) (.lookup content none)).after
          (contents.map (.lookup · none)) := rfl
    rw [hrest, hfirst, ih]
    rfl

/-! ## What holds between any two calls -/

/-- The numbers of references are those of the holders, and every call keeps to them. -/
structure ReferencesCounted (h : FontHandles C F L) : Prop where
  /-- One reference for the table while the font is held, and one for each name. -/
  countOf_eq : ∀ i < h.cache.size, h.countOf i = (if h.owners = 0 then 0 else 1) + h.holders i
  names_nodup : (h.held.map (·.name)).Nodup
  held_fits : ∀ name slot, h.handle? name = some slot → h.cache.HasSlot slot
  handle_eq : ∀ (call : HandleCall F L) name,
    (call.perform h).handle? name = call.handleAfter h name
  /-- What a lookup answers has one more reference until a name is put to it or it is given back,
  and as the font is held, it cannot be had for good. -/
  lookup_ok : h.owners ≠ 0 → ∀ content later slot, h.lookup content = (later, .ok slot) →
    later.cache.slot? content = some slot ∧ later.owners = h.owners ∧ later.held = h.held ∧
      (∀ i < later.cache.size,
        later.countOf i = 1 + h.holders i + if slot.index = i then 1 else 0) ∧
      (later.takeBack? slot).2 = .error (2 + h.holders slot.index)
  lookup_error : ∀ content later e, h.lookup content = (later, .error e) →
    later.cache.entries = h.cache.entries ∧ later.owners = h.owners ∧ later.held = h.held ∧
      later.counts = h.counts
  /-- However a drawing ends, only the table refers to a glyph that is new, and nothing has changed
  for the others. -/
  draw_kept : ∀ {S : Type} (surface : DrawingSurface S F L) (state : S) (content : CellBuffer)
    (x y : Nat), let later := (h.draw surface state content x y).1
      later.owners = h.owners ∧ later.held = h.held ∧
      (∀ i < h.cache.size, later.countOf i = h.countOf i) ∧
      (∀ i < later.cache.size, h.cache.size ≤ i → later.countOf i = 1) ∧
      (later.cache, (h.draw surface state content x y).2)
        = (h.cache.draw surface state content x y).value
  contains_kept : ∀ content, HandleCall.perform h (.contains content) = h
  /-- All holders of the font but one go without a trace. -/
  drop_others : ∀ n < h.owners,
    h.after (List.replicate n .dropFont) = ⟨h.cache, h.owners - n, h.held, h.counts⟩
  /-- With the last one a reference to each glyph goes. -/
  drop_last : h.owners ≠ 0 →
    let bare := h.after (List.replicate h.owners .dropFont)
    bare = h.dropAll ∧ bare.owners = 0 ∧ bare.held = h.held ∧ bare.cache = h.cache ∧
      ∀ i < h.cache.size, h.countOf i = bare.countOf i + 1
  takeBack_iff : ∀ name slot, h.handle? name = some slot →
    ((∃ g, ((h.forget name).takeBack? slot).2 = .ok g) ↔ h.countOf slot.index = 1) ∧
    (h.countOf slot.index = 1 ↔ h.owners = 0 ∧
      ∀ other held, h.handle? other = some held → held.index = slot.index → other = name)
  /-- Once everything is given up that was taken, nothing is left of it. -/
  no_leak : h.owners = 1 → h.held = [] → h = ofCache h.cache

/-- A glyph is had for good if no reference but that of its name is left. -/
lemma takeBack?_ok_iff (h : FontHandles C F L) (slot : Slot F L) :
    (∃ g, (h.takeBack? slot).2 = .ok g) ↔ h.countOf slot.index = 1 := by
  simp only [takeBack?]
  by_cases hone : h.countOf slot.index = 1
  · simp [hone]
  · simp [hone]

lemma Balanced.lookup_answers {h : FontHandles C F L} (hb : Balanced [] h) (howned : h.owners ≠ 0)
    {content : CellBuffer} {later : FontHandles C F L} {slot : Slot F L}
    (hlookup : h.lookup content = (later, .ok slot)) :
    later.cache.slot? content = some slot ∧ later.owners = h.owners ∧ later.held = h.held ∧
      (∀ i < later.cache.size,
        later.countOf i = 1 + h.holders i + if slot.index = i then 1 else 0) ∧
      (later.takeBack? slot).2 = .error (2 + h.holders slot.index) := by
  obtain ⟨e, -, heq⟩ | ⟨found, answer, heq⟩ := h.lookup_cases content
  · rw [heq] at hlookup
    cases hlookup
  · rw [heq] at hlookup
    cases hlookup
    obtain ⟨hloose, hslot⟩ := hb.lookup_ok howned answer
    have hcount : ∀ i < (h.cache.lookup content).value.1.size,
        ((h.advance (h.cache.lookup content).value.1).acquire slot.index).countOf i
          = 1 + h.holders i + if slot.index = i then 1 else 0 := by
      intro i hi
      have htable : tableRefs ((h.advance (h.cache.lookup content).value.1).acquire slot.index)
          = 1 := if_neg howned
      rw [hloose.countOf_eq i hi, htable, List.count_singleton]
      simp only [beq_iff_eq]
      rfl
    refine ⟨slot?_of_lookup_eq_ok answer, rfl, rfl, hcount, ?_⟩
    have hshared := hcount slot.index hslot.lt_size
    rw [if_pos rfl] at hshared
    rw [takeBack?, hshared, if_neg (by omega)]
    exact congrArg Except.error (by omega)

lemma Balanced.lookup_refuses {h : FontHandles C F L} (hb : Balanced [] h) {content : CellBuffer}
    {later : FontHandles C F L} {e : GlyphError} (hlookup : h.lookup content = (later, .error e)) :
    later.cache.entries = h.cache.entries ∧ later.owners = h.owners ∧ later.held = h.held ∧
      later.counts = h.counts := by
  obtain ⟨error, answer, heq⟩ | ⟨slot, -, heq⟩ := h.lookup_cases content
  · rw [heq] at hlookup
    cases hlookup
    have hentries : (h.cache.lookup content).value.1.entries = h.cache.entries := by
      obtain ⟨-, -, hcache⟩ | ⟨-, -, hcache⟩ := lookup_of_error answer
      · rw [hcache]
      · rw [hcache]
        rfl
    have hsize : (h.cache.lookup content).value.1.size - h.counts.length = 0 := by
      rw [hb.length_counts, size, hentries]
      exact Nat.sub_self _
    refine ⟨hentries, rfl, rfl, ?_⟩
    rw [FontHandles.advance, hsize]
    exact List.append_nil _
  · rw [heq] at hlookup
    cases hlookup

lemma Balanced.referencesCounted {h : FontHandles C F L} (hb : Balanced [] h) :
    ReferencesCounted h where
  countOf_eq := hb.countOf_eq
  names_nodup := hb.names_nodup
  held_fits := fun name slot found => hb.held_fits _ (hb.handle?_eq_some.mp found)
  handle_eq := h.handle?_perform
  lookup_ok := fun howned content later slot hlookup => hb.lookup_answers howned hlookup
  lookup_error := fun content later e hlookup => hb.lookup_refuses hlookup
  draw_kept := by
    intro S surface state content x y
    have hsize := (h.cache.lookup_extends content).size_le
    have heq := h.draw_eq surface state content x y
    rw [draw_fst] at heq ⊢
    refine ⟨rfl, rfl, fun i hi => ?_, fun i hi hnew => ?_, heq⟩
    · have hcount := hb.countOf_advance (Nat.lt_of_lt_of_le hi hsize)
      exact hcount.trans (if_pos hi)
    · have hcount := hb.countOf_advance hi
      exact hcount.trans (if_neg (Nat.not_lt.mpr hnew))
  contains_kept := fun content => rfl
  drop_others := fun n hn => h.after_replicate_dropFont hn
  drop_last := by
    intro howned
    have hfields : h.dropAll.owners = 0 ∧ h.dropAll.held = h.held ∧ h.dropAll.cache = h.cache := by
      rw [h.dropAll_eq howned]
      exact ⟨rfl, rfl, rfl⟩
    obtain ⟨howners, hheld, hcache⟩ := hfields
    rw [h.after_dropFonts howned]
    refine ⟨rfl, howners, hheld, hcache, fun i hi => ?_⟩
    have hcount := hb.countOf_eq i hi
    rw [tableRefs, if_neg howned] at hcount
    rw [h.countOf_dropAll howned]
    omega
  takeBack_iff := fun name slot found =>
    ⟨takeBack?_ok_iff (h.forget name) slot, hb.countOf_eq_one_iff found⟩
  no_leak := hb.eq_ofCache

/-- **References are counted.**  Whatever is looked up, held, drawn, released, taken back, shared or
dropped, each glyph has one reference for the table, as long as the font is held, and one for each
name under which it is held. -/
theorem references_counted (cache : GlyphCache C F L) (calls : List (HandleCall F L)) :
    ReferencesCounted ((ofCache cache).after calls) :=
  ((Balanced.ofCache cache).after calls).referencesCounted

/-- One glyph is held under two names.  When the font is gone and one of the names is released, the
other is left alone with it. -/
example : ((ofCache (.blank sampleScript.engine 16 16)).after
    [.lookup (.ofText "fi") (some "a"), .lookup (.ofText "fi") (some "b"), .share, .dropFont,
      .dropFont, .release "b"]).references? "a" = some 1 := by decide +kernel

end FontHandles
end GlyphGrid
