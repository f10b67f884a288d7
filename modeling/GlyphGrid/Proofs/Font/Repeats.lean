import GlyphGrid.Proofs.Font.Segments
import GlyphGrid.Proofs.Font.Selection

/-!
# Primary faces that are their own fallbacks

Behind the primary face its own family is left out, so that the face should not be tried again.
What is compared is a name, though: the one that the primary face was loaded under.  So the face
comes again exactly if another one of the usual families leads to it
(`FontDatabase.Repeats.repeats_iff`).

A face that is asked for by its family is loaded under this name, and so is one that is found as the
nearest monospace face.  Where the generic family leads to the face it is loaded as `genericLabel`,
which is no family at all: if each face goes by one name, the primary face is its own fallback
exactly where it was found in this way and the generic family is one of the usual families.
-/

namespace GlyphGrid

namespace FontDatabase

variable {db : FontDatabase} {family? : Option String} {id : Nat} {stack : FontStack}
  {face : LoadedFace}

/-- A face that can be loaded under one name can be loaded under any other. -/
lemma load?_of_load? {label : String} (h : db.load? id label = some face) (other : String) :
    db.load? id other = some ⟨other, face.index, face.face⟩ := by
  obtain ⟨file, hfile, hload⟩ := Option.bind_eq_some_iff.mp h
  obtain ⟨faces, own, hfaces, hown, husable, rfl⟩ := FontFile.load?_eq_some_iff.mp hload
  exact Option.bind_eq_some_iff.mpr ⟨file, hfile,
    FontFile.load?_eq_some_iff.mpr ⟨faces, own, hfaces, hown, husable, rfl⟩⟩

lemma IsPrimary.loads (h : db.IsPrimary family? id face) : db.load? id face.label = some face := by
  cases h with
  | named _ _ loads => exact (label_of_load? loads).symm ▸ loads
  | monospace _ isMonospace =>
    cases isMonospace with
    | generic _ loads => exact (label_of_load? loads).symm ▸ loads
    | nearest _ _ loads => exact (label_of_load? loads).symm ▸ loads

/-- Each face is listed once and found under the one name that it goes by. -/
structure OneName (db : FontDatabase) : Prop where
  exists_record : ∀ family id, db.regular? family = some id →
    ∃ r ∈ db.records, r.id = id ∧ r.families = [family]
  id_inj : ∀ r ∈ db.records, ∀ s ∈ db.records, r.id = s.id → r = s

namespace OneName

lemma eq_label (h : db.OneName) {r : FontRecord} (hr : r ∈ db.records) {family : String}
    (regular : db.regular? family = some r.id) : family = r.label := by
  obtain ⟨s, hs, hid, hfamilies⟩ := h.exists_record family r.id regular
  rw [h.id_inj r hr s hs hid.symm, FontRecord.label, hfamilies]
  rfl

lemma eq_of_regular? (h : db.OneName) {family other : String}
    (regular : db.regular? family = some id) (regular' : db.regular? other = some id) :
    family = other := by
  obtain ⟨r, hr, rfl, -⟩ := h.exists_record family id regular
  exact (h.eq_label hr regular).trans (h.eq_label hr regular').symm

end OneName

/-- A fallback is the face with a number again. -/
def HasFallback (db : FontDatabase) (stack : FontStack) (id : Nat) : Prop :=
  ∃ f ∈ stack.fallbacks, db.regular? f.label = some id

/-- When the primary face of a stack, which has a number in its database, is its own fallback. -/
structure Repeats (db : FontDatabase) (family? : Option String) (id : Nat) (stack : FontStack) :
    Prop where
  repeats_iff : db.HasFallback stack id ↔
    ∃ family ∈ fallbackFamilies, family ≠ stack.primary.label ∧ db.regular? family = some id
  /-- A fallback with the number of the primary face is that face, under another name. -/
  same_face : ∀ f ∈ stack.fallbacks, db.regular? f.label = some id →
    f = ⟨f.label, stack.primary.index, stack.primary.face⟩ ∧ f.label ≠ stack.primary.label
  /-- Where faces go by one name, only the generic family leads to repeated faces. -/
  oneName_iff : db.OneName → (db.HasFallback stack id ↔ db.IsUnusable family? ∧
    db.regular? db.monospaceFamily = some id ∧ db.monospaceFamily ∈ fallbackFamilies)

lemma IsChain.hasFallback_iff (h : db.IsChain stack.primary.label stack.fallbacks)
    (primary : db.IsPrimary family? id stack.primary) : db.HasFallback stack id ↔
      ∃ family ∈ fallbackFamilies, family ≠ stack.primary.label ∧ db.regular? family = some id := by
  constructor
  · rintro ⟨f, hf, hregular⟩
    obtain ⟨hmem, hother, -⟩ := (h.mem_iff f).mp hf
    exact ⟨f.label, hmem, hother, hregular⟩
  · rintro ⟨family, hmem, hother, hregular⟩
    have hloads : db.loadFamily? family = some ⟨family, stack.primary.index, stack.primary.face⟩ :=
      loadFamily?_eq_some_iff.mpr ⟨id, hregular, load?_of_load? primary.loads family⟩
    exact ⟨⟨family, _, _⟩, (h.mem_iff _).mpr ⟨hmem, hother, hloads⟩, hregular⟩

lemma genericLabel_notMem_fallbackFamilies : genericLabel ∉ fallbackFamilies := by decide +kernel

/-- A usual family other than its label leads to a primary face that goes by one name only if the
generic family led to it. -/
lemma IsPrimary.exists_other_family_iff (primary : db.IsPrimary family? id face)
    (oneName : db.OneName) :
    (∃ family ∈ fallbackFamilies, family ≠ face.label ∧ db.regular? family = some id) ↔
      db.IsUnusable family? ∧ db.regular? db.monospaceFamily = some id ∧
        db.monospaceFamily ∈ fallbackFamilies := by
  cases primary with
  | named asked regular loads =>
    refine iff_of_false ?_ fun h => ?_
    · rintro ⟨other, -, hother, hregular⟩
      exact hother ((oneName.eq_of_regular? hregular regular).trans (label_of_load? loads).symm)
    · have hloads := loadFamily?_eq_some_iff.mpr ⟨id, regular, loads⟩
      exact absurd (hloads.symm.trans (h.1 _ asked)) nofun
  | monospace unusable isMonospace =>
    cases isMonospace with
    | generic regular loads =>
      rw [label_of_load? loads]
      constructor
      · rintro ⟨other, hmem, -, hregular⟩
        rw [oneName.eq_of_regular? hregular regular] at hmem
        exact ⟨unusable, regular, hmem⟩
      · rintro ⟨-, -, hmem⟩
        refine ⟨_, hmem, fun hsame => ?_, regular⟩
        exact genericLabel_notMem_fallbackFamilies (hsame ▸ hmem)
    | nearest unresolved isNearest loads =>
      refine iff_of_false ?_ fun h => absurd (h.2.1.symm.trans unresolved) nofun
      rintro ⟨other, -, hother, hregular⟩
      obtain ⟨before, after, hrecords, -, -⟩ := isNearest.exists_split
      have hr := hrecords ▸ List.mem_append_right before List.mem_cons_self
      exact hother ((oneName.eq_label hr hregular).trans (label_of_load? loads).symm)

end FontDatabase

/-! ## The names of a catalogue -/

namespace Catalogue

lemma mem_number {index : Nat} {faces : List Face} {l : ListedFace} (h : l ∈ number index faces) :
    index ≤ l.index ∧ faces[l.index - index]? = some l.face := by
  induction faces generalizing index with
  | nil => cases h
  | cons f faces ih =>
    rcases List.mem_cons.mp h with rfl | hrest
    · exact ⟨Nat.le_refl index, by rw [Nat.sub_self, List.getElem?_cons_zero]⟩
    · obtain ⟨hle, hface⟩ := ih hrest
      have hsucc : l.index - index = (l.index - (index + 1)) + 1 := by omega
      exact ⟨by omega, by rw [hsucc, List.getElem?_cons_succ, hface]⟩

lemma mem_of_mem_narrow {rank : Face → Nat} {faces : List ListedFace} {l : ListedFace}
    (h : l ∈ narrow rank faces) : l ∈ faces := by
  unfold narrow at h
  split at h
  · cases h
  · exact List.mem_of_mem_filter h

lemma mem_listed_of_regular? {c : Catalogue} {family : String} {l : ListedFace}
    (h : c.regular? family = some l) : l ∈ c.listed ∧ l.face.family = family := by
  have hmem := mem_of_mem_narrow (mem_of_mem_narrow (mem_of_mem_narrow (List.mem_of_mem_head? h)))
  obtain ⟨hlisted, hfamily⟩ := List.mem_filter.mp hmem
  exact ⟨hlisted, eq_of_beq hfamily⟩

/-- The faces of a catalogue go by one name each. -/
lemma oneName (c : Catalogue) : c.database.OneName where
  exists_record family id h := by
    obtain ⟨l, hl, rfl⟩ := Option.map_eq_some_iff.mp h
    obtain ⟨hlisted, hfamily⟩ := mem_listed_of_regular? hl
    exact ⟨l.record, List.mem_map_of_mem hlisted, rfl, congrArg (fun name => [name]) hfamily⟩
  id_inj r hr s hs h := by
    obtain ⟨l, hl, rfl⟩ := List.mem_map.mp hr
    obtain ⟨m, hm, rfl⟩ := List.mem_map.mp hs
    have hindex : l.index = m.index := h
    have hface := (mem_number hl).2.symm.trans (hindex ▸ (mem_number hm).2)
    obtain ⟨i, f⟩ := l
    obtain ⟨j, g⟩ := m
    cases hindex
    cases hface
    rfl

end Catalogue

/-! ## Repeated faces -/

namespace FontDatabase

variable {db : FontDatabase} {family? : Option String} {id : Nat} {stack : FontStack}

/-- **When a primary face is its own fallback.**  In any database it is if and only if one of the
usual families, other than the name that the face was loaded under, leads to it; where faces go by
one name this happens to the generic monospace face alone, and whenever the generic family is a
usual one. -/
theorem primary_repeats_iff (selected : (FontStack.select db family?).value = .ok stack)
    (primary : db.IsPrimary family? id stack.primary) : db.Repeats family? id stack := by
  have hchain := isChain_of_value_select selected
  have hiff := hchain.hasFallback_iff primary
  refine ⟨hiff, ?_, fun oneName => hiff.trans (primary.exists_other_family_iff oneName)⟩
  intro f hf hregular
  obtain ⟨-, hother, hloads⟩ := (hchain.mem_iff f).mp hf
  obtain ⟨own, hown, hload⟩ := loadFamily?_eq_some_iff.mp hloads
  cases hown.symm.trans hregular
  exact ⟨Option.some.inj (hload.symm.trans (load?_of_load? primary.loads f.label)), hother⟩

/-- A face of a catalogue that stands for monospace fonts, and one more of the usual families. -/
def genericSample : Catalogue :=
  ⟨[{ sampleFace 0x20 0x7E with family := "Menlo" },
    { sampleFace 0x391 0x3C9 with family := "DejaVu Sans" }], "Menlo"⟩

/-- What is asked for is not there, the generic family leads to a face, and the face comes again
behind itself. -/
theorem primary_repeats_of_generic : ∃ stack,
    (FontStack.select genericSample.database (some "Gone")).value = .ok stack ∧
      genericSample.database.IsPrimary (some "Gone") 0 stack.primary ∧
      genericSample.database.HasFallback stack 0 := by
  have hunusable : genericSample.database.IsUnusable (some "Gone") := by
    intro family hfamily
    cases hfamily
    decide +kernel
  have hprimary : genericSample.database.IsPrimary (some "Gone") 0
      ⟨genericLabel, 0, { sampleFace 0x20 0x7E with family := "Menlo" }⟩ :=
    .monospace hunusable (.generic (by decide +kernel) (by decide +kernel))
  have hselected := value_select_of_some (value_loadPrimary_eq_some_iff.mpr ⟨0, hprimary⟩)
  have hrepeats := primary_repeats_iff hselected hprimary
  refine ⟨_, hselected, hprimary, (hrepeats.oneName_iff genericSample.oneName).mpr ?_⟩
  exact ⟨hunusable, by decide +kernel, by decide +kernel⟩

/-- So a primary face can be its own fallback. -/
theorem primary_not_left_out : ¬∀ (db : FontDatabase) (family? : Option String) (id : Nat)
    (stack : FontStack), (FontStack.select db family?).value = .ok stack →
      db.IsPrimary family? id stack.primary → ¬db.HasFallback stack id := by
  intro h
  have hprimary : genericSample.database.IsPrimary none 0
      ⟨genericLabel, 0, { sampleFace 0x20 0x7E with family := "Menlo" }⟩ :=
    .monospace isUnusable_none (.generic (by decide +kernel) (by decide +kernel))
  have hselected := value_select_of_some (value_loadPrimary_eq_some_iff.mpr ⟨0, hprimary⟩)
  refine h _ none 0 _ hselected hprimary
    ⟨⟨"Menlo", 0, { sampleFace 0x20 0x7E with family := "Menlo" }⟩, ?_, by decide +kernel⟩
  decide +kernel

end FontDatabase
end GlyphGrid
