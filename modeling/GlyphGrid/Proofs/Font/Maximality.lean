import GlyphGrid.Proofs.Font.Description

/-!
# Where runs are maximal

A run goes on as far as its face has the characters, so two neighbouring runs should differ in the
face.  They do where every character has one.  A character that no face has is shown with the
primary face, though, and this face does not have it either: it begins a run of its own, also behind
a run that is in the primary face already (`Segment.Follows.face_eq_iff`).  No other neighbours
share a face.

So two characters that are missing everywhere are two runs in the primary face, and are kept as a
layout, where one run would do.  `NeighbourFaces` says this of the runs of a text; those that the
table of a font keeps for a content are of this kind.
-/

namespace GlyphGrid

/-! ## Missing characters -/

namespace FontStack

variable {fonts : FontStack} {c : Char}

lemma missing_iff : fonts.Missing c ↔ ∀ f ∈ fonts.faces, f.face.covers c = false := by
  rw [List.forall_mem_iff_getElem]
  constructor
  · intro h i hi
    rw [← covers_of_lt hi]
    exact h i
  · intro h i
    by_cases hi : i < fonts.faces.length
    · rw [covers_of_lt hi]
      exact h i hi
    · rw [covers, get?, List.getElem?_eq_none (Nat.le_of_not_lt hi)]
      rfl

instance (fonts : FontStack) (c : Char) : Decidable (fonts.Missing c) :=
  decidable_of_iff _ missing_iff.symm

lemma Missing.not_covers (h : fonts.Missing c) (i : Nat) : ¬fonts.covers i c = true :=
  Bool.eq_false_iff.mp (h i)

lemma Missing.faceFor_eq_zero (h : fonts.Missing c) : fonts.faceFor c = 0 := by
  obtain ⟨hcovers, -⟩ | ⟨-, hzero⟩ := fonts.faceFor_cases c
  · exact absurd hcovers (h.not_covers _)
  · exact hzero

lemma covers_faceFor (h : ¬fonts.Missing c) : fonts.covers (fonts.faceFor c) c = true := by
  obtain ⟨hcovers, -⟩ | ⟨hmissing, -⟩ := fonts.faceFor_cases c
  · exact hcovers
  · exact absurd hmissing h

end FontStack

/-! ## Neighbouring segments -/

namespace Segment

variable {fonts : FontStack} {cs : List Char}

/-- The next segment is in another face, unless it begins with a character that no face has and the
primary face follows itself. -/
lemma Follows.face_eq_iff {s t : Segment} (h : Follows fonts s t) (ht : t.Fits fonts) :
    s.face = t.face ↔ s.face = 0 ∧ ∀ c ∈ t.chars.head?, fonts.Missing c := by
  obtain ⟨c, cs, hchars, hface, -⟩ := ht
  have huncovered := h.uncovered
  simp only [hchars, List.head?_cons, Option.mem_some_iff, forall_eq'] at huncovered ⊢
  constructor
  · intro hsame
    by_cases hmissing : fonts.Missing c
    · exact ⟨by rw [hsame, hface, hmissing.faceFor_eq_zero], hmissing⟩
    · have hcovers := FontStack.covers_faceFor hmissing
      rw [← hface, ← hsame, huncovered] at hcovers
      cases hcovers
  · rintro ⟨hprimary, hmissing⟩
    rw [hprimary, hface, hmissing.faceFor_eq_zero]

variable (fonts cs) in
lemma isChain_face_list : (list fonts cs).IsChain fun s t =>
    s.face = t.face ↔ s.face = 0 ∧ ∀ c ∈ t.chars.head?, fonts.Missing c :=
  (isChain_list fonts cs).imp_of_mem_imp fun _ _ _ ht h => h.face_eq_iff (fits_of_mem_list ht)

/-- Neighbours differ where every character has a face. -/
lemma isChain_ne_list (h : ∀ c ∈ cs, ¬fonts.Missing c) :
    ((list fonts cs).map Segment.face).IsChain (· ≠ ·) := by
  rw [List.isChain_map]
  refine (isChain_face_list fonts cs).imp_of_mem_imp fun s t _ ht hsame hface => ?_
  obtain ⟨-, hmissing⟩ := hsame.mp hface
  obtain ⟨c, rest, hchars⟩ := List.exists_cons_of_ne_nil (fits_of_mem_list ht).ne_nil
  have hc : c ∈ cs := by
    rw [← flatMap_chars_list fonts cs]
    exact List.mem_flatMap.mpr ⟨t, ht, hchars ▸ List.mem_cons_self⟩
  exact h c hc (hmissing c (by rw [hchars]; rfl))

/-- A missing character is never behind another one of its segment. -/
lemma not_missing_of_mem_tail {s : Segment} (hs : s ∈ list fonts cs) :
    ∀ c ∈ s.chars.tail, ¬fonts.Missing c := by
  obtain ⟨first, rest, hchars, -, hrest⟩ := fits_of_mem_list hs
  intro c hc hmissing
  rw [hchars] at hc
  exact hmissing.not_covers s.face (hrest c hc)

/-- Each missing character begins a segment, whatever is open before it. -/
lemma map_face_listFrom {face start : Nat} {begun : List Char} (h : ∀ c ∈ cs, fonts.Missing c) :
    (listFrom fonts face start begun cs).map Segment.face
      = face :: List.replicate cs.length 0 := by
  induction cs generalizing face start begun with
  | nil => rfl
  | cons c cs ih =>
    rw [List.forall_mem_cons] at h
    rw [listFrom, if_neg (h.1.not_covers face), List.map_cons, ih h.2, h.1.faceFor_eq_zero,
      List.length_cons, List.replicate_succ]

lemma map_face_list (h : ∀ c ∈ cs, fonts.Missing c) :
    (list fonts cs).map Segment.face = List.replicate cs.length 0 := by
  cases cs with
  | nil => rfl
  | cons c cs =>
    rw [List.forall_mem_cons] at h
    rw [list, map_face_listFrom h.2, h.1.faceFor_eq_zero, List.length_cons, List.replicate_succ]

end Segment

/-- Of missing characters only a single one is in one face. -/
lemma FontStack.inOneFace_iff_of_missing {fonts : FontStack} {cs : List Char} (hne : cs ≠ [])
    (h : ∀ c ∈ cs, fonts.Missing c) : fonts.InOneFace cs ↔ cs.length = 1 := by
  obtain ⟨c, rest, rfl⟩ := List.exists_cons_of_ne_nil hne
  rw [List.length_cons, Nat.add_eq_right, List.length_eq_zero_iff]
  constructor
  · intro hface
    rw [List.eq_nil_iff_forall_not_mem]
    intro d hd
    exact (h d (List.mem_cons_of_mem c hd)).not_covers _ (hface c rfl d hd)
  · rintro rfl
    exact fun _ _ d hd => absurd hd List.not_mem_nil

/-! ## Neighbouring runs -/

/-- How the faces of neighbouring runs of a text compare. -/
structure NeighbourFaces (fonts : FontStack) (text : String) (runs : List (GlyphRun FontFace)) :
    Prop where
  /-- The runs are in the faces of the segments, one for each. -/
  faces_eq : runs.map (fun run => run.face.index)
    = (Segment.list fonts text.toList).map Segment.face
  /-- Two neighbours share a face exactly if the first is in the primary face and the other begins
  with a missing character. -/
  same_face_iff : (Segment.list fonts text.toList).IsChain fun s t =>
    s.face = t.face ↔ s.face = 0 ∧ ∀ c ∈ t.chars.head?, fonts.Missing c
  not_missing_of_mem_tail : ∀ s ∈ Segment.list fonts text.toList,
    ∀ c ∈ s.chars.tail, ¬fonts.Missing c
  /-- Where every character has a face, the runs are maximal. -/
  maximal_of_covered : (∀ c ∈ text.toList, ¬fonts.Missing c) →
    (runs.map fun run => run.face.index).IsChain (· ≠ ·)
  /-- Where no character has one, each of them is a run in the primary face. -/
  faces_of_missing : (∀ c ∈ text.toList, fonts.Missing c) →
    (runs.map fun run => run.face.index) = List.replicate text.length 0

lemma neighbourFaces_of_shapeRuns {context : ShapingContext} {text : String}
    {runs : List (GlyphRun FontFace)} (h : context.shapeRuns text = .ok runs) :
    NeighbourFaces context.fonts text runs := by
  have hfaces : runs.map (fun run => run.face.index)
      = (Segment.list context.fonts text.toList).map Segment.face := by
    rw [← List.forall₂_eq_eq_eq, List.forall₂_map_left_iff, List.forall₂_map_right_iff]
    exact List.Forall₂.flip ((context.forall₂_runOf h).imp fun _ _ hrun => hrun.index_eq)
  refine ⟨hfaces, Segment.isChain_face_list _ _, fun _ hs => Segment.not_missing_of_mem_tail hs,
    ?_, ?_⟩
  · intro hcovered
    rw [hfaces]
    exact Segment.isChain_ne_list hcovered
  · intro hmissing
    rw [hfaces, Segment.map_face_list hmissing, String.length_toList]

/-- **Runs are maximal up to missing characters.**  With the faces of any stack, neighbouring runs
of any text share a face only where it is the primary one and no face has the character between
them; the glyphs of a font have such runs, and missing characters alone are one run only if there is
one of them. -/
theorem runs_maximal_up_to_missing (fonts : FontStack) :
    (∀ context : ShapingContext, context.fonts = fonts → ∀ text, ∃ runs,
      context.shapeRuns text = .ok runs ∧ NeighbourFaces fonts text runs) ∧
    ∀ height cache, (GlyphCache.create fonts.engine height).value = .ok cache →
      ∀ calls content, content.content ≠ [] →
        ∃ slot, ((cache.after calls).lookup content).value.2 = .ok slot ∧
          NeighbourFaces fonts content.text slot.glyph.description.runs ∧
          ((∀ c ∈ content.text.toList, fonts.Missing c) →
            (slot.glyph.kind = .run ↔ content.text.length = 1)) := by
  constructor
  · rintro context rfl text
    obtain ⟨runs, hruns⟩ := context.exists_shapeRuns_eq_ok text
    exact ⟨runs, hruns, neighbourFaces_of_shapeRuns hruns⟩
  · intro height cache created calls content nonempty
    have hnew := GlyphCache.isNew_of_create created
    obtain ⟨slot, answer, hdecides⟩ := hnew.exists_lookup_faceDecides calls nonempty
    have hfaces := neighbourFaces_of_shapeRuns hdecides.runs_eq
    rw [FontStack.fonts_of_createContext hnew.context_ok] at hfaces
    refine ⟨slot, answer, hfaces, fun hmissing => ?_⟩
    have htext : content.text.toList ≠ [] :=
      mt String.toList_eq_nil_iff.mp (CellBuffer.text_ne_empty nonempty)
    rw [hdecides.run_iff, FontStack.inOneFace_iff_of_missing htext hmissing,
      String.length_toList]

/-- Two Chinese characters, which neither of two faces has, are two segments in the primary face,
and their glyph is a layout of two runs. -/
theorem runs_not_maximal_for_missing :
    (¬∀ (fonts : FontStack) (text : String),
      (Segment.list fonts text.toList).IsChain fun s t => s.face ≠ t.face) ∧
    (∀ c ∈ (CellBuffer.ofText "一丁").text.toList, sampleStack.Missing c) ∧
    ∃ cache slot, (GlyphCache.create sampleStack.engine 16).value = .ok cache ∧
      (cache.lookup (.ofText "一丁")).value.2 = .ok slot ∧ slot.glyph.kind ≠ .run ∧
      slot.glyph.description.runs.map (fun run => run.face.index) = [0, 0] := by
  have hall : (CellBuffer.ofText "一丁").text.toList.all (sampleStack.Missing ·) = true := by
    decide +kernel
  have hmissing := fun c hc => of_decide_eq_true (List.all_eq_true.mp hall c hc)
  refine ⟨fun hmaximal => ?_, hmissing, ?_⟩
  · have hchain := hmaximal sampleStack "一丁"
    revert hchain
    decide +kernel
  · obtain ⟨cache, created⟩ := exists_create_sampleStack
    have hnew := GlyphCache.isNew_of_create created
    have hshows : (CellBuffer.ofText "一丁").content ≠ [] := by decide
    obtain ⟨slot, answer, hdecides⟩ := hnew.exists_lookup_faceDecides [] hshows
    have hfaces := neighbourFaces_of_shapeRuns hdecides.runs_eq
    rw [FontStack.fonts_of_createContext hnew.context_ok] at hfaces
    refine ⟨cache, slot, created, answer, ?_, ?_⟩
    · rw [ne_eq, hdecides.run_iff]
      decide +kernel
    · rw [hfaces.faces_of_missing hmissing]
      decide +kernel

end GlyphGrid
