import Mathlib.Data.List.Perm.Basic
import GlyphGrid.Proofs.Font.Partition

/-!
# Glyphs keep to their segment

A glyph names the byte of the text that it stands for, its cluster.  Shaping a segment numbers the
characters by clusters first, all of them bytes of the segment (`cluster_mem_listFrom`), and after
that it takes characters apart, sorts marks, puts characters together and leaves some out, but it
never makes up a cluster: what comes out of a step has clusters of what went in.  So a glyph stands
for a byte of its own segment, whatever the face does with the characters (`cluster_mem_place`).

With the segments of a text this gives the runs of a text, one for each segment and each of them
within it (`shapeRuns_partition`).
-/

namespace GlyphGrid

open Text

namespace Piece

/-- The clusters of some characters, in order. -/
def clusters (ps : List Piece) : List Nat := ps.map Piece.cluster

/-! ## Numbering -/

/-- Characters are numbered from the byte where the first cluster began to the byte before the
end. -/
lemma cluster_mem_listFrom {before : Before} {cluster offset : Nat} {cs : List Char} {p : Piece}
    (hle : cluster ≤ offset) (h : p ∈ listFrom before cluster offset cs) :
    cluster ≤ p.cluster ∧ p.cluster < offset + Segment.byteLength cs := by
  induction cs generalizing before cluster offset with
  | nil => exact absurd h List.not_mem_nil
  | cons c cs ih =>
    have hsize := c.utf8Size_pos
    rw [listFrom] at h
    rw [Segment.byteLength_cons]
    -- The character belongs to the cluster before it or begins one at its own byte.
    generalize hown : (if continues before c then cluster else offset) = own at h
    have hbounds : cluster ≤ own ∧ own ≤ offset := by
      rw [← hown]
      split
      · exact ⟨Nat.le_refl _, hle⟩
      · exact ⟨hle, Nat.le_refl _⟩
    rcases List.mem_cons.mp h with hfirst | hlater
    · have hcluster : p.cluster = own := by rw [hfirst]
      omega
    · have hnext := ih (by omega) hlater
      omega

/-! ## Groups and marks -/

lemma flatten_groups (ps : List Piece) : (groups ps).flatten = ps := by
  induction ps with
  | nil => rfl
  | cons p ps ih =>
    rw [groups]
    split
    · next q marks others hgroups =>
      rw [hgroups] at ih
      split
      · rw [← ih]
        rfl
      · rw [← ih]
        rfl
    · rw [List.flatten_cons, ih, List.singleton_append]

lemma sortRun_perm (run : List Piece) : (sortRun run).Perm run := by
  unfold sortRun
  split
  · exact List.mergeSort_perm run _
  · exact List.Perm.refl run

/-- Sorting loses no character and adds none. -/
lemma sortMarks_perm (run ps : List Piece) : (sortMarks run ps).Perm (run.reverse ++ ps) := by
  induction ps generalizing run with
  | nil =>
    rw [sortMarks, List.append_nil]
    exact sortRun_perm run.reverse
  | cons p ps ih =>
    rw [sortMarks]
    split
    · exact (sortRun_perm run.reverse).append ((ih []).cons p)
    · have hstep := ih (p :: run)
      rw [List.reverse_cons, List.append_assoc, List.singleton_append] at hstep
      exact hstep

end Piece

namespace Face

variable (f : Face)

/-! ## Taking apart and putting together -/

lemma cluster_of_mem_spell {isBrief : Bool} {p q : Piece} (h : q ∈ f.spell isBrief p) :
    q.cluster = p.cluster := by
  unfold spell at h
  split at h
  · rw [List.mem_singleton.mp h]
  · obtain ⟨c, -, rfl⟩ := List.mem_map.mp h
    rfl

lemma clusters_spellGroup_subset (group : List Piece) :
    Piece.clusters (f.spellGroup group) ⊆ Piece.clusters group := by
  intro n hn
  obtain ⟨q, hq, rfl⟩ := List.mem_map.mp hn
  unfold spellGroup at hq
  split at hq
  · next p =>
    split at hq
    · exact List.mem_map_of_mem hq
    · rw [f.cluster_of_mem_spell hq]
      exact List.mem_map_of_mem List.mem_cons_self
  · split at hq
    · exact List.mem_map_of_mem hq
    · obtain ⟨p, hp, hspell⟩ := List.mem_flatMap.mp hq
      rw [f.cluster_of_mem_spell hspell]
      exact List.mem_map_of_mem hp

/-- A character that is put together has the cluster of its base. -/
lemma clusters_compose_subset (base : Piece) (between ps : List Piece) :
    Piece.clusters (f.compose base between ps) ⊆ Piece.clusters (base :: (between ++ ps)) := by
  induction ps generalizing base between with
  | nil =>
    intro n hn
    simpa [compose, Piece.clusters] using hn
  | cons p ps ih =>
    rw [compose]
    intro n hn
    split at hn
    · next c _ =>
      have hstep := ih ⟨c, base.cluster⟩ between hn
      simp only [Piece.clusters, List.map_cons, List.map_append, List.mem_cons,
        List.mem_append] at hstep ⊢
      tauto
    · split at hn
      · have hstep := fun hrest => ih p [] (a := n) hrest
        simp only [Piece.clusters, List.map_cons, List.map_append, List.map_reverse, List.mem_cons,
          List.mem_append, List.mem_reverse, List.nil_append] at hn hstep ⊢
        tauto
      · have hstep := ih base (p :: between) hn
        simp only [Piece.clusters, List.map_cons, List.map_append, List.mem_cons,
          List.mem_append] at hstep ⊢
        tauto

lemma clusters_normalForm_subset (ps : List Piece) :
    Piece.clusters (f.normalForm ps) ⊆ Piece.clusters ps := by
  have hspelled : Piece.clusters ((Piece.groups ps).flatMap f.spellGroup)
      ⊆ Piece.clusters ps := by
    intro n hn
    obtain ⟨q, hq, rfl⟩ := List.mem_map.mp hn
    obtain ⟨group, hgroup, hmem⟩ := List.mem_flatMap.mp hq
    obtain ⟨p, hp, hcluster⟩ :=
      List.mem_map.mp (f.clusters_spellGroup_subset group (List.mem_map_of_mem hmem))
    rw [← hcluster]
    have hall : p ∈ (Piece.groups ps).flatten := List.mem_flatten.mpr ⟨group, hgroup, hp⟩
    rw [Piece.flatten_groups] at hall
    exact List.mem_map_of_mem hall
  refine List.Subset.trans ?_ hspelled
  unfold normalForm
  simp only
  split
  · exact List.Subset.refl _
  · have hperm := Piece.sortMarks_perm [] ((Piece.groups ps).flatMap f.spellGroup)
    rw [List.reverse_nil, List.nil_append] at hperm
    have hsorted := (hperm.map Piece.cluster).subset
    split
    · exact List.nil_subset _
    · next p rest hlist =>
      rw [hlist] at hsorted
      exact List.Subset.trans (f.clusters_compose_subset p [] rest) hsorted

/-! ## Leaving out -/

/-- The first cluster that is left takes the place of the first of all. -/
lemma clusters_withoutIgnorable_subset (ps : List Piece) :
    Piece.clusters (withoutIgnorable ps) ⊆ Piece.clusters ps := by
  intro n hn
  obtain ⟨q, hq, rfl⟩ := List.mem_map.mp hn
  unfold withoutIgnorable at hq
  split at hq
  · next first _ kept rest hkept =>
    obtain ⟨hmem, -⟩ := List.mem_filter.mp hq
    rcases List.mem_append.mp hmem with hown | hother
    · obtain ⟨p, -, rfl⟩ := List.mem_map.mp hown
      exact List.mem_map.mpr ⟨first, List.mem_cons_self, rfl⟩
    · have hleft := List.dropWhile_subset _ hother
      rw [← hkept] at hleft
      exact List.mem_map_of_mem (List.dropWhile_subset _ hleft)
  · exact absurd hq List.not_mem_nil

/-- Every glyph stands for a byte of the characters that are shaped. -/
lemma cluster_mem_place {start : Nat} {cs : List Char} {g : UnscaledGlyph}
    (h : g ∈ f.place start cs) :
    start ≤ g.cluster ∧ g.cluster < start + Segment.byteLength cs := by
  unfold place at h
  obtain ⟨q, hq, rfl⟩ := List.mem_map.mp h
  have hcluster : (f.placePiece q).cluster = q.cluster := by
    unfold placePiece
    split <;> rfl
  have hnormal : q.cluster ∈ Piece.clusters (f.normalForm (Piece.list start cs)) := by
    split at hq
    · exact List.mem_map_of_mem hq
    · exact clusters_withoutIgnorable_subset _ (List.mem_map_of_mem hq)
  obtain ⟨p, hp, hsame⟩ := List.mem_map.mp (f.clusters_normalForm_subset _ hnormal)
  rw [hcluster, ← hsame]
  exact Piece.cluster_mem_listFrom (Nat.le_refl start) hp

end Face

/-! ## Runs -/

/-- A run that shapes a segment: in the segment's face, with glyphs for its bytes. -/
structure RunOf (context : ShapingContext) (s : Segment) (run : GlyphRun FontFace) : Prop where
  font_eq : context.fonts.get? s.face = some run.face.font
  index_eq : run.face.index = s.face
  pixelSize_eq : run.face.pixelSize = context.pixelSize
  cluster_mem : ∀ g ∈ run.glyphs.glyphs, s.start ≤ g.cluster ∧ g.cluster < s.stop

namespace ShapingContext

variable (context : ShapingContext)

lemma runOf_of_shapeSegment {s : Segment} {run : GlyphRun FontFace}
    (h : context.shapeSegment s = .ok run) : RunOf context s run := by
  unfold shapeSegment at h
  split at h
  · cases h
  · next font hfont =>
    cases h
    refine ⟨hfont, rfl, rfl, ?_⟩
    intro g hg
    obtain ⟨unscaled, hplace, rfl⟩ := List.mem_map.mp hg
    exact font.face.cluster_mem_place hplace

lemma forall₂_runOf {segments : List Segment} {runs : List (GlyphRun FontFace)}
    (h : context.shapeSegments segments = .ok runs) :
    List.Forall₂ (RunOf context) segments runs := by
  induction segments generalizing runs with
  | nil =>
    cases h
    exact .nil
  | cons s segments ih =>
    rw [shapeSegments] at h
    split at h
    · cases h
    · next run hrun =>
      cases hrest : context.shapeSegments segments with
      | error e =>
        rw [hrest] at h
        cases h
      | ok others =>
        rw [hrest] at h
        cases h
        exact .cons (context.runOf_of_shapeSegment hrun) (ih hrest)

/-- Glyphs for the bytes of segments that end within a length are for bytes within it. -/
lemma cluster_lt_of_forall₂ {segments : List Segment} {runs : List (GlyphRun FontFace)}
    {length : Nat} (h : List.Forall₂ (RunOf context) segments runs)
    (ends : ∀ s ∈ segments, s.stop ≤ length) :
    ∀ run ∈ runs, ∀ g ∈ run.glyphs.glyphs, g.cluster < length := by
  induction h with
  | nil => exact fun _ hrun => absurd hrun List.not_mem_nil
  | cons first _ ih =>
    rw [List.forall_mem_cons] at ends
    rw [List.forall_mem_cons]
    exact ⟨fun g hg => (first.cluster_mem g hg).2.trans_le ends.1, ih ends.2⟩

/-- **Segments partition a text.**  With the faces of any stack, the segments of a text lie side by
side from its first byte to its last, each in the face of its first character as far as this face
goes; shaping never fails and answers one run for each of them, with no glyph for a byte outside.  A
text of less than `2 ^ 32` bytes has clusters that fit in 32 bits. -/
theorem shapeRuns_partition (text : String) :
    Segment.Partition context.fonts text (Segment.list context.fonts text.toList) ∧
      ∃ runs, context.shapeRuns text = .ok runs ∧
        List.Forall₂ (RunOf context) (Segment.list context.fonts text.toList) runs ∧
        ∀ run ∈ runs, ∀ g ∈ run.glyphs.glyphs, g.cluster < text.utf8ByteSize := by
  have hpartition := Segment.partition_list context.fonts text
  obtain ⟨runs, hruns⟩ := context.exists_shapeRuns_eq_ok text
  have hrunOf := context.forall₂_runOf hruns
  refine ⟨hpartition, runs, hruns, hrunOf, context.cluster_lt_of_forall₂ hrunOf ?_⟩
  exact fun s hs => (hpartition.boundaries s hs).2.le_rawEndPos

end ShapingContext
end GlyphGrid
