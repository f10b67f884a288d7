import Mathlib.Tactic.Lemma
import GlyphGrid.Font.Shape

/-!
# Shaping finds every face

Shaping has one failure, a segment with a face that the stack does not have.  It never comes to
that: a segment gets its face from `FontStack.faceFor`, which answers a face of the stack or the
primary one (`faceFor_lt_count`), and keeps it while it goes on (`Segment.face_lt_of_mem_list`).  So
every text can be shaped in every context, and every layout can be brought up to date.
-/

namespace GlyphGrid

/-! ## Faces of segments -/

lemma FontStack.faceFor_lt_count (fonts : FontStack) (c : Char) :
    fonts.faceFor c < fonts.count := by
  rw [faceFor]
  cases hfind : fonts.faces.findIdx? (·.face.covers c) with
  | none => exact Nat.succ_pos _
  | some index =>
    obtain ⟨hindex, -⟩ := List.findIdx?_eq_some_iff_getElem.mp hfind
    exact hindex

lemma FontStack.exists_get?_eq_some {fonts : FontStack} {index : Nat} (h : index < fonts.count) :
    ∃ font, fonts.get? index = some font :=
  ⟨fonts.faces[index], List.getElem?_eq_getElem h⟩

namespace Segment

variable {fonts : FontStack}

/-- Cutting keeps to faces of the stack: the open segment has one, and each that is begun. -/
lemma face_lt_of_mem_listFrom {face start : Nat} {begun cs : List Char} {s : Segment}
    (hface : face < fonts.count) (h : s ∈ listFrom fonts face start begun cs) :
    s.face < fonts.count := by
  induction cs generalizing face start begun with
  | nil =>
    rw [listFrom, List.mem_singleton] at h
    rw [h]
    exact hface
  | cons c cs ih =>
    rw [listFrom] at h
    split at h
    · exact ih hface h
    · rcases List.mem_cons.mp h with hopen | hbegun
      · rw [hopen]
        exact hface
      · exact ih (fonts.faceFor_lt_count c) hbegun

lemma face_lt_of_mem_list {cs : List Char} {s : Segment} (h : s ∈ list fonts cs) :
    s.face < fonts.count := by
  cases cs with
  | nil => exact absurd h List.not_mem_nil
  | cons c cs => exact face_lt_of_mem_listFrom (fonts.faceFor_lt_count c) h

end Segment

/-! ## Shaping -/

namespace ShapingContext

variable (context : ShapingContext)

lemma exists_shapeSegment_eq_ok {s : Segment} (h : s.face < context.fonts.count) :
    ∃ run, context.shapeSegment s = .ok run := by
  obtain ⟨font, hfont⟩ := FontStack.exists_get?_eq_some h
  rw [shapeSegment, hfont]
  exact ⟨_, rfl⟩

lemma exists_shapeSegments_eq_ok {segments : List Segment}
    (h : ∀ s ∈ segments, s.face < context.fonts.count) :
    ∃ runs, context.shapeSegments segments = .ok runs := by
  induction segments with
  | nil => exact ⟨[], rfl⟩
  | cons s segments ih =>
    rw [List.forall_mem_cons] at h
    obtain ⟨run, hrun⟩ := context.exists_shapeSegment_eq_ok h.1
    obtain ⟨runs, hruns⟩ := ih h.2
    rw [shapeSegments, hrun, hruns]
    exact ⟨run :: runs, rfl⟩

lemma exists_shapeRuns_eq_ok (text : String) : ∃ runs, context.shapeRuns text = .ok runs :=
  context.exists_shapeSegments_eq_ok fun _ hs => Segment.face_lt_of_mem_list hs

/-- Every text can be shaped. -/
lemma exists_shape_eq_ok (text : String) : ∃ s, context.shape text = .ok s := by
  obtain ⟨runs, hruns⟩ := context.exists_shapeRuns_eq_ok text
  rw [shape, hruns]
  exact ⟨_, rfl⟩

end ShapingContext

/-- Every layout can be brought up to date. -/
lemma TextLayout.exists_refresh_eq_ok (l : TextLayout) : ∃ later, l.refresh = .ok later := by
  obtain ⟨runs, hruns⟩ := l.context.exists_shapeRuns_eq_ok l.text
  rw [refresh, hruns]
  exact ⟨_, rfl⟩

/-! ## A stack to try things on -/

/-- A face of sixteen units that has the characters between two code points, all of one width. -/
def sampleFace (first last : Nat) : Face :=
  ⟨"Sample", 16, 12, 4, 0, 8, [], [⟨first, last, 8, .outline [⟨0, 0, 8, 8⟩]⟩], true, 400, .normal,
    5, false⟩

/-- Letters without accents, and Greek letters as a fallback. -/
def sampleStack : FontStack :=
  ⟨⟨"Letters", 0, sampleFace 0x20 0x7E⟩, [⟨"Greek", 0, sampleFace 0x391 0x3C9⟩]⟩

end GlyphGrid
