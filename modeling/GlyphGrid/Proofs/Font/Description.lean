import GlyphGrid.Proofs.Cache.Calibration
import GlyphGrid.Proofs.Cache.InPlace
import GlyphGrid.Proofs.Cell.Text
import GlyphGrid.Proofs.Font.Placement
import GlyphGrid.Proofs.Glyph.Cluster
import GlyphGrid.Raster.Canvas

/-!
# Which contents are kept as one run

A glyph is kept as one run, which is painted as it is, or as a layout, which is shaped again each
time.  With the faces of a stack it depends on the first character alone which of the two it is: the
text is one segment exactly if the face of that character has all the others
(`Segment.list_of_inOneFace`, `Segment.two_le_length_list`), segments and runs correspond, and a
text that is not empty has at least one.  `FaceDecides` says this of a glyph, together with its
width and with what becomes of a layout that is brought up to date: as it was shaped from its own
text in its own context, nothing (`TextLayout.refresh_of_shapeRuns`).

The advances of the runs are added as words.  A glyph is as wide as their sum, rounded to the
nearest pixel, while both the sum and the rounding stay within 32 bits (`Fixed.IsWidthOfSum`), and
four letters of half a million pixels do not (`faces_decide_width_wraps`).

The content of a cell is any bytes.  Broken ones are read as characters too, so that the text of a
content that shows something is never empty (`CellBuffer.text_ne_empty`).
-/

namespace GlyphGrid

lemma CellBuffer.text_ne_empty {content : CellBuffer} (h : content.content ≠ []) :
    content.text ≠ "" :=
  mt Utf8.textLossy_eq_empty_iff.mp h

/-! ## The face of a character -/

namespace FontStack

variable {fonts : FontStack} {c : Char}

/-- No face has the character. -/
def Missing (fonts : FontStack) (c : Char) : Prop := ∀ i, fonts.covers i c = false

variable (fonts c) in
lemma faceFor_cases :
    (fonts.covers (fonts.faceFor c) c = true ∧ ∀ i < fonts.faceFor c, fonts.covers i c = false) ∨
      (fonts.Missing c ∧ fonts.faceFor c = 0) := by
  have hface := fonts.firstFace_faceFor c
  generalize fonts.faceFor c = index at hface ⊢
  cases hface with
  | covering index covers least => exact .inl ⟨covers, least⟩
  | missing uncovered => exact .inr ⟨uncovered, rfl⟩

/-- A character that the primary face has is shown with it. -/
lemma faceFor_eq_zero (h : fonts.covers 0 c = true) : fonts.faceFor c = 0 := by
  obtain ⟨-, hleast⟩ | ⟨-, hzero⟩ := fonts.faceFor_cases c
  · by_contra hne
    rw [hleast 0 (Nat.pos_of_ne_zero hne)] at h
    cases h
  · exact hzero

end FontStack

/-! ## Texts of one segment -/

/-- The face of the first character has the others too. -/
def FontStack.InOneFace (fonts : FontStack) (cs : List Char) : Prop :=
  ∀ c ∈ cs.head?, ∀ d ∈ cs.tail, fonts.covers (fonts.faceFor c) d = true

-- Only the characters of the text are tried; an instance that is found for `∀ c : Char` tries all.
instance (fonts : FontStack) (cs : List Char) : Decidable (fonts.InOneFace cs) :=
  decidable_of_iff (cs.head?.all fun c => cs.tail.all (fonts.covers (fonts.faceFor c))) <| by
    simp only [FontStack.InOneFace, Option.all_eq_true, List.all_eq_true, Option.mem_def]

namespace Segment

variable {fonts : FontStack} {face start : Nat} {begun cs : List Char}

/-- A segment whose face has all that comes goes on to the end. -/
lemma listFrom_of_covered (h : ∀ d ∈ cs, fonts.covers face d = true) :
    listFrom fonts face start begun cs = [⟨face, start, begun.reverse ++ cs⟩] := by
  induction cs generalizing begun with
  | nil => rw [listFrom, List.append_nil]
  | cons c cs ih =>
    rw [List.forall_mem_cons] at h
    rw [listFrom, if_pos h.1, ih h.2, List.reverse_cons, List.append_assoc,
      List.singleton_append]

/-- The first character that the face lacks begins another segment. -/
lemma two_le_length_listFrom (h : ¬∀ d ∈ cs, fonts.covers face d = true) :
    2 ≤ (listFrom fonts face start begun cs).length := by
  induction cs generalizing begun with
  | nil => exact absurd (fun _ hd => absurd hd List.not_mem_nil) h
  | cons c cs ih =>
    rw [listFrom]
    split
    · next hcovered =>
      exact ih fun hrest => h (List.forall_mem_cons.mpr ⟨hcovered, hrest⟩)
    · obtain ⟨more, others, hlist⟩ := exists_listFrom_eq_cons fonts (fonts.faceFor c)
        (start + byteLength begun) [c] cs
      rw [hlist, List.length_cons, List.length_cons]
      omega

lemma list_of_inOneFace {c : Char} (h : fonts.InOneFace (c :: cs)) :
    list fonts (c :: cs) = [⟨fonts.faceFor c, 0, c :: cs⟩] :=
  listFrom_of_covered (h c rfl)

lemma two_le_length_list (h : ¬fonts.InOneFace cs) : 2 ≤ (list fonts cs).length := by
  cases cs with
  | nil => exact absurd (fun _ hc => nomatch hc) h
  | cons c cs =>
    refine two_le_length_listFrom fun hcovers => h fun first hfirst => ?_
    cases hfirst
    exact hcovers

end Segment

/-! ## Runs -/

/-- The sum of the advances of some glyphs, however great. -/
def GlyphString.advance (s : GlyphString) : Int := (s.glyphs.map (·.xAdvance.toInt)).sum

/-- Adding words is adding distances and keeping the word of the sum. -/
lemma GlyphString.width_eq_ofInt (s : GlyphString) : s.width = Int32.ofInt s.advance := by
  obtain ⟨glyphs⟩ := s
  induction glyphs with
  | nil => rfl
  | cons g glyphs ih =>
    change g.xAdvance + width ⟨glyphs⟩ = Int32.ofInt (g.xAdvance.toInt + advance ⟨glyphs⟩)
    rw [ih, Int32.ofInt_add, Int32.ofInt_toInt]

/-- The sum of the advances of all glyphs of some runs, however great. -/
def totalAdvance (runs : List (GlyphRun FontFace)) : Int :=
  (runs.map (·.glyphs.advance)).sum

lemma totalAdvance_cons (run : GlyphRun FontFace) (runs : List (GlyphRun FontFace)) :
    totalAdvance (run :: runs) = run.glyphs.advance + totalAdvance runs :=
  List.sum_cons

/-- A width in pixels stands for a sum of distances that are added as words: the nearest pixel to a
sum that stays within 32 bits with room to be rounded, and that of the word for any other. -/
structure Fixed.IsWidthOfSum (total : Int) (width : Nat) : Prop where
  rounded : minUnits ≤ total → total + 512 ≤ maxUnits → (width : Int) = max 0 ((total + 512) / 1024)
  ofWord : IsWidth (Int32.ofInt total).toInt width

lemma Fixed.IsWidth.ofSum {total : Int} {width : Nat}
    (h : IsWidth (Int32.ofInt total).toInt width) : IsWidthOfSum total width where
  rounded ge fits := by
    have hword : (Int32.ofInt total).toInt = total := toInt_ofInt ge (by omega)
    rw [hword] at h
    exact h.rounded fits
  ofWord := h

namespace ShapingContext

variable {context : ShapingContext} {text : String} {runs : List (GlyphRun FontFace)}

variable (context text runs) in
lemma width_clusterOf :
    (context.clusterOf text runs).logical.width = Int32.ofInt (totalAdvance runs) := by
  change runs.foldr (fun run width => run.glyphs.width + width) 0 = _
  induction runs with
  | nil => rfl
  | cons run runs ih =>
    rw [List.foldr_cons, ih, GlyphString.width_eq_ofInt, totalAdvance_cons, Int32.ofInt_add]

variable (context text runs) in
lemma isWidthOfSum_clusterOf :
    Fixed.IsWidthOfSum (totalAdvance runs) (context.clusterOf text runs).widthPixels := by
  have hwidth := (context.clusterOf text runs).isWidth_widthPixels
  rw [width_clusterOf] at hwidth
  exact hwidth.ofSum

lemma length_runs (h : context.shapeRuns text = .ok runs) :
    (Segment.list context.fonts text.toList).length = runs.length :=
  (context.forall₂_runOf h).length_eq

lemma exists_clusterOf_of_shape {s : ShapedCluster FontFace TextLayout}
    (h : context.shape text = .ok s) :
    ∃ runs, context.shapeRuns text = .ok runs ∧ s = context.clusterOf text runs := by
  rw [shape] at h
  cases hruns : context.shapeRuns text with
  | error e =>
    rw [hruns] at h
    cases h
  | ok runs =>
    rw [hruns] at h
    cases h
    exact ⟨runs, rfl, rfl⟩

lemma runs_clusterOf (h : text ≠ "") : (context.clusterOf text runs).runs = some runs := by
  have hempty : text.isEmpty = false := by
    rw [Bool.eq_false_iff, ne_eq, String.isEmpty_iff]
    exact h
  exact if_neg (Bool.eq_false_iff.mp hempty)

/-- What a text is described as, in one face. -/
lemma describe_of_inOneFace (nonempty : text ≠ "") (h : context.shapeRuns text = .ok runs)
    (hface : context.fonts.InOneFace text.toList) : ∃ run, runs = [run] ∧
      (context.clusterOf text runs).describe = .run run.face run.glyphs
        (context.clusterOf text runs).baselinePixels ∧
      ∀ c ∈ text.toList.head?, run.face.index = context.fonts.faceFor c ∧
        context.fonts.get? (context.fonts.faceFor c) = some run.face.font ∧
        run.face.pixelSize = context.pixelSize := by
  obtain ⟨c, cs, htext⟩ := List.exists_cons_of_ne_nil (mt String.toList_eq_nil_iff.mp nonempty)
  have hruns := context.forall₂_runOf h
  rw [htext] at hface hruns ⊢
  rw [Segment.list_of_inOneFace hface] at hruns
  obtain ⟨run, rest, hrun, hrest, rfl⟩ := List.forall₂_cons_left_iff.mp hruns
  cases hrest
  refine ⟨run, rfl, ShapedCluster.describe_of_single _ (runs_clusterOf nonempty), ?_⟩
  intro first hfirst
  cases hfirst
  exact ⟨hrun.index_eq, hrun.font_eq, hrun.pixelSize_eq⟩

/-- What a text is described as, in several segments. -/
lemma describe_of_not_inOneFace (nonempty : text ≠ "") (h : context.shapeRuns text = .ok runs)
    (hface : ¬context.fonts.InOneFace text.toList) : 2 ≤ runs.length ∧
      (context.clusterOf text runs).describe = .layout ⟨text, context, runs⟩ := by
  have hlength := Segment.two_le_length_list hface
  rw [length_runs h] at hlength
  refine ⟨hlength, ShapedCluster.describe_of_not_single _ fun run hrun => ?_⟩
  rw [runs_clusterOf nonempty, Option.some_inj] at hrun
  rw [hrun, List.length_singleton] at hlength
  exact absurd hlength (by decide)

end ShapingContext

/-! ## Layouts that are brought up to date -/

namespace TextLayout

/-- The layout after it was brought up to date a number of times. -/
def refreshTimes (l : TextLayout) : Nat → Except GlyphError TextLayout
  | 0 => .ok l
  | times + 1 => (l.refreshTimes times).bind refresh

/-- A layout whose runs are those of its text stays as it is. -/
lemma refresh_of_shapeRuns {l : TextLayout} (h : l.context.shapeRuns l.text = .ok l.runs) :
    l.refresh = .ok l := by
  rw [refresh, h]
  rfl

lemma refreshTimes_of_shapeRuns {l : TextLayout} (h : l.context.shapeRuns l.text = .ok l.runs)
    (times : Nat) : l.refreshTimes times = .ok l := by
  induction times with
  | zero => rfl
  | succ times ih =>
    rw [refreshTimes, ih]
    exact refresh_of_shapeRuns h

end TextLayout

/-- The runs that a description paints. -/
def Description.runs : Description FontFace TextLayout → List (GlyphRun FontFace)
  | .empty => []
  | .layout l => l.runs
  | .run face glyphs _ => [⟨face, glyphs⟩]

/-- A glyph for a text, as the faces of a stack decide about it. -/
structure FaceDecides (fonts : FontStack) (context : ShapingContext) (text : String)
    (glyph : Glyph FontFace TextLayout) : Prop where
  /-- One run is kept where the face of the first character has the others. -/
  run_iff : glyph.kind = .run ↔ fonts.InOneFace text.toList
  /-- Where the primary face has all of them, the run is in this face. -/
  run_of_primary : (∀ c ∈ text.toList, fonts.covers 0 c = true) → ∃ glyphs baseline,
    glyph.description = .run ⟨fonts.primary, 0, context.pixelSize⟩ glyphs baseline
  /-- Any other glyph is a layout of several runs. -/
  layout_of_not_run : glyph.kind ≠ .run →
    ∃ layout, glyph.description = .layout layout ∧ 2 ≤ layout.runs.length
  runs_eq : context.shapeRuns text = .ok glyph.description.runs
  /-- The width is that of all runs, rounded to the nearest pixel. -/
  width : Fixed.IsWidthOfSum (totalAdvance glyph.description.runs) glyph.width
  /-- A layout stays the same, however often it is brought up to date. -/
  refreshed : ∀ layout, glyph.description = .layout layout →
    ∀ times, layout.refreshTimes times = .ok layout
  /-- So does one that is about to be painted on a canvas. -/
  updated : ∀ layout, glyph.description = .layout layout →
    ∀ canvas, (Canvas.surface.updateLayout canvas layout).value = (canvas, .ok layout)

section Shapes

variable {context : ShapingContext} {text : String} {runs : List (GlyphRun FontFace)}
  {glyph : Glyph FontFace TextLayout}

/-- A glyph of a text in one face. -/
lemma faceDecides_of_inOneFace (nonempty : text ≠ "") (hruns : context.shapeRuns text = .ok runs)
    (hface : context.fonts.InOneFace text.toList)
    (hwidth : Fixed.IsWidthOfSum (totalAdvance runs) glyph.width)
    (hdescription : glyph.description = (context.clusterOf text runs).describe) :
    FaceDecides context.fonts context text glyph := by
  obtain ⟨run, rfl, hdescribe, hrun⟩ :=
    ShapingContext.describe_of_inOneFace nonempty hruns hface
  rw [hdescribe] at hdescription
  have hkind : glyph.kind = .run := by
    rw [Glyph.kind, hdescription]
    rfl
  have hlayout : ∀ layout, glyph.description ≠ .layout layout := by
    intro layout
    rw [hdescription]
    exact nofun
  refine ⟨iff_of_true hkind hface, ?_, fun hother => absurd hkind hother, ?_, ?_,
    fun l hl => absurd hl (hlayout l), fun l hl => absurd hl (hlayout l)⟩
  · intro hprimary
    obtain ⟨c, cs, htext⟩ :=
      List.exists_cons_of_ne_nil (mt String.toList_eq_nil_iff.mp nonempty)
    have hzero := FontStack.faceFor_eq_zero (hprimary c (htext ▸ List.mem_cons_self))
    obtain ⟨hindex, hfont, hsize⟩ := hrun c (by rw [htext]; rfl)
    rw [hzero] at hindex hfont
    have hprimary_font : context.fonts.primary = run.face.font := Option.some.inj hfont
    refine ⟨run.glyphs, (context.clusterOf text [run]).baselinePixels, hdescription.trans ?_⟩
    rw [hprimary_font, ← hindex, ← hsize]
  · rw [hdescription]
    exact hruns
  · rw [hdescription]
    exact hwidth

/-- A glyph of a text in several faces, or of several segments in one. -/
lemma faceDecides_of_not_inOneFace (nonempty : text ≠ "")
    (hruns : context.shapeRuns text = .ok runs) (hface : ¬context.fonts.InOneFace text.toList)
    (hwidth : Fixed.IsWidthOfSum (totalAdvance runs) glyph.width)
    (hdescription : glyph.description = (context.clusterOf text runs).describe) :
    FaceDecides context.fonts context text glyph := by
  obtain ⟨hlength, hdescribe⟩ :=
    ShapingContext.describe_of_not_inOneFace nonempty hruns hface
  rw [hdescribe] at hdescription
  have hkind : glyph.kind ≠ .run := by
    rw [Glyph.kind, hdescription]
    exact nofun
  have hlayout : ∀ layout, glyph.description = .layout layout →
      layout = ⟨text, context, runs⟩ := by
    intro layout h
    rw [hdescription] at h
    exact (Description.layout.inj h).symm
  refine ⟨iff_of_false hkind hface, ?_, fun _ => ⟨_, hdescription, hlength⟩, ?_, ?_, ?_, ?_⟩
  · intro hprimary
    refine absurd (fun c hc d hd => ?_) hface
    rw [FontStack.faceFor_eq_zero (hprimary c (List.mem_of_mem_head? hc))]
    exact hprimary d (List.mem_of_mem_tail hd)
  · rw [hdescription]
    exact hruns
  · rw [hdescription]
    exact hwidth
  · intro layout h times
    rw [hlayout layout h]
    exact TextLayout.refreshTimes_of_shapeRuns hruns times
  · intro layout h canvas
    rw [hlayout layout h]
    exact congrArg (canvas, ·) (TextLayout.refresh_of_shapeRuns hruns)

/-- Whatever glyph has the description and the width of a text's shape is as the faces decide. -/
lemma faceDecides_of_shape (nonempty : text ≠ "") {s : ShapedCluster FontFace TextLayout}
    (shaped : context.shape text = .ok s) (hwidth : glyph.width = s.widthPixels)
    (hdescription : glyph.description = s.describe) :
    FaceDecides context.fonts context text glyph := by
  obtain ⟨runs, hruns, rfl⟩ := ShapingContext.exists_clusterOf_of_shape shaped
  have hpixels := ShapingContext.isWidthOfSum_clusterOf context text runs
  rw [← hwidth] at hpixels
  by_cases hface : context.fonts.InOneFace text.toList
  · exact faceDecides_of_inOneFace nonempty hruns hface hpixels hdescription
  · exact faceDecides_of_not_inOneFace nonempty hruns hface hpixels hdescription

end Shapes

lemma FontStack.fonts_of_createContext {fonts : FontStack} {height : Nat}
    {context : ShapingContext} (h : (fonts.engine.createContext height).value = .ok context) :
    context.fonts = fonts := by
  change (fonts.createContext height).value = .ok context at h
  unfold createContext at h
  split at h
  · cases h
  · cases h
    rfl

/-- So is one that the table of a font answers with, whatever the font was asked before. -/
lemma GlyphCache.IsNew.exists_lookup_faceDecides {fonts : FontStack} {height : Nat}
    {cache : GlyphCache ShapingContext FontFace TextLayout} (h : IsNew fonts.engine height cache)
    (calls : List (CacheCall FontFace TextLayout)) {content : CellBuffer}
    (nonempty : content.content ≠ []) :
    ∃ slot, ((cache.after calls).lookup content).value.2 = .ok slot ∧
      FaceDecides fonts cache.context content.text slot.glyph := by
  have htext := CellBuffer.text_ne_empty nonempty
  have hfonts := FontStack.fonts_of_createContext h.context_ok
  have hrecords := h.records_after calls
  obtain ⟨s, shaped⟩ := cache.context.exists_shape_eq_ok content.text
  obtain ⟨slot, answer⟩ := (hrecords.lookup_ok_iff content).mpr ⟨nonempty, s, shaped⟩
  obtain ⟨-, first, t, -, ht, hglyph⟩ := hrecords.glyph_of_lookup_eq_ok answer
  have hdecides : FaceDecides cache.context.fonts cache.context content.text slot.glyph := by
    refine faceDecides_of_shape htext ht ?_ ?_
    · rw [hglyph]
      rfl
    · rw [hglyph]
      rfl
  rw [hfonts] at hdecides
  exact ⟨slot, answer, hdecides⟩

/-- The letters of the stack to try things on are wide enough to make a font. -/
lemma exists_create_sampleStack :
    ∃ cache, (GlyphCache.create sampleStack.engine 16).value = .ok cache := by
  have hcontext : (sampleStack.engine.createContext 16).value = .ok (sampleStack.contextAt 16) :=
    rfl
  have hwidth : GlyphCache.positiveWidth? sampleStack.engine (sampleStack.contextAt 16) 65
      = some 8 := by decide +kernel
  exact GlyphCache.exists_create_eq_ok (by decide) hcontext (by decide) hwidth

end GlyphGrid
