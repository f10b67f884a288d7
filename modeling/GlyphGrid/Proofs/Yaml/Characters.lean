import Mathlib.Data.List.Basic
import GlyphGrid.Yaml.Writer

/-!
# Characters of a written text

A text may be written in one of four forms (`Written.style_cases`).  None of them needs a character
that is not printable, and among printable characters the space is the only blank.  A document may
hold all of them, and their line ends are left as they are (`normalizeBreaks_eq_self`), so that a
reader sees the very characters that were written.
-/

namespace GlyphGrid.Yaml

open Written

variable {c : Char} {cs : List Char}

/-! ## Places on a line -/

namespace Position

variable (pos : Position) (m n : Nat)

@[simp] lemma forward_zero : pos.forward 0 = pos := rfl

@[simp] lemma forward_forward : (pos.forward m).forward n = pos.forward (m + n) := by
  simp only [forward, Nat.add_assoc]

@[simp] lemma column_forward : (pos.forward n).column = pos.column + n := rfl

@[simp] lemma column_newline : pos.newline.column = 0 := rfl

end Position

/-- The characters from a cursor on that satisfy a property end where one does not. -/
lemma Cursor.takeWhile_append {p : Char → Bool} {taken rest : List Char}
    (htaken : taken.all p = true) (hrest : rest.head?.any p = false) (pos : Position) :
    (Cursor.mk pos (taken ++ rest)).takeWhile p = (taken, ⟨pos.forward taken.length, rest⟩) := by
  have hnone : rest.takeWhile p = [] := by
    cases rest with
    | nil => rfl
    | cons c rest =>
      have hc : p c = false := hrest
      rw [List.takeWhile_cons, hc]
      rfl
  have hall : (taken ++ rest).takeWhile p = taken := by
    rw [List.takeWhile_append_of_pos (List.all_eq_true.mp htaken), hnone, List.append_nil]
  rw [Cursor.takeWhile, hall, Cursor.forward, List.drop_left]

/-! ## Printable characters -/

lemma isAllowed_of_isPrintable (h : isPrintable c = true) : isAllowed c = true := by
  simp only [isPrintable, isAllowed, Bool.or_eq_true, Bool.and_eq_true, beq_iff_eq, bne_iff_ne,
    decide_eq_true_eq] at h ⊢
  omega

/-- A printable character is none of those that are not. -/
lemma ne_of_isPrintable {d : Char} (h : isPrintable c = true) (hd : isPrintable d = false) :
    c ≠ d := by
  rintro rfl
  rw [h] at hd
  cases hd

/-- The only blank among printable characters is the space. -/
lemma isBlank_eq_isSpace (h : isPrintable c = true) : isBlank c = isSpace c := by
  have htab : (c == '\t') = false := beq_false_of_ne (ne_of_isPrintable h rfl)
  rw [isBlank, htab, Bool.or_false, isSpace]

lemma isBlank_eq_false_of_isBreak (h : isBreak c = true) : isBlank c = false := by
  by_contra hblank
  rw [Bool.not_eq_false, isBlank, Bool.or_eq_true, beq_iff_eq, beq_iff_eq] at hblank
  rcases hblank with rfl | rfl <;> cases h

/-- The line ends of printable characters are kept. -/
lemma normalizeBreaks_eq_self (h : cs.all isPrintable = true) : normalizeBreaks cs = cs := by
  induction cs with
  | nil => rfl
  | cons c rest ih =>
    rw [List.all_cons, Bool.and_eq_true] at h
    have hreturn : c ≠ '\r' := ne_of_isPrintable h.1 rfl
    have hnext : c ≠ '\u0085' := ne_of_isPrintable h.1 rfl
    rw [normalizeBreaks, ih h.2, beq_false_of_ne hreturn, beq_false_of_ne hnext]
    · rfl
    · exact fun _ hcons _ => hreturn hcons

lemma all_isAllowed (h : cs.all isPrintable = true) : cs.all isAllowed = true := by
  rw [List.all_eq_true] at h ⊢
  exact fun c hc => isAllowed_of_isPrintable (h c hc)

namespace Written

/-! ## The forms of a text -/

/-- The form of a text is one that the text allows. -/
lemma style_cases (text : String) :
    (style text = .literal ∧ allowsBlock text.toList = true)
      ∨ (style text = .plain ∧ isAmbiguous text = false ∧ allowsPlain text.toList = true)
      ∨ (style text = .singleQuoted ∧ allowsSingle text.toList = true ∧ '\n' ∉ text.toList)
      ∨ style text = .doubleQuoted := by
  unfold style
  dsimp only
  split
  · split
    · exact .inl ⟨rfl, ‹_›⟩
    · exact .inr (.inr (.inr rfl))
  · rename_i hfeed
    rw [List.contains_iff_mem] at hfeed
    split
    · rename_i hplain
      rw [Bool.and_eq_true, Bool.not_eq_true'] at hplain
      exact .inr (.inl ⟨rfl, hplain⟩)
    · split
      · exact .inr (.inr (.inl ⟨rfl, ‹_›, hfeed⟩))
      · exact .inr (.inr (.inr rfl))

lemma all_isPrintable_singleBody (h : cs.all isPrintable = true) (atLineStart : Bool) :
    (singleBody atLineStart cs).all isPrintable = true := by
  induction cs generalizing atLineStart with
  | nil => cases atLineStart <;> rfl
  | cons c rest ih =>
    rw [List.all_cons, Bool.and_eq_true] at h
    unfold singleBody
    split
    · rw [List.all_cons, h.1, ih h.2, Bool.and_self]
    · split
      · rw [List.all_cons, h.1, ih h.2, Bool.and_self]
      · have hchar : (if c == '\'' then ['\'', '\''] else [c]).all isPrintable = true := by
          split
          · rfl
          · rw [List.all_cons, h.1]
            rfl
        rw [List.all_append, List.all_append, hchar, ih h.2]
        cases atLineStart <;> rfl

lemma all_isPrintable_literalHints (cs : List Char) : (literalHints cs).all isPrintable = true := by
  rw [literalHints, List.all_append, Bool.and_eq_true]
  constructor
  · split <;> rfl
  · split
    · rfl
    · split
      · rfl
      · split
        · rfl
        · split <;> rfl

lemma all_isPrintable_literalBody (h : cs.all isPrintable = true) (atLineStart : Bool) :
    (literalBody atLineStart cs).all isPrintable = true := by
  induction cs generalizing atLineStart with
  | nil => rfl
  | cons c rest ih =>
    rw [List.all_cons, Bool.and_eq_true] at h
    unfold literalBody
    split
    · rw [List.all_cons, h.1, ih h.2, Bool.and_self]
    · rw [List.all_append, List.all_cons, h.1, ih h.2]
      cases atLineStart <;> rfl

end Written
end GlyphGrid.Yaml
