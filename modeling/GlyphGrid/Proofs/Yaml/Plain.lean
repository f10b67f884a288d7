import GlyphGrid.Proofs.Yaml.Characters
import GlyphGrid.Proofs.Yaml.Digits

/-!
# Plain texts are read back

A text that may be written without quotes is read as it was, up to where it ends: at the end of its
line (`plainScalarFrom_newline`) or at the colon after a key (`plainScalarFrom_colon`).  After its
first character the text holds nothing that ends it, which is what the induction of
`plainScalarFrom_inner` uses.

Keys, numbers and the words for levels are made of letters, digits and underscores, so that they can
be written without quotes (`IsWord.allowsPlain`).
-/

namespace GlyphGrid.Yaml

open Written

variable {c : Char} {cs rest text tail : List Char} {pos : Position} {indent : Nat}

/-! ## What follows the first character -/

/-- Where a text goes on, what comes after it does not matter to whether a word ends. -/
lemma endsWord_append (h : endsWord cs = false) (rest : List Char) :
    endsWord (cs ++ rest) = false := by
  cases cs with
  | nil => cases h
  | cons c cs => exact h

/-- A colon that ends no word in a text ends none when more comes after the text. -/
lemma endsColon_append (h : (c == ':' && endsWord cs) = false) (rest : List Char) :
    (c == ':' && endsWord (cs ++ rest)) = false := by
  rw [Bool.and_eq_false_iff] at h ⊢
  exact h.imp_right fun h => endsWord_append h rest

/-- After the first character a text that holds no indicator is read to its end. -/
lemma plainScalarFrom_inner (hindent : indent ≤ 1) (hcolumn : 0 < pos.column)
    (hall : cs.all (fun c => isPrintable c && !isBreak c) = true) {blanks : List Char}
    (hinner : hasInnerIndicator (!blanks.isEmpty) cs = false)
    (hlast : cs.getLast?.any isSpace = false) (hblanks : cs = [] → blanks = []) :
    plainScalarFrom false indent text (.blanks blanks) pos (cs ++ rest)
      = plainScalarFrom false indent (cs.reverse ++ blanks ++ text) .none
        (pos.forward cs.length) rest := by
  induction cs generalizing text blanks pos with
  | nil => rw [hblanks rfl]; rfl
  | cons c cs ih =>
    rw [List.all_cons, Bool.and_eq_true, Bool.and_eq_true, Bool.not_eq_true'] at hall
    obtain ⟨⟨hprintable, hbreak⟩, hall⟩ := hall
    rw [hasInnerIndicator, Bool.or_eq_false_iff, Bool.or_eq_false_iff, hbreak, Bool.or_false]
      at hinner
    obtain ⟨⟨hcolon, hcomment⟩, hinner⟩ := hinner
    have hlast' : cs.getLast?.any isSpace = false := by
      cases cs with
      | nil => rfl
      | cons d ds => rwa [List.getLast?_cons_cons] at hlast
    rw [List.cons_append, plainScalarFrom]
    by_cases hblank : isBlank c
    · have hne : cs ≠ [] := by
        rintro rfl
        rw [isBlank_eq_isSpace hprintable] at hblank
        have hnone : isSpace c = false := hlast
        rw [hblank] at hnone
        cases hnone
      rw [hblank] at hinner
      rw [if_pos hblank]
      refine Eq.trans (ih (Nat.add_one_pos _) hall hinner hlast' fun h => absurd h hne) ?_
      simp [Nat.add_comm]
    · rw [Bool.not_eq_true] at hblank
      rw [hblank] at hinner
      have hends : endsPlain false indent (.blanks blanks) pos c (cs ++ rest) = false := by
        have hcolon' := endsColon_append hcolon rest
        have hcomment' : (!blanks.isEmpty && c == '#') = false := by rwa [Bool.and_comm]
        have hinside : ¬pos.column < indent := by omega
        simp [endsPlain, Gap.isNone, hcolon', hcomment', hinside, Nat.ne_of_gt hcolumn]
      rw [if_neg (by rw [hblank]; exact Bool.false_ne_true), hbreak, hends, isLooseColon]
      refine Eq.trans (ih (Nat.add_one_pos _) hall hinner hlast' fun _ => rfl) ?_
      simp [Gap.text, Nat.add_comm]

/-! ## Whole texts -/

/-- What is known of a text that may be written without quotes, by its first character and the
others. -/
structure AllowsPlain (c : Char) (cs : List Char) : Prop where
  isPrintable : isPrintable c = true
  isBreak : isBreak c = false
  isSpace : isSpace c = false
  isFirstIndicator : isFirstIndicator c = false
  endsWord : ((c == '?' || c == ':' || c == '-') && endsWord cs) = false
  all : cs.all (fun c => Written.isPrintable c && !Yaml.isBreak c) = true
  getLast? : cs.getLast?.any Written.isSpace = false
  hasInnerIndicator : hasInnerIndicator false cs = false
  isPrefixOf : ['-', '-', '-'].isPrefixOf (c :: cs) = false
    ∧ ['.', '.', '.'].isPrefixOf (c :: cs) = false

lemma allowsPlain_cons (h : allowsPlain (c :: cs) = true) : AllowsPlain c cs := by
  rw [allowsPlain, Bool.and_eq_true, Bool.and_eq_true, Bool.and_eq_true, Bool.not_eq_true',
    Bool.not_eq_true', Bool.not_eq_true', List.all_cons, Bool.and_eq_true, Bool.and_eq_true,
    Bool.not_eq_true'] at h
  obtain ⟨⟨⟨⟨⟨hprintable, hbreak⟩, hall⟩, hfirst⟩, hlast⟩, hindicator⟩ := h
  have hspace : isSpace c = false := hfirst
  have hblank : isBlank c = false := (isBlank_eq_isSpace hprintable).trans hspace
  rw [hasIndicator, Bool.or_eq_false_iff, Bool.or_eq_false_iff, Bool.or_eq_false_iff,
    Bool.or_eq_false_iff, hblank, hbreak, Bool.or_false] at hindicator
  obtain ⟨⟨⟨⟨hdashes, hdots⟩, hindicator⟩, hends⟩, hinner⟩ := hindicator
  refine ⟨hprintable, hbreak, hspace, hindicator, hends, hall, ?_, hinner, hdashes, hdots⟩
  cases cs with
  | nil => rfl
  | cons d ds => rwa [List.getLast?_cons_cons] at hlast

/-- A text that may be written without quotes is read to its end. -/
lemma plainScalarFrom_text (h : AllowsPlain c cs) (hindent : indent ≤ 1)
    (hmark : pos.column = 0 → isDocumentMark (c :: cs ++ rest) = false) :
    plainScalarFrom false indent [] .none pos (c :: cs ++ rest)
      = plainScalarFrom false indent (c :: cs).reverse .none (pos.forward (cs.length + 1))
        rest := by
  have hblank : isBlank c = false := (isBlank_eq_isSpace h.isPrintable).trans h.isSpace
  have hcolon : (c == ':' && endsWord cs) = false := by
    have hends := h.endsWord
    rw [Bool.and_eq_false_iff, Bool.or_eq_false_iff, Bool.or_eq_false_iff] at hends
    rw [Bool.and_eq_false_iff]
    exact hends.imp_left fun h => h.1.2
  have hmark' : (pos.column == 0 && isDocumentMark (c :: (cs ++ rest))) = false := by
    rw [Bool.and_eq_false_iff, beq_eq_false_iff_ne]
    by_cases hzero : pos.column = 0
    · exact .inr (hmark hzero)
    · exact .inl hzero
  have hends : endsPlain false indent .none pos c (cs ++ rest) = false := by
    simp [endsPlain, Gap.none, Gap.isNone, endsColon_append hcolon rest, hmark']
  rw [List.cons_append, plainScalarFrom, if_neg (by rw [hblank]; exact Bool.false_ne_true),
    h.isBreak, hends, isLooseColon]
  refine Eq.trans (plainScalarFrom_inner hindent (Nat.add_one_pos _) h.all h.hasInnerIndicator
    h.getLast? fun _ => rfl) ?_
  simp [Gap.none, Gap.text, Nat.add_comm]

/-! ## The end of a text -/

/-- Whether a line begins with something that belongs to no value: nothing, or no blank and no line
end. -/
def EndsValue (tail : List Char) : Prop :=
  tail.head?.all (fun c => !isBlank c && !isBreak c) = true

/-- A text ends with its line, if the next line is not indented. -/
lemma plainScalarFrom_newline (htail : EndsValue tail) :
    plainScalarFrom false 1 text .none pos ('\n' :: tail)
      = some ⟨String.ofList text.reverse, true, ⟨pos.newline, tail⟩⟩ := by
  cases tail with
  | nil => rfl
  | cons c tail =>
    have hfirst : (!isBlank c && !isBreak c) = true := htail
    rw [Bool.and_eq_true, Bool.not_eq_true', Bool.not_eq_true'] at hfirst
    have hends : endsPlain false 1 (.lines (some '\n') []) pos.newline c tail = true := rfl
    rw [plainScalarFrom]
    change plainScalarFrom false 1 text (.lines (some '\n') []) pos.newline (c :: tail) = _
    rw [plainScalarFrom, hfirst.1, hfirst.2, hends]
    rfl

/-- A text ends at a colon that ends a word. -/
lemma plainScalarFrom_colon (hends : endsWord tail = true) :
    plainScalarFrom false indent text .none pos (':' :: tail)
      = some ⟨String.ofList text.reverse, false, ⟨pos, ':' :: tail⟩⟩ := by
  have hcolon : endsPlain false indent .none pos ':' tail = true := by
    simp [endsPlain, hends]
  rw [plainScalarFrom, hcolon]
  rfl

/-- A text on a line of its own is read as it was. -/
lemma plainScalar?_line (h : AllowsPlain c cs) (hcolumn : 0 < pos.column) (htail : EndsValue tail) :
    plainScalar? false 1 ⟨pos, c :: cs ++ '\n' :: tail⟩
      = some ⟨String.ofList (c :: cs), true, ⟨(pos.forward (cs.length + 1)).newline, tail⟩⟩ := by
  rw [plainScalar?, plainScalarFrom_text h Nat.le.refl fun h => absurd h (Nat.ne_of_gt hcolumn),
    plainScalarFrom_newline htail, List.reverse_reverse]

/-! ## Words -/

/-- The characters of keys, numbers and the words for levels. -/
def isWordChar (c : Char) : Bool := c.isAlphanum || c == '_'

/-- A text that is one word. -/
structure IsWord (cs : List Char) : Prop where
  ne_nil : cs ≠ []
  all : cs.all isWordChar = true

instance : Decidable (IsWord cs) :=
  decidable_of_iff (cs ≠ [] ∧ cs.all isWordChar = true)
    ⟨fun h => ⟨h.1, h.2⟩, fun h => ⟨h.ne_nil, h.all⟩⟩

lemma ne_of_isWordChar {d : Char} (h : isWordChar c = true) (hd : isWordChar d = false) :
    c ≠ d := by
  rintro rfl
  rw [h] at hd
  cases hd

lemma isPrintable_of_isWordChar (h : isWordChar c = true) : isPrintable c = true := by
  have hrange : 0x20 ≤ c.toNat ∧ c.toNat ≤ 0x7E := by
    rw [isWordChar, Bool.or_eq_true, beq_iff_eq] at h
    rcases h with halphanum | rfl
    · delta Char.isAlphanum Char.isAlpha Char.isUpper Char.isLower Char.isDigit at halphanum
      simp only [Bool.or_eq_true, Bool.and_eq_true, decide_eq_true_eq, ge_iff_le,
        UInt32.le_iff_toNat_le] at halphanum
      change ((65 ≤ c.toNat ∧ c.toNat ≤ 90) ∨ (97 ≤ c.toNat ∧ c.toNat ≤ 122))
        ∨ (48 ≤ c.toNat ∧ c.toNat ≤ 57) at halphanum
      omega
    · decide
  simp [isPrintable, hrange.1, hrange.2]

lemma IsWord.all_isPrintable (h : IsWord cs) : cs.all isPrintable = true :=
  List.all_eq_true.mpr fun c hc => isPrintable_of_isWordChar (List.all_eq_true.mp h.all c hc)

lemma isBreak_of_isWordChar (h : isWordChar c = true) : isBreak c = false := by
  simp (disch := decide) [isBreak, ne_of_isWordChar h]

/-- A word may be written without quotes. -/
lemma IsWord.allowsPlain (h : IsWord (c :: cs)) : AllowsPlain c cs := by
  have hall := h.all
  rw [List.all_cons, Bool.and_eq_true] at hall
  obtain ⟨hc, hcs⟩ := hall
  have hmem : ∀ d ∈ cs, isWordChar d = true := List.all_eq_true.mp hcs
  have hdash : c ≠ '-' := ne_of_isWordChar hc rfl
  have hdot : c ≠ '.' := ne_of_isWordChar hc rfl
  have hinner : ∀ afterBlank, hasInnerIndicator afterBlank cs = false := by
    clear h
    induction cs with
    | nil => exact fun _ => rfl
    | cons d ds ih =>
      intro afterBlank
      have hd := hmem d List.mem_cons_self
      rw [List.all_cons, Bool.and_eq_true] at hcs
      simp (disch := decide) [hasInnerIndicator, ne_of_isWordChar hd,
        ih hcs.2 fun e he => hmem e (List.mem_cons_of_mem d he)]
  refine ⟨isPrintable_of_isWordChar hc, isBreak_of_isWordChar hc, ?_, ?_, ?_, ?_, ?_, hinner false,
    ?_⟩
  · simp (disch := decide) [isSpace, ne_of_isWordChar hc]
  · simp (disch := decide) [isFirstIndicator, ne_of_isWordChar hc]
  · simp (disch := decide) [ne_of_isWordChar hc]
  · rw [List.all_eq_true]
    intro d hd
    rw [isPrintable_of_isWordChar (hmem d hd), isBreak_of_isWordChar (hmem d hd)]
    rfl
  · rw [Option.any_eq_false]
    intro d hd
    simp (disch := decide) [isSpace, ne_of_isWordChar (hmem d (List.mem_of_getLast? hd))]
  · constructor <;> simp [List.isPrefixOf, hdash.symm, hdot.symm]

end GlyphGrid.Yaml
