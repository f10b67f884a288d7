import GlyphGrid.Proofs.Text.Points
import GlyphGrid.Proofs.Yaml.Characters
import GlyphGrid.Proofs.Yaml.Digits

/-!
# Quoted texts are read back

A text in single or in double quotes is read as it was.  Both proofs follow the characters of the
text: a reader that has read some of it, and keeps the blanks or line ends after that in a `Gap`,
reads the form of the rest and what ends it.

In double quotes all but the space stands for itself or is escaped (`quotedScalarFrom_doubleChar`).
In single quotes line ends may occur that are no line feed; `Gap.Meets` is what the reader relies on
between them and the blanks.
-/

namespace GlyphGrid.Yaml

open Written

variable {c : Char} {cs rest text : List Char} {pos : Position}

/-! ## Escapes -/

/-- An escape without its backslash: it begins with a printable character that ends no line, and
whatever follows, it is read as the character it stands for. -/
structure IsEscape (c : Char) (body : List Char) : Prop where
  all_isPrintable : body.all isPrintable = true
  exists_eq_cons : ∃ d more, body = d :: more ∧ isBreak d = false
  escape?_append : ∀ rest, escape? (body ++ rest) = some (c, body.length)

/-- What holds of a letter for its character, and of every letter that is looked up if it is none,
holds of a letter that is looked up. -/
lemma of_lookup {P : Char → Char → Prop} {d letter e : Char} {others : Option Char}
    (h : (if c == d then some letter else others) = some e) (hletter : P d letter)
    (hothers : others = some e → P c e) : P c e := by
  by_cases hc : c == d
  · rw [if_pos hc, Option.some.injEq] at h
    rw [eq_of_beq hc, ← h]
    exact hletter
  · rw [if_neg hc] at h
    exact hothers h

/-- An escape of one letter is read as the character it stands for. -/
lemma isEscape_of_shortEscape? {e : Char} (h : shortEscape? c = some e) : IsEscape c [e] := by
  have hletter : isPrintable e = true ∧ isBreak e = false ∧ escapeDigits e = 0
      ∧ simpleEscape? e = some c := by
    unfold shortEscape? at h
    repeat refine of_lookup (P := fun c e => isPrintable e = true ∧ isBreak e = false
      ∧ escapeDigits e = 0 ∧ simpleEscape? e = some c) h (by decide) fun h => ?_
    cases h
  obtain ⟨hprintable, hbreak, hdigits, hsimple⟩ := hletter
  refine ⟨by rw [List.all_cons, hprintable]; rfl, ⟨e, [], rfl, hbreak⟩, fun rest => ?_⟩
  rw [List.singleton_append, escape?, hdigits, hsimple]
  rfl

/-- An escape by a number is read as the character with that number. -/
lemma isEscape_of_digits {letter : Char} (width : Nat) (hletter : isPrintable letter = true)
    (hbreak : isBreak letter = false) (hdigits : escapeDigits letter = width + 1)
    (hc : c.toNat < 16 ^ (width + 1)) :
    IsEscape c (letter :: (Text.hexUpper (width + 1) c.toNat).toList) := by
  have hlength := length_hexUpper (Nat.add_one_pos width) hc
  have hupper : ∀ d < 16, isPrintable d.digitChar.toUpper = true := by decide
  refine ⟨?_, ⟨letter, _, rfl, hbreak⟩, fun rest => ?_⟩
  · rw [List.all_cons, hletter, Bool.true_and, List.all_eq_true]
    intro digit hdigit
    obtain ⟨d, hd, rfl⟩ := exists_digitChar_of_mem_hexUpper hdigit
    exact hupper d hd
  · have hchar : hexChar? (Text.hexUpper (width + 1) c.toNat).toList = some c := by
      rw [hexChar?, hexNumber?_hexUpper, Option.bind_some]
      exact Text.charOf?_eq_some_iff.mpr rfl
    rw [List.cons_append, escape?, hdigits]
    change (if _ then _ else _) = _
    rw [if_neg (by rw [List.length_append]; omega), List.take_left' hlength, hchar,
      List.length_cons, hlength]
    rfl

lemma isEscape_numberEscape (c : Char) : IsEscape c (numberEscape c) := by
  have hlast : c.toNat < 1114112 := by
    have hvalid : c.toNat < 55296 ∨ 57343 < c.toNat ∧ c.toNat < 1114112 := c.valid
    omega
  unfold numberEscape
  dsimp only
  split
  · exact isEscape_of_digits 1 rfl rfl rfl (by omega)
  · split
    · exact isEscape_of_digits 3 rfl rfl rfl (by omega)
    · exact isEscape_of_digits 7 rfl rfl rfl (by omega)

lemma doubleChar_eq (c : Char) :
    (∃ body, doubleChar c = '\\' :: body ∧ IsEscape c body)
      ∨ (doubleChar c = [c] ∧ isPrintable c = true ∧ isBreak c = false ∧ c ≠ '"' ∧ c ≠ '\\') := by
  unfold doubleChar
  split
  · refine .inl ⟨_, rfl, ?_⟩
    split
    · exact isEscape_of_shortEscape? ‹_›
    · exact isEscape_numberEscape c
  · refine .inr ⟨rfl, ?_⟩
    rename_i h
    simpa [and_assoc] using h

/-! ## Double quotes -/

/-- The characters of an escape, once its value is known, are passed over. -/
lemma quotedScalarFrom_skip (isSingle : Bool) (text : List Char) (gap : Gap) (pos : Position)
    (body rest : List Char) :
    quotedScalarFrom isSingle text gap body.length pos (body ++ rest)
      = quotedScalarFrom isSingle text gap 0 (pos.forward body.length) rest := by
  induction body generalizing pos with
  | nil => rfl
  | cons c body ih =>
    rw [List.cons_append, List.length_cons, quotedScalarFrom, if_pos (Nat.add_one_pos _),
      Nat.add_sub_cancel, ih, Position.forward_forward, Nat.add_comm]

/-- A character in double quotes is read as itself: it joins what was read, or the blanks after
it. -/
lemma quotedScalarFrom_doubleChar (hcolumn : 0 < pos.column) (text blanks : List Char) (c : Char)
    (rest : List Char) :
    ∃ text' blanks' pos', 0 < pos'.column
      ∧ text'.reverse ++ blanks'.reverse = text.reverse ++ blanks.reverse ++ [c]
      ∧ quotedScalarFrom false text (.blanks blanks) 0 pos (doubleChar c ++ rest)
        = quotedScalarFrom false text' (.blanks blanks') 0 pos' rest := by
  have hmark (cs : List Char) : (pos.column == 0 && isDocumentMark cs) = false := by
    rw [beq_false_of_ne (Nat.ne_of_gt hcolumn), Bool.false_and]
  rcases doubleChar_eq c with ⟨body, hbody, hescape⟩ | ⟨hself, hprintable, hbreak, hquote, hslash⟩
  · refine ⟨c :: (blanks ++ text), [], (pos.forward 1).forward body.length, ?_, by simp, ?_⟩
    · simp only [Position.column_forward]
      omega
    · obtain ⟨d, more, hcons, hd⟩ := hescape.exists_eq_cons
      have hread := hescape.escape?_append rest
      rw [← quotedScalarFrom_skip, hbody, List.cons_append, quotedScalarFrom]
      rw [hcons, List.cons_append] at hread ⊢
      simp only [hmark, hread, hd]
      rfl
  · rw [hself, List.singleton_append, quotedScalarFrom]
    by_cases hspace : isSpace c
    · refine ⟨text, c :: blanks, pos.forward 1, Nat.add_one_pos _, by simp, ?_⟩
      simp only [isBlank_eq_isSpace hprintable, hspace]
      rfl
    · refine ⟨c :: (blanks ++ text), [], pos.forward 1, Nat.add_one_pos _, by simp, ?_⟩
      rw [Bool.not_eq_true] at hspace
      simp only [isBlank_eq_isSpace hprintable, hspace, hbreak, hmark, beq_false_of_ne hquote,
        beq_false_of_ne hslash, Nat.lt_irrefl, Bool.and_false, Bool.false_and, Bool.false_eq_true,
        if_false]
      rfl

/-- A text in double quotes is read as it was. -/
lemma quotedScalarFrom_double (hcolumn : 0 < pos.column) (text blanks : List Char) :
    ∃ after,
      quotedScalarFrom false text (.blanks blanks) 0 pos (cs.flatMap doubleChar ++ '"' :: rest)
        = some (String.ofList (text.reverse ++ blanks.reverse ++ cs), ⟨after, rest⟩) := by
  induction cs generalizing text blanks pos with
  | nil =>
    refine ⟨pos.forward 1, ?_⟩
    rw [List.flatMap_nil, List.nil_append, quotedScalarFrom]
    simp [isDocumentMark, isBlank, isBreak, Gap.text]
  | cons c cs ih =>
    obtain ⟨text', blanks', pos', hcolumn', htext, hstep⟩ :=
      quotedScalarFrom_doubleChar hcolumn text blanks c (cs.flatMap doubleChar ++ '"' :: rest)
    obtain ⟨after, hread⟩ := ih hcolumn' text' blanks'
    refine ⟨after, ?_⟩
    rw [List.flatMap_cons, List.append_assoc, hstep, hread, htext]
    simp

/-! ## Single quotes -/

/-- What a reader of single quotes relies on when `cs` comes after a gap: no space stands beside a
line end, and no line end is a line feed, which would be folded. -/
def Gap.Meets (cs : List Char) : Gap → Prop
  | .blanks bs => bs ≠ [] → cs.head?.any isBreak = false
  | .lines first _ => (∃ b, first = some b ∧ b ≠ '\n') ∧ cs.head?.any isSpace = false

lemma Gap.text_lines {b : Char} (hb : b ≠ '\n') (later : List Char) :
    (Gap.lines (some b) later).text = later ++ [b] := by
  rw [Gap.text, if_neg (fun h => hb (Option.some.inj h)), Option.toList_some]

/-- A line end that may follow a gap becomes itself. -/
lemma Gap.Meets.text_addBreak {gap : Gap} (h : gap.Meets (c :: cs)) (hc : isBreak c = true)
    (hfeed : c ≠ '\n') : (gap.addBreak c).text = c :: gap.text := by
  cases gap with
  | blanks bs =>
    have hnil : bs = [] := by
      by_contra hne
      have hnone : isBreak c = false := h hne
      rw [hc] at hnone
      cases hnone
    rw [hnil, addBreak, text_lines hfeed, List.nil_append, text]
  | lines first later =>
    obtain ⟨⟨b, rfl, hb⟩, -⟩ := h
    rw [addBreak, text_lines hb, text_lines hb, List.cons_append]

/-- After a line end that may follow a gap, any text may follow that does not begin with a space. -/
lemma Gap.Meets.addBreak {gap : Gap} (h : gap.Meets (c :: cs)) (hfeed : c ≠ '\n')
    (hspace : cs.head?.any isSpace = false) : (gap.addBreak c).Meets cs := by
  cases gap with
  | blanks bs => exact ⟨⟨c, rfl, hfeed⟩, hspace⟩
  | lines first later => exact ⟨h.1, hspace⟩

/-- The indentation of a line belongs to the gap before it. -/
lemma quotedScalarFrom_indentation (first : Option Char) (later : List Char) :
    quotedScalarFrom true text (.lines first later) 0 pos (indentation ++ rest)
      = quotedScalarFrom true text (.lines first later) 0 (pos.forward 2) rest := by
  have hspace : isBlank ' ' = true := rfl
  rw [indentation, List.cons_append, quotedScalarFrom, if_neg (Nat.lt_irrefl 0), if_pos hspace,
    List.singleton_append, quotedScalarFrom, if_neg (Nat.lt_irrefl 0), if_pos hspace]
  rfl

/-- A character that is no space and no line end is read as itself, and so is the gap before it. -/
lemma quotedScalarFrom_singleChar (text : List Char) (gap : Gap) (hcolumn : 0 < pos.column)
    (hprintable : isPrintable c = true) (hbreak : isBreak c = false) (hspace : isSpace c = false)
    (rest : List Char) :
    ∃ pos', 0 < pos'.column ∧
      quotedScalarFrom true text gap 0 pos ((if c == '\'' then ['\'', '\''] else [c]) ++ rest)
        = quotedScalarFrom true (c :: (gap.text ++ text)) .none 0 pos' rest := by
  have hmark (cs : List Char) : (pos.column == 0 && isDocumentMark cs) = false := by
    rw [beq_false_of_ne (Nat.ne_of_gt hcolumn), Bool.false_and]
  have hblank : isBlank c = false := (isBlank_eq_isSpace hprintable).trans hspace
  by_cases hquote : c = '\''
  · subst hquote
    refine ⟨(pos.forward 1).forward 1, Nat.add_one_pos _, ?_⟩
    have hskip := quotedScalarFrom_skip true ('\'' :: (gap.text ++ text)) .none (pos.forward 1)
      ['\''] rest
    rw [List.length_singleton, List.singleton_append] at hskip
    rw [if_pos (beq_self_eq_true _), List.cons_append, List.singleton_append, quotedScalarFrom,
      ← hskip]
    simp [hmark, hblank, hbreak]
  · refine ⟨pos.forward 1, Nat.add_one_pos _, ?_⟩
    rw [if_neg (by rwa [beq_iff_eq]), List.singleton_append, quotedScalarFrom]
    simp [hmark, hblank, hbreak, hquote]

/-- A text in single quotes is read as it was. -/
lemma quotedScalarFrom_single (text : List Char) {gap : Gap} (hmeets : gap.Meets cs)
    (hcolumn : gap.isLines = false → 0 < pos.column) (hall : cs.all isPrintable = true)
    (hfeed : '\n' ∉ cs) (hbreaks : hasPair isBreak isSpace cs = false)
    (hspaces : hasPair isSpace isBreak cs = false) (hrest : rest.head? ≠ some '\'') :
    ∃ after, quotedScalarFrom true text gap 0 pos (singleBody gap.isLines cs ++ '\'' :: rest)
      = some (String.ofList (text.reverse ++ gap.text.reverse ++ cs), ⟨after, rest⟩) := by
  induction cs generalizing text gap pos with
  | nil =>
    have hquote (pos : Position) : quotedScalarFrom true text gap 0 pos ('\'' :: rest)
        = some (String.ofList (text.reverse ++ gap.text.reverse), ⟨pos.forward 1, rest⟩) := by
      rw [quotedScalarFrom]
      simp [isDocumentMark, isBlank, isBreak, hrest]
    rw [List.append_nil]
    cases gap with
    | blanks blanks => exact ⟨_, hquote pos⟩
    | lines first later => exact ⟨_, (quotedScalarFrom_indentation first later).trans (hquote _)⟩
  | cons c cs ih =>
    rw [List.all_cons, Bool.and_eq_true] at hall
    rw [List.mem_cons, not_or] at hfeed
    rw [hasPair, Bool.or_eq_false_iff] at hbreaks hspaces
    have ih := fun (text : List Char) (gap : Gap) (pos : Position) (hmeets : gap.Meets cs)
        (hcolumn : gap.isLines = false → 0 < pos.column) =>
      ih text hmeets hcolumn hall.2 hfeed.2 hbreaks.2 hspaces.2
    unfold singleBody
    by_cases hbreak : isBreak c
    · have hspace : cs.head?.any isSpace = false := by
        have h := hbreaks.1
        rwa [hbreak, Bool.true_and] at h
      obtain ⟨after, hread⟩ := ih text (gap.addBreak c) pos.newline
        (hmeets.addBreak (Ne.symm hfeed.1) hspace) (by cases gap <;> intro h <;> cases h)
      refine ⟨after, ?_⟩
      have hlines : (gap.addBreak c).isLines = true := by cases gap <;> rfl
      rw [hlines] at hread
      rw [if_pos hbreak, List.cons_append, quotedScalarFrom, if_neg (Nat.lt_irrefl 0), if_neg
        (by rw [isBlank_eq_false_of_isBreak hbreak]; exact Bool.false_ne_true), if_pos hbreak,
        hread, hmeets.text_addBreak hbreak (Ne.symm hfeed.1)]
      simp
    · rw [Bool.not_eq_true] at hbreak
      rw [hbreak, if_neg Bool.false_ne_true]
      by_cases hspace : isSpace c
      · have hbreak' : cs.head?.any isBreak = false := by
          have h := hspaces.1
          rwa [hspace, Bool.true_and] at h
        cases gap with
        | lines first later =>
          have hnone : isSpace c = false := hmeets.2
          rw [hspace] at hnone
          cases hnone
        | blanks bs =>
          obtain ⟨after, hread⟩ := ih text (.blanks (c :: bs)) (pos.forward 1) (fun _ => hbreak')
            (fun _ => Nat.add_one_pos _)
          refine ⟨after, ?_⟩
          rw [if_pos hspace, List.cons_append, quotedScalarFrom, if_neg (Nat.lt_irrefl 0),
            if_pos ((isBlank_eq_isSpace hall.1).trans hspace)]
          refine hread.trans ?_
          simp [Gap.text]
      · rw [if_neg hspace]
        rw [Bool.not_eq_true] at hspace
        have hread (pos : Position) (hcolumn : 0 < pos.column) :
            ∃ after, quotedScalarFrom true text gap 0 pos
                ((if c == '\'' then ['\'', '\''] else [c]) ++ (singleBody false cs ++ '\'' :: rest))
              = some (String.ofList (text.reverse ++ gap.text.reverse ++ c :: cs),
                ⟨after, rest⟩) := by
          obtain ⟨pos', hcolumn', hstep⟩ :=
            quotedScalarFrom_singleChar text gap hcolumn hall.1 hbreak hspace
              (singleBody false cs ++ '\'' :: rest)
          obtain ⟨after, hread⟩ := ih (c :: (gap.text ++ text)) .none pos' (fun h => absurd rfl h)
            (fun _ => hcolumn')
          refine ⟨after, hstep.trans (hread.trans ?_)⟩
          simp [Gap.text, Gap.none]
        cases gap with
        | blanks bs =>
          obtain ⟨after, hread⟩ := hread pos (hcolumn rfl)
          refine ⟨after, ?_⟩
          simpa [Gap.isLines] using hread
        | lines first later =>
          have hinside : 0 < (pos.forward 2).column := Nat.lt_add_left _ Nat.two_pos
          obtain ⟨after, hread⟩ := hread (pos.forward 2) hinside
          refine ⟨after, ?_⟩
          rw [Gap.isLines, if_pos rfl, List.append_assoc, List.append_assoc,
            quotedScalarFrom_indentation]
          exact hread

/-! ## Both kinds of quotes -/

lemma all_isPrintable_doubleBody (cs : List Char) :
    (cs.flatMap doubleChar).all isPrintable = true := by
  rw [List.all_flatMap, List.all_eq_true]
  intro c _
  rcases doubleChar_eq c with ⟨body, hbody, hescape⟩ | ⟨hself, hprintable, -⟩
  · rw [hbody, List.all_cons, hescape.all_isPrintable]
    rfl
  · rw [hself, List.all_cons, hprintable]
    rfl

lemma quotedScalar?_double (pos : Position) (cs rest : List Char) :
    ∃ after, quotedScalar? false ⟨pos, inStyle cs .doubleQuoted ++ rest⟩
      = some (String.ofList cs, ⟨after, rest⟩) := by
  have hinside : inStyle cs .doubleQuoted ++ rest
      = '"' :: (cs.flatMap doubleChar ++ '"' :: rest) := by
    simp [inStyle]
  rw [hinside]
  exact quotedScalarFrom_double (Nat.add_one_pos _) [] []

lemma quotedScalar?_single (hallows : allowsSingle cs = true) (hfeed : '\n' ∉ cs)
    (hrest : rest.head? ≠ some '\'') (pos : Position) :
    ∃ after, quotedScalar? true ⟨pos, inStyle cs .singleQuoted ++ rest⟩
      = some (String.ofList cs, ⟨after, rest⟩) := by
  have hinside : inStyle cs .singleQuoted ++ rest
      = '\'' :: (singleBody Gap.none.isLines cs ++ '\'' :: rest) := by
    simp [inStyle, Gap.none, Gap.isLines]
  rw [allowsSingle, Bool.and_eq_true, Bool.and_eq_true, Bool.not_eq_true', Bool.not_eq_true']
    at hallows
  obtain ⟨⟨hall, hbreaks⟩, hspaces⟩ := hallows
  rw [hinside]
  exact quotedScalarFrom_single [] (fun h => absurd rfl h) (fun _ => Nat.add_one_pos _) hall hfeed
    hbreaks hspaces hrest

end GlyphGrid.Yaml
