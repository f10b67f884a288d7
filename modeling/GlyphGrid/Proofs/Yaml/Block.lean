import Mathlib.Data.List.Induction
import GlyphGrid.Proofs.Yaml.Plain

/-!
# Literal blocks are read back

A text of several lines in a literal block is read as it was.  A reader that stands at the start of
a line is `literalFrom`; it takes an empty line (`literalFrom_break`) or a line with characters on
it (`literalFrom_line`) at a time, and stops at a line that is not indented (`literalFrom_tail`).

The line ends that a text ends with are kept or not as the first line of the block says, and this is
why the text is cut before them (`exists_core_append_ends`).
-/

namespace GlyphGrid.Yaml

open Written

variable {b c : Char} {cs line rest tail text : List Char} {pos : Position} {chomping : Chomping}
  {fuel : Nat}

/-- Reads the lines of a literal block from the start of one, `breaks` being the ends of the empty
lines before. -/
def literalFrom (chomping : Chomping) (fuel : Nat) (t : BlockText) (breaks : List Char)
    (pos : Position) (rest : List Char) : Option (String × Cursor) :=
  (blockGapFrom (some 2) breaks 0 pos rest).bind (blockLines true chomping 2 fuel t)

/-! ## One line -/

/-- An empty line is one more line end. -/
lemma literalFrom_break (t : BlockText) (breaks : List Char) (hcolumn : pos.column = 0)
    (hb : isBreak b = true) :
    literalFrom chomping fuel t breaks pos (b :: rest)
      = literalFrom chomping fuel t (b :: breaks) pos.newline rest := by
  have hspace : (b == ' ') = false := beq_false_of_ne (by rintro rfl; cases hb)
  have htab : (b == '\t') = false := beq_false_of_ne (by rintro rfl; cases hb)
  rw [literalFrom, literalFrom, blockGapFrom]
  simp [hspace, htab, hb, hcolumn]

/-- A line with characters on it joins what was read. -/
lemma literalFrom_line (chomping : Chomping) (t : BlockText) (breaks : List Char)
    (hcolumn : pos.column = 0) (hfirst : isBreak c = false)
    (hline : line.all (!isBreak ·) = true) (hb : isBreak b = true) :
    ∃ later led, later.column = 0 ∧ ∀ fuel rest,
      literalFrom chomping (fuel + 1) t breaks pos (indentation ++ c :: line ++ b :: rest)
        = literalFrom chomping fuel
          ⟨(c :: line).reverse ++ (breaks ++ t.lineEnd ++ t.text), [b], led⟩ [] later rest := by
  refine ⟨((pos.forward 2).forward (c :: line).length).newline, isBlank c, rfl, fun fuel rest => ?_⟩
  have hgap : blockGapFrom (some 2) breaks 0 pos (indentation ++ c :: line ++ b :: rest)
      = some ⟨breaks, 2, ⟨pos.forward 2, c :: line ++ b :: rest⟩⟩ := by
    simp [indentation, blockGapFrom, hcolumn, hfirst]
  have hall : (c :: line).all (!isBreak ·) = true := by
    rw [List.all_cons, hfirst, hline]
    rfl
  have hends : (b :: rest).head?.any (!isBreak ·) = false := by
    rw [List.head?_cons, Option.any_some, hb]
    rfl
  have htaken := Cursor.takeWhile_append hall hends (pos.forward 2)
  rw [literalFrom, hgap, Option.bind_some, blockLines]
  simp only [List.cons_append, Position.column_forward, hcolumn] at htaken ⊢
  rw [htaken]
  rfl

/-- A line that is not indented ends the block. -/
lemma literalFrom_tail (t : BlockText) (breaks : List Char) (hcolumn : pos.column = 0)
    (htail : EndsValue tail) :
    literalFrom chomping (fuel + 1) t breaks pos tail
      = some (t.finish chomping breaks, ⟨pos, tail⟩) := by
  cases tail with
  | nil => rw [literalFrom, blockGapFrom]; rfl
  | cons c tail =>
    have hfirst : (!isBlank c && !isBreak c) = true := htail
    rw [Bool.and_eq_true, Bool.not_eq_true', Bool.not_eq_true', isBlank, Bool.or_eq_false_iff]
      at hfirst
    obtain ⟨⟨hspace, htab⟩, hbreak⟩ := hfirst
    rw [literalFrom, blockGapFrom, hspace, htab, hbreak]
    simp [hcolumn, blockLines]

/-! ## All lines but the last line ends -/

lemma literalBody_line (hc : isBreak c = false) (hline : line.all (!isBreak ·) = true)
    (more : List Char) :
    literalBody true (c :: line ++ more) = indentation ++ c :: line ++ literalBody false more := by
  have hbody : literalBody false (line ++ more) = line ++ literalBody false more := by
    induction line with
    | nil => rfl
    | cons d line ih =>
      rw [List.all_cons, Bool.and_eq_true, Bool.not_eq_true'] at hline
      rw [List.cons_append, literalBody, hline.1, ih hline.2]
      rfl
  rw [List.cons_append, literalBody, hc, hbody]
  rfl

lemma literalBody_break (hb : isBreak b = true) (atLineStart : Bool) (more : List Char) :
    literalBody atLineStart (b :: more) = b :: literalBody true more := by
  rw [literalBody, if_pos hb]

/-- A text whose last line has characters on it and is not ended. -/
inductive EndsInLine : List Char → Prop where
  | line {c : Char} {line : List Char} (hc : isBreak c = false)
      (hline : line.all (!isBreak ·) = true) : EndsInLine (c :: line)
  | empty {b : Char} {rest : List Char} (hb : isBreak b = true) (hrest : EndsInLine rest) :
      EndsInLine (b :: rest)
  | more {c : Char} (line : List Char) {b : Char} {rest : List Char} (hc : isBreak c = false)
      (hline : line.all (!isBreak ·) = true) (hb : isBreak b = true) (hrest : EndsInLine rest) :
      EndsInLine (c :: line ++ b :: rest)

/-- A character before a text that ends in a line begins a line of it or is an empty one. -/
lemma EndsInLine.cons (h : EndsInLine cs) (c : Char) : EndsInLine (c :: cs) := by
  by_cases hc : isBreak c
  · exact .empty hc h
  · rw [Bool.not_eq_true] at hc
    cases h with
    | line hd hline => exact .line hc (by rw [List.all_cons, hd, hline]; rfl)
    | empty hb hrest => exact .more [] hc rfl hb hrest
    | more line hd hline hb hrest =>
      exact .more (_ :: line) hc (by rw [List.all_cons, hd, hline]; rfl) hb hrest

lemma endsInLine_append_singleton (cs : List Char) (hc : isBreak c = false) :
    EndsInLine (cs ++ [c]) := by
  induction cs with
  | nil => exact .line hc rfl
  | cons d cs ih => exact ih.cons d

/-- The lines of a text that ends with no line end are read to the end of the last one. -/
lemma literalFrom_core {core : List Char} (hcore : EndsInLine core) (chomping : Chomping)
    (t : BlockText) (breaks : List Char) (hcolumn : pos.column = 0) (hb : isBreak b = true)
    (rest : List Char) :
    ∃ used later led, used ≤ core.length ∧ later.column = 0 ∧ ∀ fuel,
      literalFrom chomping (fuel + used) t breaks pos (literalBody true core ++ b :: rest)
        = literalFrom chomping fuel
          ⟨core.reverse ++ (breaks ++ t.lineEnd ++ t.text), [b], led⟩ [] later rest := by
  induction hcore generalizing t breaks pos with
  | @line c line hc hline =>
    obtain ⟨later, led, hlater, hread⟩ := literalFrom_line chomping t breaks hcolumn hc hline hb
    refine ⟨1, later, led, Nat.le_add_left 1 _, hlater, fun fuel => ?_⟩
    have hbody := literalBody_line hc hline []
    rw [List.append_nil] at hbody
    rw [hbody, literalBody, List.append_nil, hread]
  | @empty b' _ hb' _ ih =>
    obtain ⟨used, later, led, hused, hlater, hread⟩ := ih t (b' :: breaks) pos.column_newline
    refine ⟨used, later, led, Nat.le_succ_of_le hused, hlater, fun fuel => ?_⟩
    rw [literalBody_break hb', List.cons_append, literalFrom_break t breaks hcolumn hb', hread]
    simp
  | @more c line b' _ hc hline hb' _ ih =>
    obtain ⟨middle, led, hmiddle, hline'⟩ := literalFrom_line chomping t breaks hcolumn hc hline hb'
    obtain ⟨used, later, led', hused, hlater, hread⟩ :=
      ih ⟨(c :: line).reverse ++ (breaks ++ t.lineEnd ++ t.text), [b'], led⟩ [] hmiddle
    refine ⟨used + 1, later, led', ?_, hlater, fun fuel => ?_⟩
    · simp only [List.length_append, List.length_cons]
      omega
    · rw [literalBody_line hc hline, literalBody_break hb', List.append_assoc, List.cons_append,
        ← Nat.add_assoc, hline', hread]
      simp

/-! ## The last line ends -/

/-- A text is some text that ends in a line, if there is any, and the line ends after it. -/
lemma exists_core_append_ends (cs : List Char) : ∃ core ends, cs = core ++ ends
    ∧ ends.all isBreak = true
    ∧ (core = [] ∨ ∃ init last, core = init ++ [last] ∧ isBreak last = false) := by
  induction cs using List.reverseRecOn with
  | nil => exact ⟨[], [], rfl, rfl, .inl rfl⟩
  | append_singleton cs c ih =>
    by_cases hc : isBreak c
    · obtain ⟨core, ends, rfl, hends, hcore⟩ := ih
      refine ⟨core, ends ++ [c], List.append_assoc core ends [c], ?_, hcore⟩
      rw [List.all_append, hends, List.all_cons, hc]
      rfl
    · rw [Bool.not_eq_true] at hc
      exact ⟨cs ++ [c], [], (List.append_nil _).symm, rfl, .inr ⟨cs, c, rfl, hc⟩⟩

variable {core ends : List Char}

lemma literalBody_append (hends : ends.all isBreak = true) (atLineStart : Bool) (core : List Char) :
    literalBody atLineStart (core ++ ends) = literalBody atLineStart core ++ ends := by
  induction core generalizing atLineStart with
  | nil =>
    induction ends generalizing atLineStart with
    | nil => rfl
    | cons b ends ih =>
      rw [List.all_cons, Bool.and_eq_true] at hends
      rw [List.nil_append, literalBody_break hends.1, ← List.nil_append ends, ih hends.2]
      rfl
  | cons c core ih =>
    rw [List.cons_append, literalBody, literalBody]
    split
    · rw [ih, List.cons_append]
    · rw [ih, List.append_assoc, List.cons_append]

/-- The ends of empty lines are collected. -/
lemma literalFrom_breaks (chomping : Chomping) (fuel : Nat) (t : BlockText) (breaks : List Char)
    (hcolumn : pos.column = 0) (hends : ends.all isBreak = true) (rest : List Char) :
    ∃ later, later.column = 0 ∧ literalFrom chomping fuel t breaks pos (ends ++ rest)
      = literalFrom chomping fuel t (ends.reverse ++ breaks) later rest := by
  induction ends generalizing breaks pos with
  | nil => exact ⟨pos, hcolumn, rfl⟩
  | cons b ends ih =>
    rw [List.all_cons, Bool.and_eq_true] at hends
    obtain ⟨later, hlater, hread⟩ := ih (b :: breaks) pos.column_newline hends.2
    refine ⟨later, hlater, ?_⟩
    rw [List.cons_append, literalFrom_break t breaks hcolumn hends.1, hread]
    simp

/-- A text that ends in a line and one line end after it at least are read to the end of the
block. -/
lemma literalFrom_ended (chomping : Chomping) (hcore : EndsInLine core) (hb : isBreak b = true)
    (hends : ends.all isBreak = true) (htail : EndsValue tail) (hcolumn : pos.column = 0)
    (hfuel : core.length < fuel) :
    ∃ led after, after.column = 0 ∧
      literalFrom chomping fuel ⟨[], [], false⟩ [] pos
          (literalBody true core ++ b :: (ends ++ tail))
        = some ((BlockText.mk core.reverse [b] led).finish chomping ends.reverse,
          ⟨after, tail⟩) := by
  obtain ⟨used, middle, led, hused, hmiddle, hlines⟩ :=
    literalFrom_core hcore chomping ⟨[], [], false⟩ [] hcolumn hb (ends ++ tail)
  obtain ⟨more, rfl⟩ : ∃ more, fuel = more + 1 + used := ⟨fuel - 1 - used, by omega⟩
  obtain ⟨after, hafter, hbreaks⟩ :=
    literalFrom_breaks chomping (more + 1) ⟨core.reverse, [b], led⟩ [] hmiddle hends tail
  refine ⟨led, after, hafter, ?_⟩
  rw [hlines]
  simp only [List.append_nil] at hbreaks ⊢
  rw [hbreaks, literalFrom_tail _ _ hafter htail]

/-! ## Whole blocks -/

/-- What ends the line of a value, if the value does not end it. -/
def lineEnd (cs : List Char) : List Char := if cs.getLast?.any isBreak then [] else ['\n']

/-- The character that asks for what happens to the line ends at the end of a block. -/
def chompingMark : Chomping → List Char
  | .strip => ['-']
  | .clip => []
  | .keep => ['+']

lemma lineEnd_append (hne : ends ≠ []) (hends : ends.all isBreak = true) (core : List Char) :
    lineEnd (core ++ ends) = [] := by
  have hlast : (core ++ ends).getLast?.any isBreak = true := by
    rw [List.getLast?_append_of_ne_nil core hne, List.getLast?_eq_some_getLast hne, Option.any_some]
    exact List.all_eq_true.mp hends _ (List.getLast_mem hne)
  rw [lineEnd, if_pos hlast]

/-- What the first line of a block says about the line ends at its end. -/
def chompingOf (core ends : List Char) : Chomping :=
  match ends with
  | [] => .strip
  | [_] => if core.isEmpty then .keep else .clip
  | _ => .keep

lemma literalHints_append (hne : core ++ ends ≠ []) (hends : ends.all isBreak = true)
    (hcore : core = [] ∨ ∃ init last, core = init ++ [last] ∧ isBreak last = false) :
    literalHints (core ++ ends)
      = (if (core ++ ends).head?.any (fun c => isSpace c || isBreak c) then ['2'] else [])
        ++ chompingMark (chompingOf core ends) := by
  rw [literalHints]
  congr 1
  rcases List.eq_nil_or_concat' ends with rfl | ⟨before, b, rfl⟩
  · rcases hcore with rfl | ⟨init, last, rfl, hlast⟩
    · exact absurd rfl hne
    · simp [hlast, chompingOf, chompingMark]
  · rw [List.all_append, Bool.and_eq_true, List.all_cons, Bool.and_eq_true] at hends
    obtain ⟨hbefore, hb, -⟩ := hends
    rcases List.eq_nil_or_concat' before with rfl | ⟨before, a, rfl⟩
    · rcases hcore with rfl | ⟨init, last, rfl, hlast⟩
      · simp [hb, chompingOf, chompingMark]
      · simp [hlast, hb, chompingOf, chompingMark]
    · rw [List.all_append, Bool.and_eq_true, List.all_cons, Bool.and_eq_true] at hbefore
      have hkeep : chompingOf core (before ++ [a] ++ [b]) = .keep := by
        cases before with
        | nil => rfl
        | cons d before => cases before <;> rfl
      rw [hkeep]
      simp [hb, hbefore.2.1, chompingMark]

/-- With what its first line says, a text is read as it was. -/
lemma literalFrom_append (hne : core ++ ends ≠ []) (hends : ends.all isBreak = true)
    (hcore : core = [] ∨ ∃ init last, core = init ++ [last] ∧ isBreak last = false)
    (htail : EndsValue tail) (hcolumn : pos.column = 0) (hfuel : core.length < fuel) :
    ∃ after, after.column = 0 ∧
      literalFrom (chompingOf core ends) fuel ⟨[], [], false⟩ [] pos
          (literalBody true (core ++ ends) ++ (lineEnd (core ++ ends) ++ tail))
        = some (String.ofList (core ++ ends), ⟨after, tail⟩) := by
  rw [literalBody_append hends]
  cases ends with
  | nil =>
    rcases hcore with rfl | ⟨init, last, rfl, hlast⟩
    · exact absurd rfl hne
    · obtain ⟨led, after, hafter, hread⟩ := literalFrom_ended .strip (b := '\n')
        (endsInLine_append_singleton init hlast) rfl hends htail hcolumn hfuel
      refine ⟨after, hafter, ?_⟩
      have hend : lineEnd (init ++ [last] ++ []) = ['\n'] := by simp [lineEnd, hlast]
      rw [hend, List.append_nil]
      refine hread.trans ?_
      rw [BlockText.finish, List.append_nil, List.reverse_reverse]
  | cons b more =>
    rw [lineEnd_append (List.cons_ne_nil b more) hends, List.nil_append]
    have hsplit := hends
    rw [List.all_cons] at hsplit
    rcases hcore with rfl | ⟨init, last, rfl, hlast⟩
    · obtain ⟨after, hafter, hread⟩ :=
        literalFrom_breaks .keep fuel ⟨[], [], false⟩ [] hcolumn hends tail
      refine ⟨after, hafter, ?_⟩
      obtain ⟨more', rfl⟩ : ∃ more', fuel = more' + 1 := ⟨fuel - 1, by omega⟩
      have hkeep : chompingOf [] (b :: more) = .keep := by cases more <;> rfl
      rw [hkeep, literalBody, List.nil_append, hread, literalFrom_tail _ _ hafter htail]
      simp [BlockText.finish]
    · rw [Bool.and_eq_true] at hsplit
      obtain ⟨led, after, hafter, hread⟩ :=
        literalFrom_ended (chompingOf (init ++ [last]) (b :: more))
          (endsInLine_append_singleton init hlast) hsplit.1 hsplit.2 htail hcolumn hfuel
      refine ⟨after, hafter, ?_⟩
      rw [List.append_assoc, List.cons_append]
      refine hread.trans ?_
      cases more with
      | nil => simp [chompingOf, BlockText.finish]
      | cons a more => simp [chompingOf, BlockText.finish]

/-! ## Whole blocks -/

lemma blockHeader?_hints (hasIndent : Bool) (chomping : Chomping) (rest : List Char) :
    blockHeader? ((if hasIndent then ['2'] else []) ++ chompingMark chomping ++ '\n' :: rest)
      = some (⟨chomping, if hasIndent then some 2 else none⟩,
        ((if hasIndent then ['2'] else []) ++ chompingMark chomping).length) := by
  cases hasIndent <;> cases chomping <;> rfl

lemma endLine?_newline (pos : Position) (rest : List Char) :
    (Cursor.mk pos ('\n' :: rest)).endLine? = some ⟨pos.newline, rest⟩ := rfl

/-- Where the first line shows the indentation, it is found. -/
lemma blockGapFrom_none (hcolumn : pos.column = 0) (hc : isPrintable c = true)
    (hfirst : (isSpace c || isBreak c) = false) (rest : List Char) :
    blockGapFrom none [] 0 pos (indentation ++ c :: rest)
      = blockGapFrom (some 2) [] 0 pos (indentation ++ c :: rest)
    ∧ ∃ gap, blockGapFrom none [] 0 pos (indentation ++ c :: rest) = some gap ∧ gap.reach = 2 := by
  rw [Bool.or_eq_false_iff] at hfirst
  have htab : c ≠ '\t' := ne_of_isPrintable hc rfl
  have hspace : c ≠ ' ' := by
    rintro rfl
    cases hfirst.1
  constructor
  · simp [indentation, blockGapFrom, hcolumn, hfirst.2, htab, hspace]
  · refine ⟨⟨[], 2, ⟨pos.forward 2, c :: rest⟩⟩, ?_, rfl⟩
    simp [indentation, blockGapFrom, hcolumn, hfirst.2, htab, hspace]

lemma length_le_literalBody (atLineStart : Bool) (cs : List Char) :
    cs.length ≤ (literalBody atLineStart cs).length := by
  induction cs generalizing atLineStart with
  | nil => exact Nat.le.refl
  | cons c cs ih =>
    rw [literalBody]
    split
    · exact Nat.succ_le_succ (ih true)
    · rw [List.length_append, List.length_cons, List.length_cons]
      have h := ih false
      omega

/-- After the first line of a block its lines are read. -/
lemma blockScalar?_hints (pos : Position) (chomping : Chomping) {lines : List Char}
    (hasIndent : Bool)
    (hindent : hasIndent = false → ∃ c more, lines = indentation ++ c :: more ∧ isPrintable c = true
      ∧ (isSpace c || isBreak c) = false) :
    ∃ first, first.column = 0 ∧ blockScalar? true (some 0)
        ⟨pos, '|' :: ((if hasIndent then ['2'] else []) ++ chompingMark chomping ++ '\n' :: lines)⟩
      = literalFrom chomping (lines.length + 1) ⟨[], [], false⟩ [] first lines := by
  have hheader := blockHeader?_hints hasIndent chomping lines
  generalize hhints : (if hasIndent then ['2'] else []) ++ chompingMark chomping = hints
    at hheader ⊢
  have hdrop : Cursor.forward ⟨pos.forward 1, hints ++ '\n' :: lines⟩ hints.length
      = ⟨(pos.forward 1).forward hints.length, '\n' :: lines⟩ := by
    rw [Cursor.forward, List.drop_left]
  refine ⟨((pos.forward 1).forward hints.length).newline, rfl, ?_⟩
  have hstart : Cursor.forward ⟨pos, '|' :: (hints ++ '\n' :: lines)⟩ 1
      = ⟨pos.forward 1, hints ++ '\n' :: lines⟩ := rfl
  rw [blockScalar?, hstart]
  simp only [hheader, Option.bind_eq_bind, Option.bind_some, hdrop, endLine?_newline]
  cases hasIndent with
  | true => rfl
  | false =>
    obtain ⟨c, more, rfl, hprintable, hfirst⟩ := hindent rfl
    obtain ⟨hsame, gap, hgap, hreach⟩ :=
      blockGapFrom_none ((pos.forward 1).forward hints.length).column_newline hprintable hfirst more
    rw [literalFrom, ← hsame]
    simp only [Bool.false_eq_true, if_false, Option.map_none, hgap, Option.bind_some, hreach]
    rfl

/-- A literal block is read as it was. -/
lemma blockScalar?_literal (hallows : allowsBlock cs = true) (htail : EndsValue tail)
    (pos : Position) : ∃ after, after.column = 0 ∧
      blockScalar? true (some 0) ⟨pos, inStyle cs .literal ++ (lineEnd cs ++ tail)⟩
        = some (String.ofList cs, ⟨after, tail⟩) := by
  rw [allowsBlock, Bool.and_eq_true, Bool.and_eq_true, Bool.and_eq_true, Bool.not_eq_true',
    List.isEmpty_eq_false_iff] at hallows
  obtain ⟨⟨⟨hne, hall⟩, -⟩, -⟩ := hallows
  obtain ⟨core, ends, hcs, hends, hcore⟩ := exists_core_append_ends cs
  have hinside : inStyle cs .literal ++ (lineEnd cs ++ tail)
      = '|' :: ((if cs.head?.any (fun c => isSpace c || isBreak c) then ['2'] else [])
        ++ chompingMark (chompingOf core ends)
        ++ '\n' :: (literalBody true cs ++ (lineEnd cs ++ tail))) := by
    rw [inStyle, hcs, literalHints_append (hcs ▸ hne) hends hcore]
    simp
  have hindent : cs.head?.any (fun c => isSpace c || isBreak c) = false →
      ∃ c more, literalBody true cs ++ (lineEnd cs ++ tail) = indentation ++ c :: more
        ∧ isPrintable c = true ∧ (isSpace c || isBreak c) = false := by
    intro hindent
    obtain ⟨c, rest, rfl⟩ := List.exists_cons_of_ne_nil hne
    have hc : (isSpace c || isBreak c) = false := hindent
    rw [List.all_cons, Bool.and_eq_true] at hall
    refine ⟨c, literalBody false rest ++ (lineEnd (c :: rest) ++ tail), ?_, hall.1, hc⟩
    rw [Bool.or_eq_false_iff] at hc
    rw [literalBody, hc.2]
    simp
  obtain ⟨first, hfirst, hread⟩ := blockScalar?_hints pos (chompingOf core ends) _ hindent
  have hfuel : core.length < (literalBody true cs ++ (lineEnd cs ++ tail)).length + 1 := by
    have hbody := length_le_literalBody true cs
    have hlength := congrArg List.length hcs
    rw [List.length_append] at hlength ⊢
    omega
  obtain ⟨after, hafter, hlines⟩ := literalFrom_append (hcs ▸ hne) hends hcore htail hfirst hfuel
  refine ⟨after, hafter, ?_⟩
  rw [hinside, hread, hcs, ← hlines, ← hcs]

end GlyphGrid.Yaml
