import GlyphGrid.Yaml.Node
import GlyphGrid.Proofs.Yaml.Quoting
import GlyphGrid.Proofs.Yaml.Block

/-!
# The tokens of a written mapping

A block mapping is written as one section for each key: the key, a colon and what `Section.text` has
after it.  The scanner reads it a section at a time.  `Lexer.Reads` counts the rounds that it takes
from one place to another; between two sections it stands at the start of a line
(`Lexer.lineStart`), and after a key and its colon at the value (`Lexer.atValue`).
-/

namespace GlyphGrid.Yaml

open Written

namespace Lexer

/-! ## Rounds -/

/-- In a number of rounds the scanner gets from one place to another. -/
def Reads (rounds : Nat) (l later : Lexer) : Prop :=
  ∀ fuel, run (fuel + rounds) l = run fuel later

variable {l middle later : Lexer} {m n : Nat}

lemma Reads.trans (h : Reads m l middle) (h' : Reads n middle later) :
    Reads (m + n) l later := by
  intro fuel
  rw [Nat.add_comm m n, ← Nat.add_assoc, h, h']

/-- What stands before the next token does not matter. -/
lemma reads_of_advance (h : l.advance = later.advance) : Reads 0 l later := by
  intro fuel
  cases fuel with
  | zero => rfl
  | succ fuel => rw [Nat.add_zero, run, run, h]

/-- One round reads one token. -/
lemma reads_of_token? (settled : Lexer) (c : Char) (rest : List Char)
    (hkeys : l.advance.dropStaleKeys? = some settled)
    (hblocks : settled.closeBlocks settled.column = settled)
    (hrest : settled.cursor.rest = c :: rest) (htoken : settled.token? c rest = some later) :
    Reads 1 l later := by
  intro fuel
  rw [run, hkeys]
  simp only [Option.bind_eq_bind, Option.bind_some, hblocks, hrest, htoken]

end Lexer

variable {c : Char} {cs rest tail : List Char} {pos : Position}

/-! ## The next token -/

/-- Whether a character begins a token wherever it stands on its line. -/
def startsToken (c : Char) : Bool :=
  !isBreak c && c != ' ' && c != '\t' && c != byteOrderMark && c != '#'

lemma skipToToken_of_startsToken (hc : startsToken c = true) (inFlow keyAllowed : Bool)
    (pos : Position) (rest : List Char) :
    Lexer.skipToToken inFlow keyAllowed false pos (c :: rest) = (keyAllowed, ⟨pos, c :: rest⟩) := by
  simp only [startsToken, Bool.and_eq_true, Bool.not_eq_true', bne_iff_ne] at hc
  obtain ⟨⟨⟨⟨hbreak, hspace⟩, htab⟩, hmark⟩, hcomment⟩ := hc
  simp [Lexer.skipToToken, hbreak, hspace, htab, hmark, hcomment]

lemma startsToken_of_allowsPlain (h : AllowsPlain c cs) : startsToken c = true := by
  have htab : c ≠ '\t' := ne_of_isPrintable h.isPrintable rfl
  have hmark : c ≠ byteOrderMark := ne_of_isPrintable h.isPrintable rfl
  have hspace : c ≠ ' ' := by
    rintro rfl
    cases h.isSpace
  have hcomment : c ≠ '#' := by
    rintro rfl
    cases h.isFirstIndicator
  simp [startsToken, h.isBreak, htab, hmark, hspace, hcomment]

namespace Lexer

/-- A text without quotes begins a plain scalar. -/
lemma beginsPlain_of_allowsPlain (h : AllowsPlain c cs) (rest : List Char) :
    beginsPlain false c (cs ++ rest) = true := by
  have hblank : isBlank c = false := (isBlank_eq_isSpace h.isPrintable).trans h.isSpace
  have hfirst := h.isFirstIndicator
  have hgoesOn (hc : (c == '?' || c == ':' || c == '-') = true) :
      endsWord (cs ++ rest) = false := by
    have hends := h.endsWord
    rw [hc, Bool.true_and] at hends
    exact endsWord_append hends rest
  have hhead (hends : endsWord (cs ++ rest) = false) : (cs ++ rest).head?.any isBlank = false := by
    cases hrest : cs ++ rest with
    | nil => rfl
    | cons d more =>
      rw [hrest, endsWord, Bool.or_eq_false_iff] at hends
      exact hends.1
  simp only [isFirstIndicator, Bool.or_eq_false_iff] at hfirst
  by_cases hdash : c = '-'
  · subst hdash
    rw [beginsPlain, hhead (hgoesOn rfl)]
    rfl
  · by_cases hquestion : c = '?'
    · subst hquestion
      simp [beginsPlain, hgoesOn rfl]
    · by_cases hcolon : c = ':'
      · subst hcolon
        simp [beginsPlain, hgoesOn rfl]
      · simp [beginsPlain, isIndicator, isFlowIndicator, hfirst, hdash, hquestion, hcolon, hblank]

lemma token?_plain {l : Lexer} (h : AllowsPlain c cs) (hflow : l.flowKeys = []) (rest : List Char)
    (hmark : l.column = 0 → isDocumentMark (c :: cs ++ rest) = false) :
    l.token? c (cs ++ rest) = l.plain? := by
  have hinFlow : l.inFlow = false := by rw [inFlow, hflow]; rfl
  have hmark' : (l.column == 0 && isDocumentMark (c :: (cs ++ rest))) = false := by
    rw [Bool.and_eq_false_iff, beq_eq_false_iff_ne]
    by_cases hzero : l.column = 0
    · exact .inr (hmark hzero)
    · exact .inl hzero
  have hends {d : Char} (hd : (d == '?' || d == ':' || d == '-') = true) :
      (c == d && endsWord (cs ++ rest)) = false := by
    by_cases hc : c = d
    · subst hc
      have hends := h.endsWord
      rw [hd, Bool.true_and] at hends
      rw [endsWord_append hends rest, Bool.and_false]
    · rw [beq_false_of_ne hc, Bool.false_and]
  have hfirst := h.isFirstIndicator
  simp only [isFirstIndicator, Bool.or_eq_false_iff] at hfirst
  rw [token?, hmark']
  simp [hfirst, hinFlow, hends (d := '-') rfl, hends (d := '?') rfl, hends (d := ':') rfl,
    beginsPlain_of_allowsPlain h rest]

/-! ## Between tokens -/

lemma advance_eq_self {l : Lexer} (hrest : l.cursor.rest = c :: rest) (hc : startsToken c = true) :
    l.advance = l := by
  have hskip := skipToToken_of_startsToken hc l.inFlow l.keyAllowed l.cursor.pos rest
  rw [← hrest] at hskip
  rw [advance, hskip]
  rfl

/-- A key that may have begun on a line before is given up. -/
def IsStale (key : Option SimpleKey) (pos : Position) : Prop :=
  ∀ k ∈ key, k.isRequired = false ∧ k.pos.line < pos.line

lemma isStale_none (pos : Position) : IsStale none pos := fun k hk => by cases hk

lemma dropStaleKeys?_of_isStale {l : Lexer} (hflow : l.flowKeys = [])
    (hkey : IsStale l.blockKey l.cursor.pos) :
    l.dropStaleKeys? = some { l with blockKey := none } := by
  have hrefresh : l.refresh? l.blockKey = some none := by
    cases hk : l.blockKey with
    | none => rfl
    | some k =>
      obtain ⟨hrequired, hline⟩ := hkey k hk
      have hfresh : l.isFresh k = false := by
        rw [isFresh, decide_eq_false (Nat.not_le.mpr hline), Bool.false_and]
      simp [refresh?, hfresh, hrequired]
  simp [dropStaleKeys?, hrefresh, hflow]

lemma dropStaleKeys?_of_isFresh {l : Lexer} {k : SimpleKey} (hflow : l.flowKeys = [])
    (hkey : l.blockKey = some k) (hfresh : l.isFresh k = true) :
    l.dropStaleKeys? = some l := by
  have hsame : { l with blockKey := some k, flowKeys := [] } = l := by rw [← hkey, ← hflow]
  simp [dropStaleKeys?, refresh?, hkey, hfresh, hflow, hsame]

lemma closeBlocks_eq_self {l : Lexer} {column : Int} (h : l.indent ≤ column) :
    l.closeBlocks column = l := by
  have hclose : closeBlocksFrom column l.indent l.indents = (l.indent, l.indents, []) := by
    cases l.indents with
    | nil => rw [closeBlocksFrom, if_pos h]
    | cons outer rest => rw [closeBlocksFrom, if_pos h]
  rw [closeBlocks, hclose]
  split <;> rfl

/-! ## Keys -/

/-- The scanner at the start of a line of a mapping, which the first line begins. -/
def lineStart (isFirst : Bool) (key : Option SimpleKey) (done : List Token) (c : Cursor) : Lexer :=
  ⟨c, if isFirst then -1 else 0, if isFirst then [] else [-1], key, [], true, done, done.length⟩

/-- The scanner after the colon of a key. -/
def atValue (done : List Token) (c : Cursor) : Lexer :=
  ⟨c, 0, [-1], none, [], false, done, done.length⟩

/-- The tokens that a key is read as, in reverse; the first one begins the mapping. -/
def keyTokens (isFirst : Bool) (key : String) : List Token :=
  .value :: .scalar ⟨key, .plain⟩ :: .key :: (if isFirst then [.blockMappingStart] else [])

variable {isFirst : Bool} {key : Option SimpleKey} {done : List Token}

/-- The scanner after the name of a key, before its colon. -/
def atColon (isFirst : Bool) (start : Position) (name : String) (done : List Token) (c : Cursor) :
    Lexer :=
  ⟨c, if isFirst then -1 else 0, if isFirst then [] else [-1],
    some ⟨done.length, start, !isFirst⟩, [], false, .scalar ⟨name, .plain⟩ :: done, done.length + 1⟩

lemma plain?_eq {l saved : Lexer} {s : PlainScalar} (hsaved : l.saveKey? = some saved)
    (hread : plainScalar? saved.inFlow (saved.indent + 1).toNat saved.cursor = some s) :
    l.plain?
      = some (((saved.allowKey s.endsLine).goTo s.after).emit (.scalar ⟨s.text, .plain⟩)) := by
  rw [plain?, hsaved]
  simp only [Option.bind_eq_bind, Option.bind_some, hread]

lemma isDocumentMark_eq_false (hdash : c ≠ '-') (hdot : c ≠ '.') (rest : List Char) :
    isDocumentMark (c :: rest) = false := by
  unfold isDocumentMark
  split
  · exact absurd (List.cons.inj ‹_›).1 hdash
  · exact absurd (List.cons.inj ‹_›).1 hdot
  · rfl

/-- The name of a key is read. -/
lemma reads_name (hword : IsWord (c :: cs)) (hcolumn : pos.column = 0) (hkey : IsStale key pos)
    (hends : endsWord rest = true) :
    Reads 1 (lineStart isFirst key done ⟨pos, c :: cs ++ ':' :: rest⟩)
      (atColon isFirst pos (String.ofList (c :: cs)) done
        ⟨pos.forward (cs.length + 1), ':' :: rest⟩) := by
  have hplain := hword.allowsPlain
  have hchar : isWordChar c = true := by
    have hall := hword.all
    rw [List.all_cons, Bool.and_eq_true] at hall
    exact hall.1
  have hmark : isDocumentMark (c :: cs ++ ':' :: rest) = false :=
    isDocumentMark_eq_false (ne_of_isWordChar hchar rfl) (ne_of_isWordChar hchar rfl) _
  have hread (indent : Nat) (hindent : indent ≤ 1) :
      plainScalar? false indent ⟨pos, c :: cs ++ ':' :: rest⟩
        = some ⟨String.ofList (c :: cs), false, ⟨pos.forward (cs.length + 1), ':' :: rest⟩⟩ := by
    rw [plainScalar?, plainScalarFrom_text hplain hindent fun _ => hmark,
      plainScalarFrom_colon hends, List.reverse_reverse]
  refine reads_of_token? (lineStart isFirst none done ⟨pos, c :: cs ++ ':' :: rest⟩) c
    (cs ++ ':' :: rest) ?_ ?_ rfl ?_
  · rw [advance_eq_self rfl (startsToken_of_allowsPlain hplain)]
    exact dropStaleKeys?_of_isStale rfl hkey
  · apply closeBlocks_eq_self
    cases isFirst <;> simp [lineStart, column, hcolumn]
  · rw [token?_plain hplain rfl (':' :: rest) fun _ => hmark]
    have hsaved : (lineStart isFirst none done ⟨pos, c :: cs ++ ':' :: rest⟩).saveKey?
        = some (lineStart isFirst (some ⟨done.length, pos, !isFirst⟩) done
          ⟨pos, c :: cs ++ ':' :: rest⟩) := by
      cases isFirst <;> simp [saveKey?, lineStart, inFlow, column, hcolumn, dropKey?, key?, setKey]
    cases isFirst with
    | true => exact plain?_eq hsaved (hread 0 (by decide))
    | false => exact plain?_eq hsaved (hread 1 (by decide))

/-- The colon after a key is read. -/
lemma reads_colon {start : Position} {name : String} (hcolumn : start.column = 0)
    (hline : pos.line = start.line) (hindex : pos.index ≤ start.index + maxKeyLength)
    (hends : endsWord rest = true) :
    Reads 1 (atColon isFirst start name done ⟨pos, ':' :: rest⟩)
      (atValue (keyTokens isFirst name ++ done) ⟨pos.forward 1, rest⟩) := by
  have hfresh : (atColon isFirst start name done ⟨pos, ':' :: rest⟩).isFresh
      ⟨done.length, start, !isFirst⟩ = true := by
    simp [isFresh, atColon, hline, hindex]
  refine reads_of_token? (atColon isFirst start name done ⟨pos, ':' :: rest⟩) ':' rest ?_ ?_ rfl ?_
  · rw [advance_eq_self rfl rfl]
    exact dropStaleKeys?_of_isFresh rfl rfl hfresh
  · apply closeBlocks_eq_self
    cases isFirst <;> simp [atColon, column]
  · have htoken : (atColon isFirst start name done ⟨pos, ':' :: rest⟩).token? ':' rest
        = (atColon isFirst start name done ⟨pos, ':' :: rest⟩).value? := by
      simp [token?, isDocumentMark, hends]
    have htwo : done.length + 1 + 1 - done.length = 2 := by omega
    rw [htoken, value?]
    cases isFirst <;>
      simp [htwo, atColon, key?, announceKey, emitAt, openBlock, inFlow, hcolumn, setKey, allowKey,
        take, goTo, emit, atValue, keyTokens, Cursor.forward]

/-- A key and its colon are read. -/
lemma reads_key (isFirst : Bool) (done : List Token) (hword : IsWord (c :: cs))
    (hlength : cs.length < maxKeyLength) (hcolumn : pos.column = 0) (hkey : IsStale key pos)
    (hends : endsWord rest = true) :
    Reads 2 (lineStart isFirst key done ⟨pos, c :: cs ++ ':' :: rest⟩)
      (atValue (keyTokens isFirst (String.ofList (c :: cs)) ++ done)
        ⟨pos.forward (cs.length + 2), rest⟩) := by
  change Reads (1 + 1) _ _
  rw [← Position.forward_forward pos (cs.length + 1) 1]
  exact (reads_name hword hcolumn hkey hends).trans
    (reads_colon hcolumn rfl (Nat.add_le_add_left hlength pos.index) hends)

/-! ## Texts as values -/

/-- The space after a colon. -/
lemma reads_space :
    Reads 0 (atValue done ⟨pos, ' ' :: rest⟩) (atValue done ⟨pos.forward 1, rest⟩) :=
  reads_of_advance rfl

/-- The end of the line of a value. -/
lemma reads_newline :
    Reads 0 (atValue done ⟨pos, '\n' :: rest⟩) (lineStart false none done ⟨pos.newline, rest⟩) :=
  reads_of_advance rfl

/-- A value that begins a token is read in one round. -/
lemma reads_value {later : Lexer} (hc : startsToken c = true)
    (htoken : (atValue done ⟨pos, c :: rest⟩).token? c rest = some later) :
    Reads 1 (atValue done ⟨pos, c :: rest⟩) later := by
  refine reads_of_token? (atValue done ⟨pos, c :: rest⟩) c rest ?_ ?_ rfl htoken
  · rw [advance_eq_self rfl hc]
    exact dropStaleKeys?_of_isStale rfl (isStale_none pos)
  · apply closeBlocks_eq_self
    simp [atValue, column]

/-- Without quotes. -/
lemma reads_plainValue (done : List Token) (h : AllowsPlain c cs) (htail : EndsValue tail)
    (hcolumn : 0 < pos.column) :
    Reads 1 (atValue done ⟨pos, c :: cs ++ '\n' :: tail⟩)
      (lineStart false none (.scalar ⟨String.ofList (c :: cs), .plain⟩ :: done)
        ⟨(pos.forward (cs.length + 1)).newline, tail⟩) := by
  have htoken := token?_plain (l := atValue done ⟨pos, c :: cs ++ '\n' :: tail⟩) h rfl
    ('\n' :: tail) fun hzero => absurd hzero (Nat.ne_of_gt hcolumn)
  have hsaved : (atValue done ⟨pos, c :: cs ++ '\n' :: tail⟩).saveKey?
      = some (atValue done ⟨pos, c :: cs ++ '\n' :: tail⟩) := rfl
  rw [List.cons_append]
  refine reads_value (startsToken_of_allowsPlain h) (htoken.trans ?_)
  exact plain?_eq hsaved (plainScalar?_line h hcolumn htail)

/-- In quotes. -/
lemma reads_quotedValue (isSingle : Bool) {text : String} {after : Position}
    (hc : c = if isSingle then '\'' else '"')
    (hread : quotedScalar? isSingle ⟨pos, c :: rest⟩ = some (text, ⟨after, '\n' :: tail⟩)) :
    Reads 1 (atValue done ⟨pos, c :: rest⟩)
      (lineStart false none
        (.scalar ⟨text, if isSingle then .singleQuoted else .doubleQuoted⟩ :: done)
        ⟨after.newline, tail⟩) := by
  have hquoted : (atValue done ⟨pos, c :: rest⟩).quoted? isSingle
      = some (atValue (.scalar ⟨text, if isSingle then .singleQuoted else .doubleQuoted⟩ :: done)
        ⟨after, '\n' :: tail⟩) := by
    simp [quoted?, word?, saveKey?, atValue, hread, allowKey, goTo, emit]
  refine (reads_value ?_ ?_).trans reads_newline
  · rw [hc]
    cases isSingle <;> rfl
  · rw [← hquoted, hc]
    cases isSingle <;> simp [token?, isDocumentMark]

/-- As a literal block. -/
lemma reads_literalValue {text : String} {after : Position}
    (hread : blockScalar? true (some 0) ⟨pos, '|' :: rest⟩ = some (text, ⟨after, tail⟩)) :
    Reads 1 (atValue done ⟨pos, '|' :: rest⟩)
      (lineStart false none (.scalar ⟨text, .literal⟩ :: done) ⟨after, tail⟩) := by
  refine reads_value rfl ?_
  have htoken : (atValue done ⟨pos, '|' :: rest⟩).token? '|' rest
      = (atValue done ⟨pos, '|' :: rest⟩).block? true := by
    simp [token?, isDocumentMark, inFlow, atValue]
  rw [htoken]
  simp [block?, atValue, dropKey?, key?, setKey, hread, allowKey, goTo, emit, lineStart]

/-- How a text is written as a value, with the end of its line. -/
def valueText (text : String) : List Char :=
  let body := inStyle text.toList (style text)
  body ++ (if body.getLast?.any isBreak then [] else ['\n'])

lemma exists_literalBody_append_singleton (cs : List Char) (c : Char) (atLineStart : Bool) :
    ∃ before, literalBody atLineStart (cs ++ [c]) = before ++ [c] := by
  induction cs generalizing atLineStart with
  | nil =>
    by_cases hc : isBreak c
    · exact ⟨[], by rw [List.nil_append, literalBody_break hc]; rfl⟩
    · exact ⟨if atLineStart then indentation else [], by simp [literalBody, hc]⟩
  | cons d cs ih =>
    rw [List.cons_append, literalBody]
    split
    · obtain ⟨before, hbefore⟩ := ih true
      exact ⟨d :: before, by rw [hbefore, List.cons_append]⟩
    · obtain ⟨before, hbefore⟩ := ih false
      exact ⟨(if atLineStart then indentation else []) ++ d :: before, by rw [hbefore]; simp⟩

/-- A block ends its line where its text does. -/
lemma getLast?_literal (hne : cs ≠ []) : (inStyle cs .literal).getLast? = cs.getLast? := by
  rcases List.eq_nil_or_concat' cs with rfl | ⟨init, last, rfl⟩
  · exact absurd rfl hne
  · obtain ⟨before, hbefore⟩ := exists_literalBody_append_singleton init last true
    rw [inStyle, hbefore, List.getLast?_concat, ← List.cons_append, ← List.append_assoc,
      List.getLast?_concat]

/-- A quoted text does not end its line. -/
lemma valueText_of_quotes {text : String} {body : List Char} {quote : Char}
    (hbody : inStyle text.toList (style text) = body ++ [quote]) (hquote : isBreak quote = false) :
    valueText text = inStyle text.toList (style text) ++ ['\n'] := by
  rw [valueText, hbody, List.getLast?_concat, Option.any_some, hquote]
  rfl

/-- A plain text does not end its line. -/
lemma valueText_of_plain {text : String} (hstyle : style text = .plain)
    (hcs : text.toList = c :: cs) (h : AllowsPlain c cs) : valueText text = c :: cs ++ ['\n'] := by
  have hlast : (c :: cs).getLast?.any isBreak = false := by
    rw [Option.any_eq_false]
    intro d hd
    rcases List.mem_cons.mp (List.mem_of_getLast? hd) with rfl | hd
    · exact h.isBreak
    · have hboth := List.all_eq_true.mp h.all d hd
      rw [Bool.and_eq_true, Bool.not_eq_true'] at hboth
      exact hboth.2
  rw [valueText, hstyle, inStyle, hcs, hlast]
  rfl

/-- A written text is read as it was, in one round. -/
lemma reads_valueText (done : List Token) (text : String) (htail : EndsValue tail)
    (hcolumn : 0 < pos.column) :
    ∃ after, after.column = 0 ∧ Reads 1 (atValue done ⟨pos, valueText text ++ tail⟩)
      (lineStart false none (.scalar ⟨text, style text⟩ :: done) ⟨after, tail⟩) := by
  rcases style_cases text with ⟨hstyle, hblock⟩ | ⟨hstyle, hclear, hplain⟩
    | ⟨hstyle, hsingle, hfeed⟩ | hstyle
  · have hne : text.toList ≠ [] := by
      intro hnil
      rw [hnil] at hblock
      cases hblock
    obtain ⟨after, hafter, hread⟩ := blockScalar?_literal hblock htail pos
    have hvalue : valueText text ++ tail
        = inStyle text.toList .literal ++ (lineEnd text.toList ++ tail) := by
      rw [valueText, hstyle, getLast?_literal hne, lineEnd, List.append_assoc]
    rw [String.ofList_toList] at hread
    refine ⟨after, hafter, ?_⟩
    rw [hvalue, hstyle]
    exact reads_literalValue hread
  · cases hcs : text.toList with
    | nil =>
      have hempty : text = "" := by rw [← String.ofList_toList (s := text), hcs]
      rw [hempty] at hclear
      exact absurd hclear (by decide)
    | cons c rest =>
      have hallows : AllowsPlain c rest := allowsPlain_cons (by rw [← hcs]; exact hplain)
      have hread := reads_plainValue done hallows htail hcolumn
      rw [← hcs, String.ofList_toList, hcs] at hread
      refine ⟨(pos.forward (rest.length + 1)).newline, rfl, ?_⟩
      rw [valueText_of_plain hstyle hcs hallows, List.append_assoc, hstyle]
      exact hread
  · have hnext : ('\n' :: tail).head? ≠ some '\'' := by simp
    obtain ⟨after, hread⟩ := quotedScalar?_single hsingle hfeed hnext pos
    rw [String.ofList_toList] at hread
    refine ⟨after.newline, rfl, ?_⟩
    rw [valueText_of_quotes (by rw [hstyle]; rfl) rfl, List.append_assoc, hstyle]
    exact reads_quotedValue true rfl hread
  · obtain ⟨after, hread⟩ := quotedScalar?_double pos text.toList ('\n' :: tail)
    rw [String.ofList_toList] at hread
    refine ⟨after.newline, rfl, ?_⟩
    rw [valueText_of_quotes (by rw [hstyle]; rfl) rfl, List.append_assoc, hstyle]
    exact reads_quotedValue false rfl hread

/-- A text is written in printable characters, whatever its form. -/
lemma all_isPrintable_valueText (text : String) : (valueText text).all isPrintable = true := by
  have hbody : (inStyle text.toList (style text)).all isPrintable = true := by
    rcases style_cases text with ⟨hstyle, hblock⟩ | ⟨hstyle, -, hplain⟩ | ⟨hstyle, hsingle, -⟩
      | hstyle
    · rw [allowsBlock, Bool.and_eq_true, Bool.and_eq_true, Bool.and_eq_true] at hblock
      have hlines := all_isPrintable_literalBody hblock.1.1.2 true
      rw [hstyle, inStyle, List.all_append, List.all_cons, List.all_cons,
        all_isPrintable_literalHints, hlines]
      rfl
    · rw [allowsPlain, Bool.and_eq_true, Bool.and_eq_true, Bool.and_eq_true] at hplain
      rw [hstyle, inStyle, List.all_eq_true]
      intro c hc
      have hboth := List.all_eq_true.mp hplain.1.1.1 c hc
      rw [Bool.and_eq_true] at hboth
      exact hboth.1
    · rw [allowsSingle, Bool.and_eq_true, Bool.and_eq_true] at hsingle
      have hbody := all_isPrintable_singleBody hsingle.1.1 false
      rw [hstyle, inStyle, List.all_append, List.all_cons, hbody]
      rfl
    · rw [hstyle, inStyle, List.all_append, List.all_cons, all_isPrintable_doubleBody]
      rfl
  rw [valueText, List.all_append, hbody, Bool.true_and]
  split <;> rfl

/-! ## Lists of words as values -/

/-- The lines of a list of words, which are not indented. -/
def itemLines (words : List (List Char)) : List Char :=
  words.flatMap fun word => '-' :: ' ' :: word ++ ['\n']

/-- The tokens of a list of words. -/
def itemTokens (words : List (List Char)) : List Token :=
  words.flatMap fun word => [.blockEntry, .scalar ⟨String.ofList word, .plain⟩]

/-- The hyphen before a word is read. -/
lemma reads_hyphen (hcolumn : pos.column = 0) (hkey : IsStale key pos) :
    Reads 1 (lineStart false key done ⟨pos, '-' :: ' ' :: rest⟩)
      (lineStart false none (.blockEntry :: done) ⟨pos.forward 2, rest⟩) := by
  have hspace : Reads 0 (lineStart false none (.blockEntry :: done) ⟨pos.forward 1, ' ' :: rest⟩)
      (lineStart false none (.blockEntry :: done) ⟨pos.forward 2, rest⟩) := reads_of_advance rfl
  refine Reads.trans (reads_of_token? (lineStart false none done ⟨pos, '-' :: ' ' :: rest⟩) '-'
    (' ' :: rest) ?_ ?_ rfl ?_) hspace
  · rw [advance_eq_self rfl rfl]
    exact dropStaleKeys?_of_isStale rfl hkey
  · apply closeBlocks_eq_self
    simp [lineStart, column]
  · have htoken : (lineStart false none done ⟨pos, '-' :: ' ' :: rest⟩).token? '-' (' ' :: rest)
        = blockEntry? (lineStart false none done ⟨pos, '-' :: ' ' :: rest⟩) := by
      simp [token?, isDocumentMark, endsWord, isBlank]
    rw [htoken]
    simp [openBlockHere?, blockEntry?, lineStart, inFlow, openBlock, column, hcolumn, dropKey?,
      key?, setKey, allowKey, take, goTo, emit, Cursor.forward]

/-- A word after a hyphen is read; it might have been a key. -/
lemma reads_item (h : AllowsPlain c cs) (htail : EndsValue tail) (hcolumn : 0 < pos.column) :
    Reads 1 (lineStart false none done ⟨pos, c :: cs ++ '\n' :: tail⟩)
      (lineStart false (some ⟨done.length, pos, false⟩)
        (.scalar ⟨String.ofList (c :: cs), .plain⟩ :: done)
        ⟨(pos.forward (cs.length + 1)).newline, tail⟩) := by
  have htoken := token?_plain (l := lineStart false none done ⟨pos, c :: cs ++ '\n' :: tail⟩) h rfl
    ('\n' :: tail) fun hzero => absurd hzero (Nat.ne_of_gt hcolumn)
  have hinside : (0 : Int) ≠ pos.column := by omega
  have hsaved : (lineStart false none done ⟨pos, c :: cs ++ '\n' :: tail⟩).saveKey?
      = some (lineStart false (some ⟨done.length, pos, false⟩) done
        ⟨pos, c :: cs ++ '\n' :: tail⟩) := by
    simp [saveKey?, lineStart, inFlow, column, hinside, dropKey?, key?, setKey]
  refine reads_of_token? (lineStart false none done ⟨pos, c :: cs ++ '\n' :: tail⟩) c
    (cs ++ '\n' :: tail) ?_ ?_ rfl (htoken.trans ?_)
  · rw [advance_eq_self rfl (startsToken_of_allowsPlain h)]
    exact dropStaleKeys?_of_isStale rfl (isStale_none pos)
  · apply closeBlocks_eq_self
    simp [lineStart, column]
  · exact plain?_eq hsaved (plainScalar?_line h hcolumn htail)

/-- A list of words is read, two rounds for each. -/
lemma reads_items (done : List Token) {words : List (List Char)}
    (hwords : ∀ word ∈ words, IsWord word) (htail : EndsValue tail) (hcolumn : pos.column = 0)
    (hkey : IsStale key pos) :
    ∃ key' after, after.column = 0 ∧ IsStale key' after ∧
      Reads (2 * words.length) (lineStart false key done ⟨pos, itemLines words ++ tail⟩)
        (lineStart false key' ((itemTokens words).reverse ++ done) ⟨after, tail⟩) := by
  induction words generalizing pos key done with
  | nil => exact ⟨key, pos, hcolumn, hkey, fun _ => rfl⟩
  | cons word words ih =>
    have hword := hwords word List.mem_cons_self
    obtain ⟨c, cs, rfl⟩ := List.exists_cons_of_ne_nil hword.ne_nil
    have hnext : EndsValue (itemLines words ++ tail) := by
      cases words with
      | nil => exact htail
      | cons _ _ => rfl
    have hinside : 0 < (pos.forward 2).column := Nat.lt_add_left _ Nat.two_pos
    have hhyphen : Reads 1
        (lineStart false key done
          ⟨pos, '-' :: ' ' :: (c :: cs ++ '\n' :: (itemLines words ++ tail))⟩)
        (lineStart false none (.blockEntry :: done)
          ⟨pos.forward 2, c :: cs ++ '\n' :: (itemLines words ++ tail)⟩) :=
      reads_hyphen hcolumn hkey
    have hline := hhyphen.trans (reads_item hword.allowsPlain hnext hinside)
    have hstale : IsStale (some ⟨done.length + 1, pos.forward 2, false⟩)
        ((pos.forward 2).forward (cs.length + 1)).newline := by
      intro k hk
      cases hk
      exact ⟨rfl, Nat.lt_succ_self _⟩
    obtain ⟨key', after, hafter, hkey', hread⟩ :=
      ih (.scalar ⟨String.ofList (c :: cs), .plain⟩ :: .blockEntry :: done)
        (fun word hmem => hwords word (List.mem_cons_of_mem _ hmem)) (Position.column_newline _)
        hstale
    refine ⟨key', after, hafter, hkey', ?_⟩
    have hlines : itemLines ((c :: cs) :: words) ++ tail
        = '-' :: ' ' :: (c :: cs ++ '\n' :: (itemLines words ++ tail)) := by
      simp [itemLines]
    have htokens : (itemTokens ((c :: cs) :: words)).reverse ++ done = (itemTokens words).reverse
        ++ (.scalar ⟨String.ofList (c :: cs), .plain⟩ :: .blockEntry :: done) := by
      simp [itemTokens]
    have hcount : 2 * ((c :: cs) :: words).length = 1 + 1 + 2 * words.length := by
      rw [List.length_cons]
      omega
    rw [hlines, htokens, hcount]
    exact hline.trans hread

end Lexer

/-! ## Sections -/

/-- A key of a mapping with its value: the characters after the colon, up to the end of the last
line, the tokens that they are read as, and what the tokens mean. -/
structure Section where
  key : String
  text : List Char
  value : List Token
  content : Node

namespace Section

/-- The lines of a section. -/
def lines (s : Section) : List Char := s.key.toList ++ ':' :: s.text

/-- The tokens of a section. -/
def tokens (s : Section) : List Token := .key :: .scalar ⟨s.key, .plain⟩ :: .value :: s.value

/-- A section that is read as its tokens, wherever it stands. -/
structure IsRead (s : Section) : Prop where
  isWord : IsWord s.key.toList
  length_le : s.key.toList.length ≤ Lexer.maxKeyLength
  all_isPrintable : s.text.all Written.isPrintable = true
  endsWord_append : ∀ tail, endsWord (s.text ++ tail) = true
  reads : ∀ {pos tail} (done), EndsValue tail → 0 < pos.column → ∃ rounds key after,
    rounds ≤ s.text.length ∧ after.column = 0 ∧ Lexer.IsStale key after
    ∧ Lexer.Reads rounds (Lexer.atValue done ⟨pos, s.text ++ tail⟩)
      (Lexer.lineStart false key (s.value.reverse ++ done) ⟨after, tail⟩)

/-- A section whose value is a text. -/
def ofText (key text : String) : Section :=
  ⟨key, ' ' :: Lexer.valueText text, [.scalar ⟨text, style text⟩], .scalar none ⟨text, style text⟩⟩

/-- A section whose value is one word. -/
def ofWord (key word : String) : Section :=
  ⟨key, ' ' :: word.toList ++ ['\n'], [.scalar ⟨word, .plain⟩], .scalar none ⟨word, .plain⟩⟩

/-- A section whose value is a list of words. -/
def ofWords (key : String) (words : List (List Char)) : Section :=
  ⟨key, '\n' :: Lexer.itemLines words, Lexer.itemTokens words,
    .sequence (words.map fun word => .scalar none ⟨String.ofList word, .plain⟩)⟩

variable {name : String} (hname : IsWord name.toList)
  (hlength : name.toList.length ≤ Lexer.maxKeyLength)

include hname hlength in
lemma isRead_ofText (text : String) : (ofText name text).IsRead where
  isWord := hname
  length_le := hlength
  all_isPrintable := by
    rw [ofText, List.all_cons, Lexer.all_isPrintable_valueText]
    rfl
  endsWord_append _ := rfl
  reads {pos tail} done htail hcolumn := by
    have hinside : 0 < (pos.forward 1).column := Nat.add_one_pos _
    obtain ⟨after, hafter, hread⟩ := Lexer.reads_valueText done text htail hinside
    refine ⟨0 + 1, none, after, ?_, hafter, Lexer.isStale_none after, Lexer.reads_space.trans hread⟩
    exact Nat.succ_le_succ (Nat.zero_le _)

include hname hlength in
lemma isRead_ofWord {word : String} (hword : IsWord word.toList) : (ofWord name word).IsRead where
  isWord := hname
  length_le := hlength
  all_isPrintable := by
    rw [ofWord, List.all_append, List.all_cons, hword.all_isPrintable]
    rfl
  endsWord_append _ := rfl
  reads {pos tail} done htail hcolumn := by
    obtain ⟨c, cs, hcs⟩ := List.exists_cons_of_ne_nil hword.ne_nil
    rw [hcs] at hword
    have hinside : 0 < (pos.forward 1).column := Nat.add_one_pos _
    have hread := Lexer.reads_plainValue done hword.allowsPlain htail hinside
    rw [← hcs, String.ofList_toList] at hread
    have htext : (ofWord name word).text ++ tail = ' ' :: (word.toList ++ '\n' :: tail) := by
      simp [ofWord]
    refine ⟨0 + 1, none, ((pos.forward 1).forward (cs.length + 1)).newline, ?_, rfl,
      Lexer.isStale_none _, ?_⟩
    · exact Nat.succ_le_succ (Nat.zero_le _)
    · rw [htext]
      exact Lexer.reads_space.trans hread

lemma length_itemLines (words : List (List Char)) :
    2 * words.length ≤ (Lexer.itemLines words).length := by
  induction words with
  | nil => exact Nat.le.refl
  | cons word words ih =>
    rw [Lexer.itemLines, List.flatMap_cons, ← Lexer.itemLines]
    simp only [List.length_append, List.length_cons]
    omega

include hname hlength in
lemma isRead_ofWords {words : List (List Char)} (hwords : ∀ word ∈ words, IsWord word) :
    (ofWords name words).IsRead where
  isWord := hname
  length_le := hlength
  all_isPrintable := by
    have hlines : (Lexer.itemLines words).all isPrintable = true := by
      rw [Lexer.itemLines, List.all_flatMap, List.all_eq_true]
      intro word hword
      rw [List.all_append, List.all_cons, List.all_cons, (hwords word hword).all_isPrintable]
      rfl
    rw [ofWords, List.all_cons, hlines]
    rfl
  endsWord_append _ := rfl
  reads {pos tail} done htail hcolumn := by
    obtain ⟨key, after, hafter, hkey, hread⟩ := Lexer.reads_items done hwords htail
      pos.column_newline (Lexer.isStale_none _)
    refine ⟨0 + 2 * words.length, key, after, ?_, hafter, hkey, Lexer.reads_newline.trans hread⟩
    have hlength := length_itemLines words
    rw [ofWords, List.length_cons]
    omega

/-! ## Whole mappings -/

open Lexer

variable {isFirst : Bool} {key : Option SimpleKey} {done : List Token} {s : Section}
  {sections : List Section}

/-- A section is read from the start of its first line to the end of its last. -/
lemma reads_section (isFirst : Bool) (done : List Token) (h : s.IsRead) (htail : EndsValue tail)
    (hcolumn : pos.column = 0) (hkey : IsStale key pos) :
    ∃ rounds key' after, rounds ≤ s.lines.length ∧ after.column = 0
      ∧ IsStale key' after ∧ Reads rounds (lineStart isFirst key done ⟨pos, s.lines ++ tail⟩)
        (lineStart false key' (s.value.reverse ++ (keyTokens isFirst s.key ++ done))
          ⟨after, tail⟩) := by
  obtain ⟨c, cs, hcs⟩ := List.exists_cons_of_ne_nil h.isWord.ne_nil
  have hword := h.isWord
  have hlength := h.length_le
  rw [hcs] at hword hlength
  have hname := reads_key isFirst done hword hlength hcolumn hkey (h.endsWord_append tail)
  rw [← hcs, String.ofList_toList] at hname
  have hinside : 0 < (pos.forward (cs.length + 2)).column := Nat.lt_add_left _ (Nat.add_one_pos _)
  obtain ⟨rounds, key', after, hrounds, hafter, hkey', hvalue⟩ :=
    h.reads (keyTokens isFirst s.key ++ done) htail hinside
  refine ⟨2 + rounds, key', after, ?_, hafter, hkey', ?_⟩
  · rw [lines, hcs, List.length_append, List.length_cons, List.length_cons]
    omega
  · rw [lines, List.append_assoc, List.cons_append]
    exact hname.trans hvalue

/-- Sections may follow a value. -/
lemma endsValue_lines (h : ∀ s ∈ sections, s.IsRead) : EndsValue (sections.flatMap lines) := by
  cases sections with
  | nil => rfl
  | cons s rest =>
    have hword := (h s List.mem_cons_self).isWord
    obtain ⟨c, cs, hcs⟩ := List.exists_cons_of_ne_nil hword.ne_nil
    rw [hcs] at hword
    have hplain := hword.allowsPlain
    have hblank : isBlank c = false := (isBlank_eq_isSpace hplain.isPrintable).trans hplain.isSpace
    rw [EndsValue, List.flatMap_cons, lines, hcs, List.cons_append, List.cons_append,
      List.head?_cons, Option.all_some, hblank, hplain.isBreak]
    rfl

/-- Sections after the first are read one after another. -/
lemma reads_sections (done : List Token) (h : ∀ s ∈ sections, s.IsRead) (hcolumn : pos.column = 0)
    (hkey : IsStale key pos) :
    ∃ rounds key' after, rounds ≤ (sections.flatMap lines).length
      ∧ after.column = 0 ∧ IsStale key' after
      ∧ Reads rounds (lineStart false key done ⟨pos, sections.flatMap lines⟩)
        (lineStart false key' ((sections.flatMap tokens).reverse ++ done) ⟨after, []⟩) := by
  induction sections generalizing key done pos with
  | nil => exact ⟨0, key, pos, Nat.le.refl, hcolumn, hkey, fun _ => rfl⟩
  | cons s sections ih =>
    have hrest : ∀ s ∈ sections, s.IsRead := fun s hs => h s (List.mem_cons_of_mem _ hs)
    obtain ⟨m, middle, place, hm, hplace, hmiddle, hfirst⟩ :=
      reads_section false done (h s List.mem_cons_self) (endsValue_lines hrest) hcolumn hkey
    obtain ⟨n, key', after, hn, hafter, hkey', hlast⟩ :=
      ih (s.value.reverse ++ (keyTokens false s.key ++ done)) hrest hplace hmiddle
    refine ⟨m + n, key', after, ?_, hafter, hkey', ?_⟩
    · rw [List.flatMap_cons, List.length_append]
      exact Nat.add_le_add hm hn
    · have htokens : ((s :: sections).flatMap tokens).reverse ++ done
          = (sections.flatMap tokens).reverse
            ++ (s.value.reverse ++ (keyTokens false s.key ++ done)) := by
        simp [tokens, keyTokens]
      rw [htokens]
      exact hfirst.trans hlast

/-- Where the text ends, the mapping does. -/
lemma run_end (fuel : Nat) (hkey : IsStale key pos) :
    run (fuel + 1) (lineStart false key done ⟨pos, []⟩)
      = some (Token.blockEnd :: done).reverse := by
  have hadvance : (lineStart false key done ⟨pos, []⟩).advance
      = lineStart false key done ⟨pos, []⟩ := rfl
  have hkeys : (lineStart false key done ⟨pos, []⟩).dropStaleKeys?
      = some (lineStart false none done ⟨pos, []⟩) := dropStaleKeys?_of_isStale rfl hkey
  have hblocks : (lineStart false none done ⟨pos, []⟩).closeBlocks
      (lineStart false none done ⟨pos, []⟩).column = lineStart false none done ⟨pos, []⟩ := by
    apply closeBlocks_eq_self
    simp [lineStart, column]
  rw [run, hadvance, hkeys]
  simp only [Option.bind_eq_bind, Option.bind_some, hblocks]
  rfl

/-- The tokens of a mapping with these sections; a text without sections has none. -/
def mappingTokens (sections : List Section) : List Token :=
  match sections with
  | [] => []
  | _ => .blockMappingStart :: sections.flatMap tokens ++ [.blockEnd]

/-- A mapping is read section by section. -/
lemma scan?_sections (h : ∀ s ∈ sections, s.IsRead) :
    Token.scan? (sections.flatMap lines) = some (mappingTokens sections) := by
  have hprintable : (sections.flatMap lines).all isPrintable = true := by
    rw [List.all_flatMap, List.all_eq_true]
    intro s hs
    rw [lines, List.all_append, List.all_cons, (h s hs).isWord.all_isPrintable,
      (h s hs).all_isPrintable]
    rfl
  rw [Token.scan?, if_pos (all_isAllowed hprintable), normalizeBreaks_eq_self hprintable]
  cases sections with
  | nil => rfl
  | cons s sections =>
    have hrest : ∀ s ∈ sections, s.IsRead := fun s hs => h s (List.mem_cons_of_mem _ hs)
    have hstart : Lexer.start ((s :: sections).flatMap lines)
        = lineStart true none [] ⟨.start, s.lines ++ sections.flatMap lines⟩ := rfl
    have hcolumn : Position.start.column = 0 := rfl
    obtain ⟨m, middle, place, hm, hplace, hmiddle, hfirst⟩ := reads_section true []
      (h s List.mem_cons_self) (endsValue_lines hrest) hcolumn (isStale_none .start)
    obtain ⟨n, key', after, hn, hafter, hkey', hlast⟩ :=
      reads_sections (s.value.reverse ++ (keyTokens true s.key ++ [])) hrest hplace hmiddle
    have hlength : ((s :: sections).flatMap lines).length + 1
        = s.lines.length + (sections.flatMap lines).length - (m + n) + 1 + (m + n) := by
      rw [List.flatMap_cons, List.length_append]
      omega
    change run (((s :: sections).flatMap lines).length + 1) (Lexer.start _) = _
    rw [hstart, hlength, hfirst.trans hlast, run_end _ hkey']
    simp [mappingTokens, tokens, keyTokens]

end Section
end GlyphGrid.Yaml
