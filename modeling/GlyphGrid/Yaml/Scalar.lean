import GlyphGrid.Yaml.Character

/-!
# Scalars in a YAML document

The five ways to write a text: plain, in single or double quotes, and as a literal or folded
block.  `plainScalar`, `quotedScalar?` and `blockScalar?` read one from a place in a document.

Lines of a plain or quoted scalar are folded: what separates two words is kept by a `Gap` until
the next word comes, and `Gap.text` is what it becomes.
-/

namespace GlyphGrid.Yaml

/-- How a scalar is written. -/
inductive ScalarStyle where
  | plain
  | singleQuoted
  | doubleQuoted
  | literal
  | folded
  deriving DecidableEq

/-- A text of a document with the way it is written. -/
structure Scalar where
  text : String
  style : ScalarStyle
  deriving DecidableEq

/-! ## Gaps between words -/

/-- What separates two words of a scalar; lists are in reverse. -/
inductive Gap where
  /-- Nothing, or blanks on one line. -/
  | blanks (blanks : List Char)
  /-- A line end, which is missing if it was escaped, and the ends of empty lines after it. -/
  | lines (first : Option Char) (later : List Char)

namespace Gap

/-- No gap. -/
def none : Gap := .blanks []

/-- The gap with one more blank. -/
def addBlank (c : Char) : Gap → Gap
  | .blanks bs => .blanks (c :: bs)
  | g => g

/-- The gap with one more line end. -/
def addBreak (c : Char) : Gap → Gap
  | .blanks _ => .lines (some c) []
  | .lines first later => .lines first (c :: later)

/-- Whether the gap has a line end. -/
def isLines : Gap → Bool
  | .blanks _ => false
  | .lines .. => true

/-- Whether there is nothing between two characters. -/
def isNone : Gap → Bool
  | .blanks bs => bs.isEmpty
  | .lines .. => false

/-- What the gap becomes, in reverse: a single line feed is a space, and otherwise the first is
dropped. -/
def text : Gap → List Char
  | .blanks bs => bs
  | .lines first later =>
    if first = some '\n' then (if later.isEmpty then [' '] else later)
    else later ++ first.toList

end Gap

/-! ## Plain scalars -/

/-- A plain scalar that has been read. -/
structure PlainScalar where
  text : String
  endsLine : Bool
  after : Cursor

/-- Characters that end a plain scalar inside brackets. -/
def isFlowIndicator (c : Char) : Bool :=
  c == ',' || c == '[' || c == ']' || c == '\x7b' || c == '\x7d'

/-- Whether a plain scalar ends before `c`, which is neither a blank nor a line end: where a line
is not indented enough, before the mark of a document or a comment, before a colon that ends a
word, and before an indicator inside brackets. -/
def endsPlain (inFlow : Bool) (indent : Nat) (gap : Gap) (pos : Position) (c : Char)
    (rest : List Char) : Bool :=
  (!gap.isNone && !inFlow && pos.column < indent)
    || (pos.column == 0 && isDocumentMark (c :: rest))
    || (!gap.isNone && c == '#')
    || (c == ':' && endsWord rest)
    || (inFlow && isFlowIndicator c)

/-- Whether a colon inside brackets is refused because of the character after it. -/
def isLooseColon (inFlow : Bool) (c : Char) (rest : List Char) : Bool :=
  inFlow && c == ':' && rest.head?.any (fun d => isFlowIndicator d || d == '?')

/-- Reads a plain scalar, `text` being what was read, in reverse, and `gap` what follows it.
`inFlow` says that it stands inside brackets, and otherwise its lines begin at least at column
`indent`. -/
def plainScalarFrom (inFlow : Bool) (indent : Nat) (text : List Char) (gap : Gap)
    (pos : Position) : List Char → Option PlainScalar
  | [] => some ⟨String.ofList text.reverse, gap.isLines, ⟨pos, []⟩⟩
  | c :: rest =>
    if isBlank c then
      if gap.isLines && pos.column < indent && c == '\t' then none
      else plainScalarFrom inFlow indent text (gap.addBlank c) (pos.forward 1) rest
    else if isBreak c then
      plainScalarFrom inFlow indent text (gap.addBreak c) pos.newline rest
    else if endsPlain inFlow indent gap pos c rest then
      some ⟨String.ofList text.reverse, gap.isLines, ⟨pos, c :: rest⟩⟩
    else if isLooseColon inFlow c rest then none
    else plainScalarFrom inFlow indent (c :: (gap.text ++ text)) .none (pos.forward 1) rest

/-- Reads a plain scalar. -/
def plainScalar? (inFlow : Bool) (indent : Nat) (c : Cursor) : Option PlainScalar :=
  plainScalarFrom inFlow indent [] .none c.pos c.rest

/-! ## Quoted scalars -/

/-- The value of a hexadecimal digit. -/
def hexDigit? (c : Char) : Option Nat :=
  if c.isDigit then some (c.toNat - '0'.toNat)
  else if 'a' ≤ c ∧ c ≤ 'f' then some (c.toNat - 'a'.toNat + 10)
  else if 'A' ≤ c ∧ c ≤ 'F' then some (c.toNat - 'A'.toNat + 10)
  else none

/-- The number with the given hexadecimal digits. -/
def hexNumber? (digits : List Char) : Option Nat :=
  digits.foldl (fun n c => n.bind fun n => (hexDigit? c).map fun d => n * 16 + d) (some 0)

/-- The character with the given hexadecimal number. -/
def hexChar? (digits : List Char) : Option Char :=
  (hexNumber? digits).bind Text.charOf?

/-- The character of an escape of one letter. -/
def simpleEscape? (c : Char) : Option Char :=
  match c with
  | '0' => some '\x00'
  | 'a' => some '\x07'
  | 'b' => some '\x08'
  | 't' | '\t' => some '\t'
  | 'n' => some '\n'
  | 'v' => some '\x0B'
  | 'f' => some '\x0C'
  | 'r' => some '\r'
  | 'e' => some '\x1B'
  | ' ' => some ' '
  | '"' => some '"'
  | '/' => some '/'
  | '\\' => some '\\'
  | 'N' => some '\u0085'
  | '_' => some '\u00A0'
  | 'L' => some '\u2028'
  | 'P' => some '\u2029'
  | _ => none

/-- The number of hexadecimal digits that an escape is followed by. -/
def escapeDigits : Char → Nat
  | 'x' => 2
  | 'u' => 4
  | 'U' => 8
  | _ => 0

/-- What a backslash and the characters after it stand for: a character and the number of
characters after the backslash that it takes. -/
def escape? : List Char → Option (Char × Nat)
  | [] => none
  | c :: rest =>
    match escapeDigits c with
    | 0 => (simpleEscape? c).map (·, 1)
    | n =>
      if rest.length < n then none
      else (hexChar? (rest.take n)).map (·, n + 1)

/-- Reads a quoted scalar up to its closing quote, `text` being what was read, in reverse, and
`gap` what follows it.  The next `skipped` characters belong to what was read. -/
def quotedScalarFrom (isSingle : Bool) (text : List Char) (gap : Gap) (skipped : Nat)
    (pos : Position) : List Char → Option (String × Cursor)
  | [] => none
  | c :: rest =>
    if 0 < skipped then
      quotedScalarFrom isSingle text gap (skipped - 1) (pos.forward 1) rest
    else if isBlank c then
      quotedScalarFrom isSingle text (gap.addBlank c) 0 (pos.forward 1) rest
    else if isBreak c then
      quotedScalarFrom isSingle text (gap.addBreak c) 0 pos.newline rest
    else if pos.column == 0 && isDocumentMark (c :: rest) then none
    else
      let text := gap.text ++ text
      if c == '\'' && isSingle then
        if rest.head? = some '\'' then
          quotedScalarFrom isSingle ('\'' :: text) .none 1 (pos.forward 1) rest
        else some (String.ofList text.reverse, ⟨pos.forward 1, rest⟩)
      else if c == '"' && !isSingle then
        some (String.ofList text.reverse, ⟨pos.forward 1, rest⟩)
      else if c == '\\' && !isSingle then
        match rest with
        | [] => none
        | d :: rest' =>
          if isBreak d then
            quotedScalarFrom isSingle text (.lines none []) 0 (pos.forward 1).newline rest'
          else match escape? (d :: rest') with
            | none => none
            | some (e, length) =>
              quotedScalarFrom isSingle (e :: text) .none length (pos.forward 1) (d :: rest')
      else quotedScalarFrom isSingle (c :: text) .none 0 (pos.forward 1) rest

/-- Reads a quoted scalar from its opening quote on. -/
def quotedScalar? (isSingle : Bool) (c : Cursor) : Option (String × Cursor) :=
  let c := c.forward 1
  quotedScalarFrom isSingle [] .none 0 c.pos c.rest

/-! ## Block scalars -/

/-- What happens to the line ends at the end of a block. -/
inductive Chomping where
  | strip
  | clip
  | keep
  deriving DecidableEq

/-- The first line of a block. -/
structure BlockHeader where
  chomping : Chomping
  /-- The indentation, if it is given. -/
  increment? : Option Nat

/-- The chomping that a character asks for. -/
def chomping? : Char → Option Chomping
  | '+' => some .keep
  | '-' => some .strip
  | _ => none

/-- The indentation that a character asks for; zero is refused. -/
def increment? (c : Char) : Option Nat :=
  if c.isDigit && c != '0' then some (c.toNat - '0'.toNat) else none

/-- Reads the indicators after the first character of a block, and how many there are. -/
def blockHeader? : List Char → Option (BlockHeader × Nat)
  | [] => some (⟨.clip, none⟩, 0)
  | c :: rest =>
    match chomping? c with
    | some chomping =>
      match rest with
      | d :: _ =>
        if d.isDigit then (increment? d).map fun n => (⟨chomping, some n⟩, 2)
        else some (⟨chomping, none⟩, 1)
      | [] => some (⟨chomping, none⟩, 1)
    | none =>
      if c.isDigit then
        (increment? c).map fun n =>
          match rest.head?.bind chomping? with
          | some chomping => (⟨chomping, some n⟩, 2)
          | none => (⟨.clip, some n⟩, 1)
      else some (⟨.clip, none⟩, 0)

/-- The empty lines before a line of a block. -/
structure BlockGap where
  /-- The ends of the empty lines, in reverse. -/
  breaks : List Char
  reach : Nat
  after : Cursor

/-- Skips the indentation of the next line of a block, and the empty lines before it.  Without an
indentation, every space belongs to it.  A tab in the indentation is refused. -/
def blockGapFrom (indent? : Option Nat) (breaks : List Char) (reach : Nat) (pos : Position) :
    List Char → Option BlockGap
  | [] => some ⟨breaks, max reach pos.column, ⟨pos, []⟩⟩
  | c :: rest =>
    let isInside := indent?.all fun indent => pos.column < indent
    if isInside && c == ' ' then
      blockGapFrom indent? breaks reach (pos.forward 1) rest
    else if isInside && c == '\t' then none
    else if isBreak c then
      blockGapFrom indent? (c :: breaks) (max reach pos.column) pos.newline rest
    else some ⟨breaks, max reach pos.column, ⟨pos, c :: rest⟩⟩

/-- What was read of a block. -/
structure BlockText where
  /-- The text, in reverse. -/
  text : List Char
  /-- The end of the last line, if it is still open. -/
  lineEnd : List Char
  ledByBlank : Bool

/-- What joins two lines of a block: `breaks` are the ends of the empty lines between them. -/
def BlockText.join (t : BlockText) (isLiteral : Bool) (breaks : List Char)
    (nextIsBlank : Bool) : List Char :=
  if !isLiteral && t.lineEnd.head? = some '\n' && !t.ledByBlank && !nextIsBlank then
    (if breaks.isEmpty then ' ' :: t.text else breaks ++ t.text)
  else breaks ++ t.lineEnd ++ t.text

/-- The end of a block. -/
def BlockText.finish (t : BlockText) (chomping : Chomping) (breaks : List Char) : String :=
  let text := match chomping with
    | .strip => t.text
    | .clip => t.lineEnd ++ t.text
    | .keep => breaks ++ t.lineEnd ++ t.text
  String.ofList text.reverse

/-- Reads the lines of a block whose indentation is `indent`; `fuel` bounds their number. -/
def blockLines (isLiteral : Bool) (chomping : Chomping) (indent : Nat) :
    Nat → BlockText → BlockGap → Option (String × Cursor)
  | 0, _, _ => none
  | fuel + 1, t, gap =>
    let c := gap.after
    match c.rest with
    | [] => some (t.finish chomping gap.breaks, c)
    | first :: _ =>
      if c.pos.column != indent then some (t.finish chomping gap.breaks, c)
      else
        let joined := t.join isLiteral gap.breaks (isBlank first)
        let (line, c) := c.takeWhile (!isBreak ·)
        let text := line.reverse ++ joined
        let (lineEnd, c) : List Char × Cursor := match c.rest with
          | [] => ([], c)
          | b :: rest => ([b], ⟨c.pos.newline, rest⟩)
        (blockGapFrom (some indent) [] 0 c.pos c.rest).bind
          (blockLines isLiteral chomping indent fuel ⟨text, lineEnd, isBlank first⟩)

/-- Reads a block from its first character on; `parent` is the indentation around it, if there is
one. -/
def blockScalar? (isLiteral : Bool) (parent? : Option Nat) (c : Cursor) :
    Option (String × Cursor) := do
  let c := c.forward 1
  let (header, count) ← blockHeader? c.rest
  let c ← (c.forward count).endLine?
  let given? := header.increment?.map (parent?.getD 0 + ·)
  let gap ← blockGapFrom given? [] 0 c.pos c.rest
  let indent := given?.getD (max gap.reach (max 1 (parent?.elim 0 (· + 1))))
  blockLines isLiteral header.chomping indent (c.rest.length + 1) ⟨[], [], false⟩ gap

end GlyphGrid.Yaml
