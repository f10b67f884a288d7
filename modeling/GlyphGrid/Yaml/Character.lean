import GlyphGrid.Text.CodePoint

/-!
# Characters of a YAML document

Which characters a document may hold, which of them end a line or separate words, and
`normalizeBreaks`, which writes every line end that is not a separator of its own as a line feed.
-/

namespace GlyphGrid.Yaml

/-- The mark of the byte order, which may stand at the start of a line. -/
def byteOrderMark : Char := '\uFEFF'

/-- Line ends, once they are normalized. -/
def isBreak (c : Char) : Bool :=
  c == '\n' || c == '\r' || c == '\u0085' || c == '\u2028' || c == '\u2029'

/-- Characters that separate words on a line. -/
def isBlank (c : Char) : Bool := c == ' ' || c == '\t'

/-- Whether a word ends here. -/
def endsWord : List Char → Bool
  | [] => true
  | c :: _ => isBlank c || isBreak c

/-- Whether a line ends here. -/
def endsLine : List Char → Bool
  | [] => true
  | c :: _ => isBreak c

/-- Characters that a document may hold. -/
def isAllowed (c : Char) : Bool :=
  let n := c.toNat
  n == 0x09 || n == 0x0A || n == 0x0D || (0x20 ≤ n && n ≤ 0x7E) || n == 0x85
    || (0xA0 ≤ n && n ≤ 0xD7FF) || (0xE000 ≤ n && n ≤ 0xFFFD) || 0x10000 ≤ n

/-- The characters with each line end written as one line feed; the separators U+2028 and U+2029
stay. -/
def normalizeBreaks : List Char → List Char
  | [] => []
  | '\r' :: '\n' :: rest => '\n' :: normalizeBreaks rest
  | c :: rest => (if c == '\r' || c == '\u0085' then '\n' else c) :: normalizeBreaks rest

/-- Characters of names: letters, digits, the underscore and the hyphen. -/
def isNameChar (c : Char) : Bool := c.isAlphanum || c == '_' || c == '-'

/-- Whether a line that marks the limit of a document stands here. -/
def isDocumentMark : List Char → Bool
  | '-' :: '-' :: '-' :: rest => endsWord rest
  | '.' :: '.' :: '.' :: rest => endsWord rest
  | _ => false

/-! ## Positions -/

/-- A place in a document. -/
structure Position where
  index : Nat
  line : Nat
  /-- The number of characters before it on its line. -/
  column : Nat
  deriving DecidableEq

namespace Position

/-- The start of a document. -/
def start : Position := ⟨0, 0, 0⟩

/-- The place after `count` characters of a line. -/
def forward (p : Position) (count : Nat) : Position := ⟨p.index + count, p.line, p.column + count⟩

/-- The place after a line end. -/
def newline (p : Position) : Position := ⟨p.index + 1, p.line + 1, 0⟩

end Position

/-- The characters that are left, and where they begin. -/
structure Cursor where
  pos : Position
  rest : List Char

/-- The cursor after some characters of a line. -/
def Cursor.forward (c : Cursor) (count : Nat) : Cursor :=
  ⟨c.pos.forward count, c.rest.drop count⟩

/-- The characters from the cursor on that satisfy `p`, and the cursor after them. -/
def Cursor.takeWhile (c : Cursor) (p : Char → Bool) : List Char × Cursor :=
  let taken := c.rest.takeWhile p
  (taken, c.forward taken.length)

/-- The cursor after the characters that satisfy `p`. -/
def Cursor.skip (c : Cursor) (p : Char → Bool) : Cursor := (c.takeWhile p).2

/-- The cursor after the blanks and the comment that may end a line, and after its end; anything
else before the end is refused. -/
def Cursor.endLine? (c : Cursor) : Option Cursor :=
  let c := c.skip isBlank
  let c := if c.rest.head? = some '#' then c.skip (!isBreak ·) else c
  match c.rest with
  | [] => some c
  | b :: rest => if isBreak b then some ⟨c.pos.newline, rest⟩ else none

end GlyphGrid.Yaml
