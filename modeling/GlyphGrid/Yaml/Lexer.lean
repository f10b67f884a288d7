import GlyphGrid.Yaml.Token

/-!
# From characters to tokens

`Token.scan?` cuts a document into tokens.  Indentation becomes tokens too: a block begins where a
line is indented further, and ends where one is indented less.

A key of a mapping is known only when its colon comes.  Until then the place where it began is
kept as a `SimpleKey`, one for each level of brackets, and the colon puts the tokens that announce
the key in front of it.
-/

namespace GlyphGrid.Yaml

/-- A place where a key may have begun. -/
structure SimpleKey where
  tokenCount : Nat
  pos : Position
  isRequired : Bool

/-- A document that is read up to some place. -/
structure Lexer where
  cursor : Cursor
  /-- The column of the innermost block, or -1 outside any block. -/
  indent : Int
  indents : List Int
  /-- The key that may have begun outside all brackets. -/
  blockKey : Option SimpleKey
  /-- The keys that may have begun inside brackets, the innermost first. -/
  flowKeys : List (Option SimpleKey)
  keyAllowed : Bool
  /-- The tokens read so far, in reverse. -/
  done : List Token
  count : Nat

namespace Lexer

/-- A document of which nothing is read. -/
def start (text : List Char) : Lexer := ⟨⟨.start, text⟩, -1, [], none, [], true, [], 0⟩

/-- Whether the place is inside brackets. -/
def inFlow (l : Lexer) : Bool := !l.flowKeys.isEmpty

/-- The column of the next character. -/
def column (l : Lexer) : Nat := l.cursor.pos.column

/-- The key that may have begun at this level. -/
def key? (l : Lexer) : Option SimpleKey :=
  match l.flowKeys with
  | [] => l.blockKey
  | k :: _ => k

/-- Replaces the key that may have begun at this level. -/
def setKey (l : Lexer) (key : Option SimpleKey) : Lexer :=
  match l.flowKeys with
  | [] => { l with blockKey := key }
  | _ :: outer => { l with flowKeys := key :: outer }

/-- Adds a token. -/
def emit (l : Lexer) (t : Token) : Lexer := { l with done := t :: l.done, count := l.count + 1 }

/-- Puts a token in front of the tokens after the first `place`. -/
def emitAt (l : Lexer) (place : Nat) (t : Token) : Lexer :=
  let later := l.count - place
  { l with done := l.done.take later ++ t :: l.done.drop later, count := l.count + 1 }

/-- Goes on at another place. -/
def goTo (l : Lexer) (c : Cursor) : Lexer := { l with cursor := c }

/-- Allows or forbids that a key begins here. -/
def allowKey (l : Lexer) (isAllowed : Bool) : Lexer := { l with keyAllowed := isAllowed }

/-! ## Keys -/

/-- The greatest number of characters between the start of a key and its colon. -/
def maxKeyLength : Nat := 1024

/-- Whether a key that began at `k` can still find its colon. -/
def isFresh (l : Lexer) (k : SimpleKey) : Bool :=
  l.cursor.pos.line ≤ k.pos.line && l.cursor.pos.index ≤ k.pos.index + maxKeyLength

/-- The key that may have begun, if it can still find its colon; `none` if it had to. -/
def refresh? (l : Lexer) : Option SimpleKey → Option (Option SimpleKey)
  | none => some none
  | some k => if l.isFresh k then some (some k) else if k.isRequired then none else some none

/-- Forgets the keys that cannot find their colon any more. -/
def dropStaleKeys? (l : Lexer) : Option Lexer := do
  let blockKey ← l.refresh? l.blockKey
  let flowKeys ← l.flowKeys.mapM l.refresh?
  some { l with blockKey := blockKey, flowKeys := flowKeys }

/-- Forgets the key of this level, which must not be one that had to be there. -/
def dropKey? (l : Lexer) : Option Lexer :=
  if l.key?.any (·.isRequired) then none else some (l.setKey none)

/-- Remembers that a key may begin here. -/
def saveKey? (l : Lexer) : Option Lexer :=
  if l.keyAllowed then
    let isRequired := !l.inFlow && l.indent == (l.column : Int)
    l.dropKey?.map fun l => l.setKey (some ⟨l.count, l.cursor.pos, isRequired⟩)
  else some l

/-! ## Blocks -/

/-- Begins a block at a column, if it is further in than the one around it; its token goes in
front of the tokens after the first `place`. -/
def openBlock (l : Lexer) (column place : Nat) (t : Token) : Lexer :=
  if l.inFlow || (column : Int) ≤ l.indent then l
  else ({ l with indents := l.indent :: l.indents, indent := column } : Lexer).emitAt place t

/-- Ends the blocks that are further in than a column. -/
def closeBlocksFrom (column indent : Int) : List Int → Int × List Int × List Token
  | [] => if indent ≤ column then (indent, [], []) else (-1, [], [.blockEnd])
  | outer :: rest =>
    if indent ≤ column then (indent, outer :: rest, [])
    else
      let (indent, indents, ends) := closeBlocksFrom column outer rest
      (indent, indents, .blockEnd :: ends)

/-- Ends the blocks that are further in than a column, outside brackets. -/
def closeBlocks (l : Lexer) (column : Int) : Lexer :=
  if l.inFlow then l
  else
    let (indent, indents, ends) := closeBlocksFrom column l.indent l.indents
    ends.foldl emit { l with indent := indent, indents := indents }

/-! ## Between tokens -/

/-- The place of the next token, and whether a key may begin there.  A line end outside brackets
allows keys, tabs separate words only where no key may begin, and a byte order mark may stand before
anything else on a line. -/
def skipToToken (inFlow keyAllowed inComment : Bool) (pos : Position) :
    List Char → Bool × Cursor
  | [] => (keyAllowed, ⟨pos, []⟩)
  | c :: rest =>
    if isBreak c then skipToToken inFlow (keyAllowed || !inFlow) false pos.newline rest
    else if inComment || c == ' ' || (c == '\t' && (inFlow || !keyAllowed))
        || (c == byteOrderMark && pos.column == 0) then
      skipToToken inFlow keyAllowed inComment (pos.forward 1) rest
    else if c == '#' then skipToToken inFlow keyAllowed true (pos.forward 1) rest
    else (keyAllowed, ⟨pos, c :: rest⟩)

/-- Goes on to the next token. -/
def advance (l : Lexer) : Lexer :=
  let (keyAllowed, cursor) := skipToToken l.inFlow l.keyAllowed false l.cursor.pos l.cursor.rest
  (l.goTo cursor).allowKey keyAllowed

/-! ## Tokens -/

/-- Reads an indicator of some characters. -/
def take (l : Lexer) (count : Nat) (t : Token) : Lexer :=
  (l.goTo (l.cursor.forward count)).emit t

/-- Leaves all blocks before a document mark or a directive. -/
def leaveBlocks? (l : Lexer) : Option Lexer :=
  (l.closeBlocks (-1)).dropKey?.map (·.allowKey false)

/-- Reads an opening bracket. -/
def openFlow? (l : Lexer) (t : Token) : Option Lexer :=
  l.saveKey?.map fun l =>
    ({ l with flowKeys := none :: l.flowKeys, keyAllowed := true }).take 1 t

/-- Reads a closing bracket. -/
def closeFlow? (l : Lexer) (t : Token) : Option Lexer :=
  l.dropKey?.map fun l => ({ l with flowKeys := l.flowKeys.drop 1, keyAllowed := false }).take 1 t

/-- Reads a comma. -/
def flowEntry? (l : Lexer) : Option Lexer :=
  l.dropKey?.map fun l => (l.allowKey true).take 1 .flowEntry

/-- Begins a block for an indicator, which must stand where a key may begin. -/
def openBlockHere? (l : Lexer) (t : Token) : Option Lexer :=
  if l.inFlow then some l
  else if l.keyAllowed then some (l.openBlock l.column l.count t)
  else none

/-- Reads the hyphen of an entry. -/
def blockEntry? (l : Lexer) : Option Lexer := do
  let l ← l.openBlockHere? .blockSequenceStart
  let l ← l.dropKey?
  some ((l.allowKey true).take 1 .blockEntry)

/-- Reads the question mark of a key. -/
def explicitKey? (l : Lexer) : Option Lexer := do
  let l ← l.openBlockHere? .blockMappingStart
  let l ← l.dropKey?
  some ((l.allowKey !l.inFlow).take 1 .key)

/-- Announces the key that began at `k`. -/
def announceKey (l : Lexer) (k : SimpleKey) : Lexer :=
  (l.emitAt k.tokenCount .key).openBlock k.pos.column k.tokenCount .blockMappingStart

/-- Reads the colon of a value. -/
def value? (l : Lexer) : Option Lexer :=
  match l.key? with
  | some k => some ((((l.announceKey k).setKey none).allowKey false).take 1 .value)
  | none => (l.openBlockHere? .blockMappingStart).map fun l =>
    (l.allowKey !l.inFlow).take 1 .value

/-- Reads a word that a key may begin with. -/
def word? (l : Lexer) (read : Cursor → Option (Token × Cursor)) : Option Lexer := do
  let l ← l.saveKey?
  let (t, c) ← read l.cursor
  some (((l.allowKey false).goTo c).emit t)

/-- Reads a plain scalar. -/
def plain? (l : Lexer) : Option Lexer := do
  let l ← l.saveKey?
  let s ← plainScalar? l.inFlow (l.indent + 1).toNat l.cursor
  some (((l.allowKey s.endsLine).goTo s.after).emit (.scalar ⟨s.text, .plain⟩))

/-- Reads a quoted scalar. -/
def quoted? (l : Lexer) (isSingle : Bool) : Option Lexer :=
  l.word? fun c => (quotedScalar? isSingle c).map fun (text, c) =>
    (.scalar ⟨text, if isSingle then .singleQuoted else .doubleQuoted⟩, c)

/-- Reads a block scalar. -/
def block? (l : Lexer) (isLiteral : Bool) : Option Lexer := do
  let l ← l.dropKey?
  let parent? := if l.indent < 0 then none else some l.indent.toNat
  let (text, c) ← blockScalar? isLiteral parent? l.cursor
  some (((l.allowKey true).goTo c).emit
    (.scalar ⟨text, if isLiteral then .literal else .folded⟩))

/-- Characters that no plain scalar begins with. -/
def isIndicator (c : Char) : Bool :=
  isFlowIndicator c || c == '-' || c == '?' || c == ':' || c == '#' || c == '&' || c == '*'
    || c == '!' || c == '|' || c == '>' || c == '\'' || c == '"' || c == '%' || c == '@' || c == '`'

/-- Whether a plain scalar begins with `c` before `rest`. -/
def beginsPlain (inFlow : Bool) (c : Char) (rest : List Char) : Bool :=
  !isIndicator c && !isBlank c
    || (c == '-' && !(rest.head?.any isBlank))
    || (!inFlow && (c == '?' || c == ':') && !endsWord rest)

/-- Reads the token that begins with `c` before `rest`. -/
def token? (l : Lexer) (c : Char) (rest : List Char) : Option Lexer :=
  if l.column == 0 && c == '%' then do
    let l ← l.leaveBlocks?
    let (t, cursor) ← directive? l.cursor
    some ((l.goTo cursor).emit t)
  else if l.column == 0 && isDocumentMark (c :: rest) then
    l.leaveBlocks?.map (·.take 3 (if c == '-' then .documentStart else .documentEnd))
  else if c == '[' then l.openFlow? .flowSequenceStart
  else if c == '\x7b' then l.openFlow? .flowMappingStart
  else if c == ']' then l.closeFlow? .flowSequenceEnd
  else if c == '\x7d' then l.closeFlow? .flowMappingEnd
  else if c == ',' then l.flowEntry?
  else if c == '-' && endsWord rest then l.blockEntry?
  else if c == '?' && (l.inFlow || endsWord rest) then l.explicitKey?
  else if c == ':' && (l.inFlow || endsWord rest) then l.value?
  else if c == '*' then
    l.word? fun c => (anchorName? c).map fun (name, c) => (.alias name, c)
  else if c == '&' then
    l.word? fun c => (anchorName? c).map fun (name, c) => (.anchor name, c)
  else if c == '!' then l.word? (tag? l.inFlow)
  else if c == '|' && !l.inFlow then l.block? true
  else if c == '>' && !l.inFlow then l.block? false
  else if c == '\'' then l.quoted? true
  else if c == '"' then l.quoted? false
  else if beginsPlain l.inFlow c rest then l.plain?
  else none

/-- Reads the tokens that are left; every round reads one at least, and `fuel` bounds the rounds. -/
def run : Nat → Lexer → Option (List Token)
  | 0, _ => none
  | fuel + 1, l => do
    let l ← l.advance.dropStaleKeys?
    let l := l.closeBlocks l.column
    match l.cursor.rest with
    | [] => (l.closeBlocks (-1)).dropKey?.map (·.done.reverse)
    | c :: rest =>
      let l ← l.token? c rest
      run fuel l

end Lexer

/-- The tokens of a document. -/
def Token.scan? (text : List Char) : Option (List Token) :=
  if text.all isAllowed then
    let text := normalizeBreaks text
    (Lexer.start text).run (text.length + 1)
  else none

end GlyphGrid.Yaml
