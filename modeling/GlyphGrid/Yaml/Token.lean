import GlyphGrid.Text.Utf8
import GlyphGrid.Yaml.Scalar

/-!
# Words of a YAML document

The tokens that a document is made of, and the reading of those that are one word: directives,
anchors and tags.  A tag is kept as a handle and a rest; the handle is looked up later, since a
directive may give it a meaning.
-/

namespace GlyphGrid.Yaml

/-- A word of a document, or a place where a block begins or ends. -/
inductive Token where
  | versionDirective (major minor : Nat)
  | tagDirective (handle base : String)
  | documentStart
  | documentEnd
  | blockSequenceStart
  | blockMappingStart
  | blockEnd
  | flowSequenceStart
  | flowSequenceEnd
  | flowMappingStart
  | flowMappingEnd
  | blockEntry
  | flowEntry
  | key
  | value
  | alias (name : String)
  | anchor (name : String)
  | tag (handle rest : String)
  | scalar (scalar : Scalar)
  deriving DecidableEq

/-! ## Anchors -/

/-- Characters that may follow an anchor. -/
def endsAnchor : List Char → Bool
  | [] => true
  | c :: rest => endsWord (c :: rest)
    || c == '?' || c == ':' || c == ',' || c == ']' || c == '\x7d' || c == '%' || c == '@'
    || c == '`'

/-- Reads the name of an anchor or an alias after its indicator. -/
def anchorName? (c : Cursor) : Option (String × Cursor) :=
  let (name, c) := (c.forward 1).takeWhile isNameChar
  if name.isEmpty || !endsAnchor c.rest then none else some (String.ofList name, c)

/-! ## Tags -/

/-- Characters of a tag that need no escape; brackets and commas only where `verbatim`. -/
def isUriChar (verbatim : Bool) (c : Char) : Bool :=
  isNameChar c || c == ';' || c == '/' || c == '?' || c == ':' || c == '@' || c == '&' || c == '='
    || c == '+' || c == '$' || c == '.' || c == '!' || c == '~' || c == '*' || c == '\''
    || c == '(' || c == ')' || (verbatim && (c == ',' || c == '[' || c == ']'))

/-- The bytes that follow a first byte of UTF-8, if it is one. -/
def followers? (b : Nat) : Option Nat :=
  if b < 0x80 then some 0
  else if 0xC0 ≤ b ∧ b < 0xE0 then some 1
  else if 0xE0 ≤ b ∧ b < 0xF0 then some 2
  else if 0xF0 ≤ b ∧ b < 0xF8 then some 3
  else none

/-- Reads the characters of a tag as bytes, together with the number of characters read.  `due`
escaped bytes must follow before anything else, and the next `skipped` characters were read. -/
def uriFrom (verbatim : Bool) (due skipped : Nat) : List Char → Option (List UInt8 × Nat)
  | [] => if due = 0 then some ([], 0) else none
  | c :: rest =>
    if 0 < skipped then
      (uriFrom verbatim due (skipped - 1) rest).map fun (bs, n) => (bs, n + 1)
    else if c == '%' then
      if rest.length < 2 then none
      else (hexNumber? (rest.take 2)).bind fun b =>
        let due? := if due = 0 then followers? b
          else if 0x80 ≤ b ∧ b < 0xC0 then some (due - 1) else none
        due?.bind fun due =>
          (uriFrom verbatim due 2 rest).map fun (bs, n) => (UInt8.ofNat b :: bs, n + 1)
    else if 0 < due then none
    else if isUriChar verbatim c then
      (uriFrom verbatim 0 0 rest).map fun (bs, n) => (UInt8.ofNat c.toNat :: bs, n + 1)
    else some ([], 0)

/-- Reads the characters of a tag. -/
def uri? (verbatim : Bool) (c : Cursor) : Option (List Char × Cursor) :=
  (uriFrom verbatim 0 0 c.rest).map fun (bs, n) => (Utf8.decodeLossy bs, c.forward n)

/-- Reads an exclamation mark, a name and, if there is one, another exclamation mark. -/
def tagHandle? (c : Cursor) : Option (List Char × Cursor) :=
  match c.rest with
  | '!' :: _ =>
    let (name, c) := (c.forward 1).takeWhile isNameChar
    match c.rest with
    | '!' :: _ => some ('!' :: name ++ ['!'], c.forward 1)
    | _ => some ('!' :: name, c)
  | _ => none

/-- Whether a tag may end here. -/
def endsTag (inFlow : Bool) (c : Cursor) : Bool :=
  endsWord c.rest || (inFlow && c.rest.head? = some ',')

/-- Reads a tag: in angle brackets, with a handle, or with the handle `!` before its rest. -/
def tag? (inFlow : Bool) (c : Cursor) : Option (Token × Cursor) := do
  let (token, c) ← show Option (Token × Cursor) from
    match c.rest with
    | '!' :: '<' :: _ => do
      let (rest, c) ← uri? true (c.forward 2)
      if rest.isEmpty || c.rest.head? != some '>' then none
      else some (.tag "" (String.ofList rest), c.forward 1)
    | _ => do
      let (handle, c) ← tagHandle? c
      let (rest, c) ← uri? false c
      if 2 ≤ handle.length && handle.getLast? = some '!' then
        if rest.isEmpty then none else some (.tag (String.ofList handle) (String.ofList rest), c)
      else
        let rest := handle.drop 1 ++ rest
        if rest.isEmpty then some (.tag "" "!", c) else some (.tag "!" (String.ofList rest), c)
  if endsTag inFlow c then some (token, c) else none

/-! ## Directives -/

/-- Reads a number of at most nine digits. -/
def directiveNumber? (c : Cursor) : Option (Nat × Cursor) :=
  let (digits, c) := c.takeWhile Char.isDigit
  if digits.isEmpty || 9 < digits.length then none
  else some (digits.foldl (fun n d => n * 10 + (d.toNat - '0'.toNat)) 0, c)

/-- Reads a directive and its line from the percent sign on. -/
def directive? (c : Cursor) : Option (Token × Cursor) := do
  let (name, c) := (c.forward 1).takeWhile isNameChar
  let (token, c) ← show Option (Token × Cursor) from
    if !endsWord c.rest then none
    else if name = "YAML".toList then do
      let (major, c) ← directiveNumber? (c.skip isBlank)
      if c.rest.head? != some '.' then none
      let (minor, c) ← directiveNumber? (c.forward 1)
      some (.versionDirective major minor, c)
    else if name = "TAG".toList then do
      let (handle, c) ← tagHandle? (c.skip isBlank)
      if handle.length != 1 && handle.getLast? != some '!' then none
      if !(c.rest.head?.any isBlank) then none
      let (base, c) ← uri? true (c.skip isBlank)
      if base.isEmpty || !endsWord c.rest then none
      some (.tagDirective (String.ofList handle) (String.ofList base), c)
    else none
  let c ← c.endLine?
  some (token, c)

end GlyphGrid.Yaml
