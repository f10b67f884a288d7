import GlyphGrid.Yaml.Resolve

/-!
# Writing texts

`written` is the value of a block mapping that reads back as a given text.  A text of several
lines is written as a literal block, if its blanks allow it; one that would be read as something
else is quoted; and characters that cannot stand in a document are escaped in double quotes.
-/

namespace GlyphGrid.Yaml.Written

/-- Characters that stand for themselves between quotes. -/
def isPrintable (c : Char) : Bool :=
  let n := c.toNat
  n == 0x0A || (0x20 ≤ n && n ≤ 0x7E) || (0xA0 ≤ n && n ≤ 0xD7FF)
    || (0xE000 ≤ n && n ≤ 0xFFFD && n != 0xFEFF) || 0x10000 ≤ n

/-- Characters that mean something where a text begins. -/
def isFirstIndicator (c : Char) : Bool :=
  c == '#' || c == ',' || c == '[' || c == ']' || c == '\x7b' || c == '\x7d' || c == '&' || c == '*'
    || c == '!' || c == '|' || c == '>' || c == '\'' || c == '"' || c == '%' || c == '@' || c == '`'

/-- Whether an indicator of a block stands after the first character; `afterBlank` says that a
blank stands before. -/
def hasInnerIndicator (afterBlank : Bool) : List Char → Bool
  | [] => false
  | c :: rest =>
    (c == ':' && endsWord rest) || (c == '#' && afterBlank)
      || hasInnerIndicator (isBlank c || isBreak c) rest

/-- Whether a text holds an indicator of a block where it would be taken for one. -/
def hasIndicator : List Char → Bool
  | [] => false
  | c :: rest =>
    ['-', '-', '-'].isPrefixOf (c :: rest) || ['.', '.', '.'].isPrefixOf (c :: rest)
      || isFirstIndicator c
      || ((c == '?' || c == ':' || c == '-') && endsWord rest)
      || hasInnerIndicator (isBlank c || isBreak c) rest

/-- Whether a character with the first property stands right before one with the second. -/
def hasPair (p q : Char → Bool) : List Char → Bool
  | [] => false
  | c :: rest => (p c && rest.head?.any q) || hasPair p q rest

/-- Whether a character is the space. -/
def isSpace (c : Char) : Bool := c == ' '

/-- Whether a text can be written without quotes. -/
def allowsPlain (cs : List Char) : Bool :=
  cs.all (fun c => isPrintable c && !isBreak c) && !cs.head?.any isSpace && !cs.getLast?.any isSpace
    && !hasIndicator cs

/-- Whether a text can be written in single quotes. -/
def allowsSingle (cs : List Char) : Bool :=
  cs.all isPrintable && !hasPair isBreak isSpace cs && !hasPair isSpace isBreak cs

/-- Whether a text can be written as a block. -/
def allowsBlock (cs : List Char) : Bool :=
  !cs.isEmpty && cs.all isPrintable && !cs.getLast?.any isSpace && !hasPair isSpace isBreak cs

/-! ## The four forms -/

/-- The indentation of the lines of a value. -/
def indentation : List Char := [' ', ' ']

/-- The characters in single quotes: a quote is written twice, and a line that follows another is
indented. -/
def singleBody (atLineStart : Bool) : List Char → List Char
  | [] => if atLineStart then indentation else []
  | c :: rest =>
    if isBreak c then c :: singleBody true rest
    else if isSpace c then c :: singleBody atLineStart rest
    else (if atLineStart then indentation else []) ++ (if c == '\'' then ['\'', '\''] else [c])
      ++ singleBody false rest

/-- The letter of a short escape. -/
def shortEscape? (c : Char) : Option Char :=
  if c == '\x00' then some '0'
  else if c == '\x07' then some 'a'
  else if c == '\x08' then some 'b'
  else if c == '\t' then some 't'
  else if c == '\n' then some 'n'
  else if c == '\x0B' then some 'v'
  else if c == '\x0C' then some 'f'
  else if c == '\r' then some 'r'
  else if c == '\x1B' then some 'e'
  else if c == '"' then some '"'
  else if c == '\\' then some '\\'
  else if c == '\u0085' then some 'N'
  else if c == '\u00A0' then some '_'
  else if c == '\u2028' then some 'L'
  else if c == '\u2029' then some 'P'
  else none

/-- The escape of a character by its number. -/
def numberEscape (c : Char) : List Char :=
  let n := c.toNat
  if n ≤ 0xFF then 'x' :: (Text.hexUpper 2 n).toList
  else if n ≤ 0xFFFF then 'u' :: (Text.hexUpper 4 n).toList
  else 'U' :: (Text.hexUpper 8 n).toList

/-- A character in double quotes. -/
def doubleChar (c : Char) : List Char :=
  if !isPrintable c || isBreak c || c == '"' || c == '\\' then
    '\\' :: (match shortEscape? c with
      | some e => [e]
      | none => numberEscape c)
  else [c]

/-- What stands after the first character of a literal block: its indentation, if its first line
does not show it, and what happens to its last line ends. -/
def literalHints (cs : List Char) : List Char :=
  (if cs.head?.any (fun c => isSpace c || isBreak c) then ['2'] else [])
  ++ match cs.reverse with
    | [] => ['-']
    | last :: before =>
      if !isBreak last then ['-']
      else match before with
        | [] => ['+']
        | c :: _ => if isBreak c then ['+'] else []

/-- The lines of a literal block. -/
def literalBody (atLineStart : Bool) : List Char → List Char
  | [] => []
  | c :: rest =>
    if isBreak c then c :: literalBody true rest
    else (if atLineStart then indentation else []) ++ c :: literalBody false rest

/-- How a text is written. -/
def style (text : String) : ScalarStyle :=
  let cs := text.toList
  if cs.contains '\n' then (if allowsBlock cs then .literal else .doubleQuoted)
  else if !isAmbiguous text && allowsPlain cs then .plain
  else if allowsSingle cs then .singleQuoted
  else .doubleQuoted

/-- A text in a given style. -/
def inStyle (cs : List Char) : ScalarStyle → List Char
  | .plain => cs
  | .singleQuoted => '\'' :: singleBody false cs ++ ['\'']
  | .doubleQuoted => '"' :: cs.flatMap doubleChar ++ ['"']
  | .literal | .folded => '|' :: literalHints cs ++ '\n' :: literalBody true cs

/-- The line of a key and a text as its value, and the lines that the value goes on for. -/
def entry (key : String) (text : String) : List Char :=
  let body := inStyle text.toList (style text)
  let hasLineEnd := body.getLast?.any isBreak
  key.toList ++ [':', ' '] ++ body ++ (if hasLineEnd then [] else ['\n'])

end GlyphGrid.Yaml.Written
