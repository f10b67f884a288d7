import GlyphGrid.Text.CodePoint
import GlyphGrid.Text.Visibility

/-!
# Quoted text

`quote` writes a text between double quotes so that it fits on one line and shows what it holds:
the usual escapes, and the code point of every character that has no shape of its own or would
attach to the one before it.
-/

namespace GlyphGrid.Text.Quoted

/-- Whether a character is written by its code point. -/
def isHidden (c : Char) : Bool :=
  inRanges graphemeExtendRanges c || inRanges unprintableRanges c

/-- A character inside quotes. -/
def escapeChar (c : Char) : List Char :=
  if c = '\x00' then ['\\', '0']
  else if c = '\t' then ['\\', 't']
  else if c = '\r' then ['\\', 'r']
  else if c = '\n' then ['\\', 'n']
  else if c = '\\' then ['\\', '\\']
  else if c = '"' then ['\\', '"']
  else if isHidden c then "\\u\x7b".toList ++ hexDigits 1 c.toNat ++ ['\x7d']
  else [c]

/-- A text in double quotes. -/
def quote (text : String) : String :=
  String.ofList ('"' :: text.toList.flatMap escapeChar ++ ['"'])

end GlyphGrid.Text.Quoted
