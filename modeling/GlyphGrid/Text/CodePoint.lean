/-!
# Code points

A property of characters is kept as a list of inclusive ranges of code points; `Char.inRanges`
tests membership.  `isScalarValue` says which numbers are characters at all, and `hexDigits`
writes a number the way code points are written.
-/

namespace GlyphGrid.Text

/-- Whether the code point of `c` lies in one of `ranges`. -/
def inRanges (ranges : List (Nat × Nat)) (c : Char) : Bool :=
  ranges.any fun r => r.1 ≤ c.toNat && c.toNat ≤ r.2

/-- The numbers that are characters: up to `10FFFF` without the surrogates. -/
def isScalarValue (n : Nat) : Bool :=
  n < 0xD800 || (0xE000 ≤ n && n ≤ 0x10FFFF)

/-- The character with number `n`, if there is one. -/
def charOf? (n : Nat) : Option Char :=
  if h : n.isValidChar then some (Char.ofNatAux n h) else none

/-- The hexadecimal digits of `n`, in lower case, at least `width` of them. -/
def hexDigits (width n : Nat) : List Char :=
  let digits := Nat.toDigits 16 n
  List.replicate (width - digits.length) '0' ++ digits

/-- The hexadecimal digits of `n` in lower case. -/
def hexLower (n : Nat) : String :=
  String.ofList (hexDigits 1 n)

/-- The hexadecimal digits of `n` in upper case, at least `width` of them. -/
def hexUpper (width n : Nat) : String :=
  String.ofList ((hexDigits width n).map Char.toUpper)

end GlyphGrid.Text
