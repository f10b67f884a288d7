import GlyphGrid.Text.Blank
import GlyphGrid.Units.Binary
import GlyphGrid.Yaml.Node

/-!
# The meaning of plain scalars

Plain words may stand for nothing, for a truth value or for a number.  `unsigned?` reads the
numbers that a configuration holds; `isAmbiguous` says which texts would be taken for something
else than a text, and so have to be quoted.
-/

namespace GlyphGrid.Yaml

/-- The words for nothing. -/
def isNullWord (text : String) : Bool :=
  text == "null" || text == "Null" || text == "NULL" || text == "~"

/-- The words for truth values. -/
def isTruthWord (text : String) : Bool :=
  text == "true" || text == "True" || text == "TRUE"
    || text == "false" || text == "False" || text == "FALSE"

/-- Whether a sign stands first. -/
def startsWithSign : List Char → Bool
  | '+' :: _ | '-' :: _ => true
  | _ => false

/-- Digits after a zero, which make a text and not a number. -/
def hasLeadingZero (cs : List Char) : Bool :=
  match if startsWithSign cs then cs.drop 1 else cs with
  | '0' :: d :: rest => (d :: rest).all Char.isDigit
  | _ => false

/-- The value of a digit below a base. -/
def digit? (base : Nat) (c : Char) : Option Nat :=
  (hexDigit? c).bind fun d => if d < base then some d else none

/-- The value of digits in a base, if there are any. -/
def digits? (base : Nat) (cs : List Char) : Option Nat :=
  if cs.isEmpty then none
  else cs.foldl (fun n c => n.bind fun n => (digit? base c).map (n * base + ·)) (some 0)

/-- The bases that are named after a zero. -/
def base? : Char → Option Nat
  | 'x' => some 16
  | 'o' => some 8
  | 'b' => some 2
  | _ => none

/-- The value of digits whose base is named before them, or else is ten. -/
def magnitude? : List Char → Option Nat
  | '0' :: b :: rest =>
    match base? b with
    | some base => if startsWithSign rest then none else digits? base rest
    | none => digits? 10 ('0' :: b :: rest)
  | cs => digits? 10 cs

/-- The value of an integer without a minus sign. -/
def unsigned? (text : String) : Option Nat :=
  let cs := text.toList
  let body := if cs.head? = some '+' then cs.drop 1 else cs
  if startsWithSign body || hasLeadingZero cs then none else magnitude? body

/-- Integers are read within this many bits. -/
def integerBits : Nat := 128

/-- Whether a text is read as an integer. -/
def isInteger (text : String) : Bool :=
  let cs := text.toList
  (unsigned? text).any (· < Nat.pow 2 integerBits)
    || (cs.head? = some '-' && !startsWithSign (cs.drop 1) && !hasLeadingZero cs
      && (magnitude? (cs.drop 1)).any (· ≤ Nat.pow 2 (integerBits - 1)))

/-! ## Numbers with a fraction -/

/-- The integer after the letter of an exponent. -/
def exponent? : List Char → Option Int
  | '-' :: ds => (Text.decimal? ds).map fun n => -(n : Int)
  | '+' :: ds => (Text.decimal? ds).map Int.ofNat
  | ds => (Text.decimal? ds).map Int.ofNat

/-- A decimal number with digits before and after a point and an exponent. -/
def decimalNumber? (cs : List Char) : Option Decimal :=
  let whole := cs.takeWhile Char.isDigit
  let rest := cs.dropWhile Char.isDigit
  let (fraction, rest) : List Char × List Char := match rest with
    | '.' :: rest => (rest.takeWhile Char.isDigit, rest.dropWhile Char.isDigit)
    | _ => ([], rest)
  let exponent? : Option Int := match rest with
    | [] => some 0
    | e :: rest => if e == 'e' || e == 'E' then exponent? rest else none
  if whole.isEmpty && fraction.isEmpty then none
  else exponent?.bind fun e =>
    (Text.decimal? (whole ++ fraction)).map fun n => ⟨n, e - fraction.length⟩

/-- Whether a decimal number is within the range of 64-bit floating point. -/
def isFinite (d : Decimal) : Bool :=
  let size : Int := (Nat.toDigits 10 d.digits.natAbs).length + d.exponent
  if d.digits = 0 || size ≤ 308 then true
  else if 310 < size then false
  else match BinaryFormat.double.round d.value with
    | .finite _ => true
    | _ => false

/-- The words for infinities and for what is no number. -/
def isFloatWord (text : String) : Bool :=
  [".inf", ".Inf", ".INF", "+.inf", "+.Inf", "+.INF", "-.inf", "-.Inf", "-.INF", ".nan", ".NaN",
    ".NAN"].contains text

/-- Whether a text is read as a number with a fraction. -/
def isFloat (text : String) : Bool :=
  let cs := text.toList
  let body := if startsWithSign cs then cs.drop 1 else cs
  isFloatWord text || (decimalNumber? body).any isFinite

/-- Whether a text is read as something else when it is written plainly. -/
def isAmbiguous (text : String) : Bool :=
  text.isEmpty || isNullWord text || isTruthWord text || hasLeadingZero text.toList
    || isInteger text || isFloat text

end GlyphGrid.Yaml
