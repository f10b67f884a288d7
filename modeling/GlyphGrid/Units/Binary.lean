/-!
# Binary floating point

A floating-point number is kept as the exact rational it stands for.  `BinaryFormat.round` is the
one place where precision is lost: it picks the nearest number of a format, an exact half going to
the even neighbour.  `BinaryFormat.shortest` writes a number with the fewest digits that read back.
-/

namespace GlyphGrid

/-- The nearest integer, a half going away from zero. -/
def roundHalfAway (q : Rat) : Int :=
  if 0 ≤ q then (q + 1 / 2).floor else -((-q + 1 / 2).floor)

/-- The nearest integer, a half going to the even neighbour. -/
def roundHalfEven (q : Rat) : Int :=
  let below := q.floor
  let rest := q - below
  if rest < 1 / 2 then below
  else if 1 / 2 < rest then below + 1
  else if below % 2 = 0 then below else below + 1

/-- The power of two with exponent `e`. -/
def twoPow (e : Int) : Rat :=
  if 0 ≤ e then (Nat.pow 2 e.toNat : Nat) else 1 / ((Nat.pow 2 (-e).toNat : Nat) : Rat)

/-- The exponent of the greatest power of two that is at most `|q|`, for `q` other than zero. -/
def log2Floor (q : Rat) : Int :=
  let e : Int := (q.num.natAbs.log2 : Int) - (q.den.log2 : Int)
  if twoPow e ≤ q.abs then e else e - 1

/-- A binary floating-point format. -/
structure BinaryFormat where
  precision : Nat
  minExponent : Int
  maxExponent : Int

/-- A floating-point number: its exact value, an infinity, or no number at all. -/
inductive Binary where
  | nan
  | infinite (negative : Bool)
  | finite (value : Rat)
  deriving DecidableEq

namespace BinaryFormat

/-- Numbers of 32 bits. -/
def single : BinaryFormat := ⟨24, -149, 128⟩

/-- Numbers of 64 bits. -/
def double : BinaryFormat := ⟨53, -1074, 1024⟩

/-- The distance between neighbouring numbers around `q`. -/
def spacing (f : BinaryFormat) (q : Rat) : Rat :=
  twoPow (max (log2Floor q - (f.precision - 1 : Nat)) f.minExponent)

/-- The multiple of the spacing around `q` that is nearest to `q`. -/
def nearest (f : BinaryFormat) (q : Rat) : Rat :=
  if q = 0 then 0 else roundHalfEven (q / f.spacing q) * f.spacing q

/-- The number of the format nearest to `q`. -/
def round (f : BinaryFormat) (q : Rat) : Binary :=
  let value := f.nearest q
  if twoPow f.maxExponent ≤ value.abs then .infinite (q < 0) else .finite value

/-- The number with the given bits: a sign, an exponent and a fraction, from the top. -/
def ofBits (f : BinaryFormat) (bits : Nat) : Binary :=
  let fractionBits := f.precision - 1
  let exponentLimit := 2 * f.maxExponent.toNat
  let fraction := bits % Nat.pow 2 fractionBits
  let exponent := bits / Nat.pow 2 fractionBits % exponentLimit
  let isNegative := bits / Nat.pow 2 fractionBits / exponentLimit % 2 = 1
  if exponent + 1 = exponentLimit then
    if fraction = 0 then .infinite isNegative else .nan
  else
    let size : Rat :=
      if exponent = 0 then (fraction : Rat) * twoPow f.minExponent
      else ((Nat.pow 2 fractionBits + fraction : Nat) : Rat) * twoPow (f.minExponent + exponent - 1)
    .finite (if isNegative then -size else size)

end BinaryFormat

/-! ## Shortest decimal text -/

/-- The exponent of the greatest power of ten that is at most `q`, for positive `q`; `fuel` bounds
how far it is looked for. -/
def log10Floor (fuel : Nat) (q : Rat) : Int :=
  match fuel with
  | 0 => 0
  | fuel + 1 =>
    if 10 ≤ q then log10Floor fuel (q / 10) + 1
    else if q < 1 then log10Floor fuel (q * 10) - 1
    else 0

/-- The power of ten with exponent `e`. -/
def tenPow (e : Int) : Rat :=
  if 0 ≤ e then (Nat.pow 10 e.toNat : Nat) else 1 / ((Nat.pow 10 (-e).toNat : Nat) : Rat)

/-- A decimal number: `digits` times ten to the power `exponent`. -/
structure Decimal where
  /-- The digits, as an integer. -/
  digits : Int
  exponent : Int
  deriving DecidableEq

/-- The value of a decimal number. -/
def Decimal.value (d : Decimal) : Rat := d.digits * tenPow d.exponent

/-- The decimal number with the fewest digits, at most seventeen, that the format reads as `q`. -/
def BinaryFormat.shortest (f : BinaryFormat) (q : Rat) : Decimal :=
  let top := log10Floor 400 q.abs
  let candidate (count : Nat) : Decimal :=
    let exponent := top - count
    ⟨roundHalfAway (q / tenPow exponent), exponent⟩
  match (List.range 17).find? fun count => f.round (candidate count).value = .finite q with
  | some count => candidate count
  | none => candidate 17

end GlyphGrid
