import GlyphGrid.Error

/-!
# UTF-8

`encode` writes characters as bytes and `encodePoints` does so for bare numbers, refusing the
first that is no character.  Reading is done by a small automaton, `Reader`, which knows how many
continuation bytes are due and in which range the next must lie.  `units` is its output: the
characters of the bytes in order, with `none` for each longest piece that begins a character but
does not go on to be one.  `decodeLossy` puts U+FFFD for such a piece and `decode?` refuses it.
-/

namespace GlyphGrid.Utf8

/-- The bytes of some characters. -/
def encode (cs : List Char) : List UInt8 :=
  cs.flatMap String.utf8EncodeChar

/-- The bytes of a text. -/
def encodeText (text : String) : List UInt8 :=
  encode text.toList

/-- The characters with the given numbers; the first number, counted from `index`, that is not a
character is an error. -/
def charsOfPoints (index : Nat) : List Nat → Except GlyphError (List Char)
  | [] => .ok []
  | n :: rest =>
    match Text.charOf? n with
    | none => .error (.notScalar index n)
    | some c => (charsOfPoints (index + 1) rest).map (c :: ·)

/-- The bytes of the characters with the given numbers. -/
def encodePoints (points : List Nat) : Except GlyphError (List UInt8) :=
  (charsOfPoints 0 points).map encode

/-! ## Reading -/

/-- What a reader expects next. -/
inductive Reader where
  | idle
  /-- `due` more bytes of a character whose leading bits are `bits`; the next one lies between
  `low` and `high`. -/
  | pending (due : Nat) (low high : UInt8) (bits : Nat)
  deriving DecidableEq

/-- Reads the first byte of a character. -/
def Reader.lead (b : UInt8) : List (Option Char) × Reader :=
  if b < 0x80 then ([some (Char.ofNat b.toNat)], .idle)
  else if b < 0xC2 then ([none], .idle)
  else if b < 0xE0 then ([], .pending 1 0x80 0xBF (b.toNat - 0xC0))
  else if b = 0xE0 then ([], .pending 2 0xA0 0xBF 0)
  else if b = 0xED then ([], .pending 2 0x80 0x9F 0xD)
  else if b < 0xF0 then ([], .pending 2 0x80 0xBF (b.toNat - 0xE0))
  else if b = 0xF0 then ([], .pending 3 0x90 0xBF 0)
  else if b < 0xF4 then ([], .pending 3 0x80 0xBF (b.toNat - 0xF0))
  else if b = 0xF4 then ([], .pending 3 0x80 0x8F 4)
  else ([none], .idle)

/-- Reads one byte: what it completes, and what is expected after it.  A byte that cannot
continue a character ends the piece before it and is read afresh. -/
def Reader.step : Reader → UInt8 → List (Option Char) × Reader
  | .idle, b => lead b
  | .pending due low high bits, b =>
    if low ≤ b ∧ b ≤ high then
      let bits := bits * 64 + (b.toNat - 0x80)
      if due ≤ 1 then ([some (Char.ofNat bits)], .idle)
      else ([], .pending (due - 1) 0x80 0xBF bits)
    else
      let (out, next) := lead b
      (none :: out, next)

/-- What is left over when the bytes end. -/
def Reader.finish : Reader → List (Option Char)
  | .idle => []
  | .pending .. => [none]

/-- The characters and the broken pieces that a reader finds. -/
def Reader.run : Reader → List UInt8 → List (Option Char)
  | r, [] => r.finish
  | r, b :: bs =>
    let (out, next) := r.step b
    out ++ next.run bs

/-- The characters of `bytes` in order, `none` standing for each broken piece. -/
def units (bytes : List UInt8) : List (Option Char) :=
  Reader.idle.run bytes

/-- The replacement character, which stands for a broken piece. -/
def replacement : Char := '\uFFFD'

/-- The characters of `bytes`, each broken piece replaced. -/
def decodeLossy (bytes : List UInt8) : List Char :=
  (units bytes).map (·.getD replacement)

/-- The text of `bytes`, each broken piece replaced. -/
def textLossy (bytes : List UInt8) : String :=
  String.ofList (decodeLossy bytes)

/-- The characters of `bytes`, if no piece is broken. -/
def decode? (bytes : List UInt8) : Option (List Char) :=
  (units bytes).mapM id

end GlyphGrid.Utf8
