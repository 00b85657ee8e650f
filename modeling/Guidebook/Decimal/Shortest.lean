namespace Guidebook

/-!
# Shortest decimals

The shortest decimal of a binary number is the one with the fewest digits that
still reads back as that number, and among those the nearest to it.  A finite
number is a mantissa times a power of two; the numbers that read back as it are
those up to halfway to its neighbours, the halfway points included exactly when
the mantissa is even.  All comparisons are between natural numbers.

For each count of digits only the two decimals around the value need a look: if
any decimal of that many digits reads back, so does one of them.
-/

/-- Digits times a power of ten. -/
structure Decimal where
  digits : Nat
  exponent : Int
deriving Repr, DecidableEq

/-- A binary number without its sign. -/
inductive Magnitude where
  | undefined
  | infinite
  /-- The mantissa times two to the exponent; `narrow` says that the gap below
  is half the gap above. -/
  | finite (mantissa : Nat) (exponent : Int) (narrow : Bool)
deriving Repr, DecidableEq

namespace Magnitude

/-- How many fractions there are for one exponent: two to the fifty-two. -/
def fractionCount : Nat := 4503599627370496

/-- How many exponents there are, with those of zero and of infinity. -/
def exponentCount : Nat := 2048

/-- Split the sixty-four bits of a binary number into its sign and magnitude.
The sign is the highest bit, and the fraction takes the lowest ones. -/
def ofBits (bits : UInt64) : Bool × Magnitude :=
  let raw : Nat := bits.toNat
  let negative : Bool := raw / fractionCount / exponentCount = 1
  let biased : Nat := raw / fractionCount % exponentCount
  let fraction : Nat := raw % fractionCount
  let magnitude : Magnitude :=
    if biased + 1 = exponentCount then if fraction = 0 then .infinite else .undefined
    else if biased = 0 then .finite fraction (-1074) false
    else .finite (fraction + fractionCount) ((biased : Int) - 1075) (fraction = 0 && 1 < biased)
  (negative, magnitude)

end Magnitude

namespace Decimal

/-- A non-negative fraction, the denominator being positive. -/
structure Ratio where
  top : Nat
  bottom : Nat

/-- A natural number times a power of a base. -/
def Ratio.scaled (number base : Nat) (exponent : Int) : Ratio :=
  if 0 ≤ exponent then ⟨number * Nat.pow base exponent.toNat, 1⟩
  else ⟨number, Nat.pow base (-exponent).toNat⟩

/-- Fractions are compared by cross-multiplication. -/
def Ratio.compare (left right : Ratio) : Ordering :=
  Ord.compare (left.top * right.bottom) (right.top * left.bottom)

/-- The distance between two fractions. -/
def Ratio.distance (left right : Ratio) : Ratio :=
  let first := left.top * right.bottom
  let second := right.top * left.bottom
  ⟨(first - second) + (second - first), left.bottom * right.bottom⟩

/-- The exponent of the leading digit of a positive fraction, sought upwards
from a lower bound in at most so many steps. -/
def leadingExponent (value : Ratio) : (steps : Nat) -> (lower : Int) -> Int
  | 0, lower => lower
  | steps + 1, lower =>
    if (Ratio.scaled 1 10 (lower + 1)).compare value == .gt then lower
    else leadingExponent value steps (lower + 1)

/-- Whether a decimal lies where numbers read back as the given one. -/
def within (low high : Ratio) (even : Bool) (candidate : Ratio) : Bool :=
  match low.compare candidate, candidate.compare high with
  | .lt, .lt => true
  | .eq, .lt => even
  | .lt, .eq => even
  | _, _ => false

/-- The decimal of the grid with the given exponent that reads back, the
nearer of the two around the value; a tie goes to even digits. -/
def onGrid? (value low high : Ratio) (even : Bool) (exponent : Int) : Option Decimal :=
  let unit := Ratio.scaled 1 10 exponent
  let below := (value.top * unit.bottom) / (value.bottom * unit.top)
  let lower := Ratio.scaled below 10 exponent
  let upper := Ratio.scaled (below + 1) 10 exponent
  match within low high even lower, within low high even upper with
  | true, true =>
    match (lower.distance value).compare (upper.distance value) with
    | .lt => some ⟨below, exponent⟩
    | .gt => some ⟨below + 1, exponent⟩
    | .eq => some ⟨if below % 2 = 0 then below else below + 1, exponent⟩
  | true, false => some ⟨below, exponent⟩
  | false, true => some ⟨below + 1, exponent⟩
  | false, false => none

/-- Try grids from coarse to fine. -/
def firstOnGrid (value low high : Ratio) (even : Bool) :
    (grids : Nat) -> (exponent : Int) -> Option Decimal
  | 0, _ => none
  | grids + 1, exponent =>
    match onGrid? value low high even exponent with
    | some found => some found
    | none => firstOnGrid value low high even grids (exponent - 1)

/-- Move trailing zeros of the digits into the exponent. -/
def normalFrom : (steps : Nat) -> Decimal -> Decimal
  | 0, decimal => decimal
  | steps + 1, decimal =>
    if decimal.digits ≠ 0 && decimal.digits % 10 = 0 then
      normalFrom steps ⟨decimal.digits / 10, decimal.exponent + 1⟩
    else decimal

/-- The shortest decimal of a finite magnitude; zero has the digit zero. -/
def shortest (mantissa : Nat) (exponent : Int) (narrow : Bool) : Decimal :=
  if mantissa = 0 then ⟨0, 0⟩
  else
    let value := Ratio.scaled (4 * mantissa) 2 (exponent - 2)
    let low := Ratio.scaled (4 * mantissa - if narrow then 1 else 2) 2 (exponent - 2)
    let high := Ratio.scaled (4 * mantissa + 2) 2 (exponent - 2)
    let leading := leadingExponent value 700 (-330)
    match firstOnGrid value low high (mantissa % 2 = 0) 18 leading with
    | some found => normalFrom 20 found
    | none => ⟨0, 0⟩

/-- The digits of a decimal as characters. -/
def digitChars (decimal : Decimal) : List Char :=
  Nat.toDigits 10 decimal.digits

/-- The exponent of the leading digit. -/
def leading (decimal : Decimal) : Int :=
  decimal.exponent + decimal.digitChars.length - 1

/-- The positional form, without a point for a whole number. -/
def positional (decimal : Decimal) : List Char :=
  let digits := decimal.digitChars
  if 0 ≤ decimal.exponent then digits ++ List.replicate decimal.exponent.toNat '0'
  else
    let places := (-decimal.exponent).toNat
    let padded := List.replicate (places + 1 - digits.length) '0' ++ digits
    padded.take (padded.length - places) ++ '.' :: padded.drop (padded.length - places)

/-- The positional form with a point in any case. -/
def pointed (decimal : Decimal) : List Char :=
  if 0 ≤ decimal.exponent then decimal.positional ++ ['.', '0'] else decimal.positional

/-- The form with an exponent: one digit, a point if more follow, and a signed
exponent of at least two digits. -/
def exponential (decimal : Decimal) : List Char :=
  let fraction := decimal.digitChars.drop 1
  let size := Nat.toDigits 10 decimal.leading.natAbs
  decimal.digitChars.take 1 ++ (if fraction.isEmpty then [] else '.' :: fraction)
    ++ ['e', if decimal.leading < 0 then '-' else '+']
    ++ (List.replicate (2 - size.length) '0' ++ size)

end Decimal
end Guidebook
