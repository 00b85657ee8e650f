import Guidebook.Decimal.Shortest

namespace Guidebook
namespace Decimal

/-!
# Nearest binary numbers

The binary number nearest to a decimal, a tie going to the even mantissa.  The
mantissa is the whole part of the value counted in the largest unit that gives
it no more than fifty-three bits, and what is left over decides the rounding.
A carry out of the mantissa is a carry into the exponent, because the bits of a
binary number are ordered as the numbers are.
-/

/-- The least exponent of the unit of a mantissa. -/
def leastUnit : Int := -1074

/-- A fraction counted in a unit that is a power of two, as a fraction again. -/
def Ratio.counted (value : Ratio) (unit : Int) : Ratio :=
  if 0 ≤ unit then ⟨value.top, value.bottom * Nat.pow 2 unit.toNat⟩
  else ⟨value.top * Nat.pow 2 (-unit).toNat, value.bottom⟩

/-- The whole number nearest to a fraction, a tie going to the even one. -/
def Ratio.rounded (value : Ratio) : Nat :=
  let below := value.top / value.bottom
  match Ord.compare (2 * (value.top % value.bottom)) value.bottom with
  | .lt => below
  | .gt => below + 1
  | .eq => if below % 2 = 0 then below else below + 1

/-- The mantissas are below this: two to the fifty-three. -/
def mantissaBound : Nat := 2 * Magnitude.fractionCount

/-- The exponent of the unit in which a positive fraction is counted. -/
def unitExponent (value : Ratio) : Int :=
  let size : Int := value.top.log2 - value.bottom.log2
  let unit := max leastUnit (size - 53)
  let counted := value.counted unit
  if counted.top / counted.bottom < mantissaBound then unit else unit + 1

/-- The bits of the infinite number. -/
def infiniteBits : Nat := (Magnitude.exponentCount - 1) * Magnitude.fractionCount

/-- The bits of the binary number nearest to a fraction. -/
def nearestBits (value : Ratio) : Nat :=
  if value.top = 0 then 0
  else
    let unit := unitExponent value
    min infiniteBits ((unit - leastUnit).toNat * Magnitude.fractionCount + (value.counted unit).rounded)

/-- The binary number nearest to digits times a power of ten. -/
def nearest (digits : Nat) (exponent : Int) : Float :=
  Float.ofBits (UInt64.ofNat (nearestBits (Ratio.scaled digits 10 exponent)))

end Decimal
end Guidebook
