import Guidebook.Decimal.Shortest

namespace Guidebook
namespace Decimal

/-!
# Styles of written numbers

A binary number is always shown by its shortest decimal; the styles differ in
when they leave the positional form and in how they mark a whole number.
-/

/-- A way to write a finite decimal. -/
abbrev Style := Decimal -> List Char

/-- Positional at every size; a whole number has no point. -/
def plain : Style := positional

/-- Positional at every size, and with a point in any case. -/
def marked : Style := pointed

/-- With a point while the leading digit is at most fifteen places before the
point or five behind it, and with an exponent beyond. -/
def compact : Style := fun decimal =>
  if -5 ≤ decimal.leading && decimal.leading ≤ 15 then decimal.pointed else decimal.exponential

/-- The text of a binary number in a style.  Infinities and undefined results
are words in each of them. -/
def text (style : Style) (number : Float) : String :=
  match Magnitude.ofBits number.toBits with
  | (_, .undefined) => "NaN"
  | (negative, .infinite) => if negative then "-inf" else "inf"
  | (negative, .finite mantissa exponent narrow) =>
    let digits := style (shortest mantissa exponent narrow)
    String.ofList (if negative then '-' :: digits else digits)

end Decimal
end Guidebook
