import Guidebook.Decimal.Nearest
import Guidebook.Text.Numeral

namespace Guidebook
namespace Decimal

/-!
# Reading binary numbers

A written decimal is read as the binary number nearest to it.  Digits may stand
on either side of the point as long as there is one, an exponent is optional,
and infinities and the undefined number are words in any case of letters.
-/

/-- A written decimal: its digits without the point, and the power of ten that
the last of them counts. -/
structure Written where
  digits : List Char
  exponent : Int

/-- The exponent part of a written decimal, empty or a letter with an integer. -/
def exponent? : List Char -> Option Int
  | [] => some 0
  | letter :: rest =>
    if letter = 'e' || letter = 'E' then Numeral.integer? rest else none

/-- The digits, the point and the exponent of an unsigned decimal. -/
def written? (text : List Char) : Option Written :=
  let whole := text.takeWhile Numeral.isDigit
  match text.dropWhile Numeral.isDigit with
  | '.' :: rest =>
    let fraction := rest.takeWhile Numeral.isDigit
    if whole.isEmpty && fraction.isEmpty then none
    else (exponent? (rest.dropWhile Numeral.isDigit)).map fun exponent =>
      ⟨whole ++ fraction, exponent - fraction.length⟩
  | rest =>
    if whole.isEmpty then none
    else (exponent? rest).map fun exponent => ⟨whole, exponent⟩

/-- The binary number nearest to a written decimal.  Beyond the range of binary
numbers the size alone decides, before any power is formed. -/
def Written.nearest (written : Written) : Float :=
  let significant := written.digits.dropWhile (· = '0')
  let leading := written.exponent + significant.length
  if significant.isEmpty || leading < -400 then 0
  else if 400 < leading then 1 / 0
  else Decimal.nearest (Numeral.value significant) written.exponent

/-- The number that an unsigned word or decimal writes. -/
def unsigned? (text : List Char) : Option Float :=
  let lower := String.ofList (text.map Char.toLower)
  if lower = "inf" || lower = "infinity" then some (1 / 0)
  else if lower = "nan" then some (0 / 0)
  else (written? text).map Written.nearest

/-- The number that a text writes, with an optional sign. -/
def float? : List Char -> Option Float
  | '+' :: rest => unsigned? rest
  | '-' :: rest => (unsigned? rest).map fun number => -number
  | text => unsigned? text

end Decimal
end Guidebook
