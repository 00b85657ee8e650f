import Guidebook.Decimal.Nearest
import Guidebook.Json.Failure
import Guidebook.Text.Numeral

namespace Guidebook
namespace Json

/-!
# Numbers

An integer that fits sixty-four bits is kept as an integer; every other number
becomes a binary number.  Only as many digits count as fit an unsigned word of
sixty-four bits: of those that do not, the whole ones raise the exponent and the
others are dropped.  The digits are then scaled by one power of ten, so a long
number may miss the nearest binary number by a last bit.
-/

/-- A number as it was written. -/
inductive Number where
  | integer (value : Int)
  | float (value : Float)

namespace Number

/-- The greatest unsigned word of sixty-four bits. -/
def greatest : Nat := 18446744073709551615

/-- The greatest exponent that is still counted, a signed word of thirty-two bits. -/
def greatestExponent : Nat := 2147483647

/-- The least exponent that is still counted. -/
def leastExponent : Int := -2147483648

/-- Digits that are absorbed into a number up to a bound, and those left when
the next one would exceed it. -/
def absorb (bound : Nat) : (number : Nat) -> List Char -> Nat × List Char
  | number, [] => (number, [])
  | number, digit :: rest =>
    if Numeral.isDigit digit then
      let next := number * 10 + Numeral.digitValue digit
      if next ≤ bound then absorb bound next rest else (number, digit :: rest)
    else (number, digit :: rest)

/-- Whether a digit comes next. -/
def digitNext : List Char -> Bool
  | [] => false
  | character :: _ => Numeral.isDigit character

/-- The number of digits that come next. -/
def digitCount (text : List Char) : Nat :=
  (text.takeWhile Numeral.isDigit).length

/-- Whether the letter of an exponent comes next. -/
def exponentNext : List Char -> Bool
  | [] => false
  | character :: _ => character == 'e' || character == 'E'

/-- A power of ten as a binary number. -/
def power (exponent : Nat) : Float :=
  Decimal.nearest 1 exponent

/-- The greatest power of ten that a binary number holds. -/
def greatestPower : Nat := 308

/-- Scale by a power of ten; `none` is a number out of range.  A negative
exponent beyond the greatest power is divided off in several steps, of which a
few reach zero. -/
def scale? : (steps : Nat) -> Float -> Int -> Option Float
  | 0, number, _ => some number
  | steps + 1, number, exponent =>
    if exponent.natAbs ≤ greatestPower then
      if 0 ≤ exponent then
        let scaled := number * power exponent.natAbs
        if scaled.isInf then none else some scaled
      else some (number / power exponent.natAbs)
    else if number == 0 then some number
    else if 0 ≤ exponent then none
    else scale? steps (number / power greatestPower) (exponent + greatestPower)

/-- The binary number with these digits and exponent. -/
def scaled (negative : Bool) (digits : Nat) (exponent : Int) : Reader Number := fun left =>
  match scale? 8 (Decimal.nearest digits 0) exponent with
  | some number => .ok (.float (if negative then -number else number), left)
  | none => .error (.here .numberOutOfRange left)

/-- An exponent kept within bounds. -/
def clamped (exponent : Int) : Int :=
  max leastExponent (min exponent greatestExponent)

/-- Read an exponent behind its letter and sign. -/
def unsignedExponent (negative : Bool) (digits : Nat) (start : Int) (below : Bool) :
    Reader Number
  | [] => .error (.here .unfinishedValue [])
  | first :: rest =>
    if Numeral.isDigit first then
      let (size, left) := absorb greatestExponent (Numeral.digitValue first) rest
      if digitNext left then
        if digits ≠ 0 && !below then .error (.placed .numberOutOfRange left 1)
        else .ok (.float (if negative then -0.0 else 0.0), left.dropWhile Numeral.isDigit)
      else scaled negative digits (clamped (if below then start - size else start + size)) left
    else .error (.placed .invalidNumber (first :: rest) 1)

/-- Read an exponent behind its letter. -/
def exponent (negative : Bool) (digits : Nat) (start : Int) : Reader Number
  | '+' :: text => unsignedExponent negative digits start false text
  | '-' :: text => unsignedExponent negative digits start true text
  | text => unsignedExponent negative digits start false text

/-- Read what may follow the digits: an exponent or nothing. -/
def ended (negative : Bool) (digits : Nat) (start : Int) : Reader Number := fun text =>
  if exponentNext text then exponent negative digits start (text.drop 1)
  else scaled negative digits start text

/-- Read a fraction behind its point. -/
def fraction (negative : Bool) (digits : Nat) (start : Int) : Reader Number := fun text =>
  if digitNext text then
    let (all, left) := absorb greatest digits text
    ended negative all (start - (digitCount text - digitCount left : Nat))
      (left.dropWhile Numeral.isDigit)
  else if text.isEmpty then .error (.here .unfinishedValue [])
  else .error (.next .invalidNumber text)

/-- An integer without a fraction and an exponent.  Negative zero and negative
integers below a signed word are binary numbers. -/
def whole (negative : Bool) (digits : Nat) : Number :=
  if !negative then .integer digits
  else if digits = 0 || (-digits : Int) < Numeral.wordLeast then .float (-Decimal.nearest digits 0)
  else .integer (-digits)

/-- Read what follows the digits before the point.  `dropped` counts those of
them that did not fit. -/
def rest (negative : Bool) (digits dropped : Nat) : Reader Number
  | '.' :: text => fraction negative digits dropped text
  | text =>
    if exponentNext text then exponent negative digits dropped (text.drop 1)
    else if dropped = 0 then .ok (whole negative digits, text)
    else scaled negative digits dropped text

/-- Read a number behind its sign. -/
def unsigned (negative : Bool) : Reader Number
  | [] => .error (.here .unfinishedValue [])
  | '0' :: text =>
    if digitNext text then .error (.next .invalidNumber text) else rest negative 0 0 text
  | first :: text =>
    if Numeral.isDigit first then
      let (digits, left) := absorb greatest (Numeral.digitValue first) text
      rest negative digits (digitCount left) (left.dropWhile Numeral.isDigit)
    else .error (.placed .invalidNumber (first :: text) 1)

end Number

/-- Read a number with an optional minus sign. -/
def number : Reader Number
  | '-' :: text => Number.unsigned true text
  | text => Number.unsigned false text

end Json
end Guidebook
