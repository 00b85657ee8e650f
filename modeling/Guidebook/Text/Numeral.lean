namespace Guidebook
namespace Numeral

/-!
# Decimal numerals

Digits are the ten ASCII digits only: a digit of another script is no digit
here, in an option title as in a setting.  A numeral of any length has a value;
whether the value fits a word is asked afterwards, so leading zeros never
matter.
-/

/-- The ten ASCII digits. -/
def isDigit (character : Char) : Bool :=
  '0' ≤ character && character ≤ '9'

/-- The value of one digit. -/
def digitValue (digit : Char) : Nat :=
  digit.toNat - '0'.toNat

/-- The number that a run of digits writes, most significant digit first. -/
def value (digits : List Char) : Nat :=
  digits.foldl (fun total digit => total * 10 + digitValue digit) 0

/-- The number that a text writes, when it is a non-empty run of digits. -/
def natural? (text : List Char) : Option Nat :=
  if text.isEmpty || !text.all isDigit then none else some (value text)

/-- The integer that a text writes: digits with an optional sign in front. -/
def integer? : List Char -> Option Int
  | '+' :: digits => (natural? digits).map Int.ofNat
  | '-' :: digits => (natural? digits).map fun size => -Int.ofNat size
  | digits => (natural? digits).map Int.ofNat

/-- The least and the greatest integer of a signed word of sixty-four bits. -/
def wordLeast : Int := -9223372036854775808

/-- The greatest integer of a signed word of sixty-four bits. -/
def wordGreatest : Int := 9223372036854775807

/-- The integer that a text writes, when it fits a signed word of sixty-four bits. -/
def word? (text : List Char) : Option Int :=
  (integer? text).filter fun number => wordLeast ≤ number && number ≤ wordGreatest

/-- The value of one hexadecimal digit, of either case. -/
def hexValue? (character : Char) : Option Nat :=
  if isDigit character then some (digitValue character)
  else if 'a' ≤ character && character ≤ 'f' then some (character.toNat - 'a'.toNat + 10)
  else if 'A' ≤ character && character ≤ 'F' then some (character.toNat - 'A'.toNat + 10)
  else none

/-- The lower-case hexadecimal digit of a number below sixteen. -/
def hexDigit (number : Nat) : Char :=
  if number < 10 then Char.ofNat ('0'.toNat + number) else Char.ofNat ('a'.toNat + number - 10)

/-- A number in hexadecimal with at least the given count of digits. -/
def hex (width number : Nat) : String :=
  let digits := Nat.toDigits 16 number
  String.ofList (List.replicate (width - digits.length) '0' ++ digits)

/-- A number in hexadecimal, upper case, with at least the given count of digits. -/
def upperHex (width number : Nat) : String :=
  String.ofList ((hex width number).toList.map Char.toUpper)

end Numeral
end Guidebook
