import Guidebook.Decimal.Reading
import Guidebook.Toml.Lexeme
import Guidebook.Toml.Value

namespace Guidebook
namespace Toml

/-!
# Numbers

An integer is a signed word of sixty-four bits, written in decimal or, without
a sign, in another base.  A number with a fraction or an exponent is binary.
Single underscores may stand between digits.  A number too large for either
type is refused, though one too far below zero is the negative infinity.
-/

namespace Number

/-- Read a run of digits with single underscores between them. -/
def digits (isDigit : Char -> Bool) : List Char -> List Char × List Char
  | [] => ([], [])
  | '_' :: digit :: left =>
    if isDigit digit then
      let (more, left) := digits isDigit left
      (digit :: more, left)
    else ([], '_' :: digit :: left)
  | digit :: left =>
    if isDigit digit then
      let (more, left) := digits isDigit left
      (digit :: more, left)
    else ([], digit :: left)

/-- Read a run of digits that does not start with an underscore. -/
def run? (isDigit : Char -> Bool) : Reader (List Char) := fun text =>
  match text with
  | first :: _ => if isDigit first then some (digits isDigit text) else none
  | [] => none

/-- The digits of a whole number, of which only a single one may be zero at
the front. -/
def whole? : Reader (List Char)
  | '0' :: left => some (['0'], left)
  | text => run? Numeral.isDigit text

/-- The integer of a word of sixty-four bits, if it fits. -/
def word? (number : Int) : Option Value :=
  if Numeral.wordLeast ≤ number && number ≤ Numeral.wordGreatest then some (.integer number)
  else none

/-- The value of digits in a base. -/
def value (base : Nat) (digits : List Char) : Nat :=
  digits.foldl (fun total digit => total * base + (Numeral.hexValue? digit).getD 0) 0

/-- Read a number in another base, behind its mark. -/
def based? (base : Nat) : Reader Value := fun text => do
  let isDigit (digit : Char) : Bool := (Numeral.hexValue? digit).any (· < base)
  let (digits, left) <- run? isDigit text
  return (<- word? (value base digits), left)

/-- Read the sign of an exponent and its digits, behind its letter. -/
def exponent? : Reader (List Char)
  | '+' :: text => run? Numeral.isDigit text
  | '-' :: text => (run? Numeral.isDigit text).map fun (digits, left) => ('-' :: digits, left)
  | text => run? Numeral.isDigit text

/-- Whether the letter of an exponent comes next. -/
def exponentNext : List Char -> Bool
  | [] => false
  | character :: _ => character == 'e' || character == 'E'

/-- The binary number that plain characters write. -/
def float? (characters : List Char) : Option Value := do
  let number <- Decimal.float? characters
  if number == 1 / 0 then none else return .float number

/-- Read what follows the whole part of a decimal number. -/
def rest? (negative : Bool) (whole : List Char) : Reader Value := fun text =>
  let sign := if negative then ['-'] else []
  let ended (digits : List Char) : Reader Value := fun text =>
    if exponentNext text then do
      let (exponent, left) <- exponent? (text.drop 1)
      return (<- float? (sign ++ digits ++ 'e' :: exponent), left)
    else do return (<- float? (sign ++ digits), text)
  match text with
  | '.' :: text => do
    let (fraction, left) <- run? Numeral.isDigit text
    ended (whole ++ '.' :: fraction) left
  | text =>
    if exponentNext text then ended whole text
    else do
      let size : Int := Numeral.value whole
      return (<- word? (if negative then -size else size), text)

/-- Read a number behind its sign. -/
def unsigned? (negative : Bool) : Reader Value
  | 'i' :: 'n' :: 'f' :: left => some (.float (if negative then -1 / 0 else 1 / 0), left)
  | 'n' :: 'a' :: 'n' :: left => some (.float (0 / 0), left)
  | text => do
    let (whole, left) <- whole? text
    rest? negative whole left

end Number

/-- Read a number. -/
def number? : Reader Value
  | '0' :: 'x' :: text => Number.based? 16 text
  | '0' :: 'o' :: text => Number.based? 8 text
  | '0' :: 'b' :: text => Number.based? 2 text
  | '+' :: text => Number.unsigned? false text
  | '-' :: text => Number.unsigned? true text
  | text => Number.unsigned? false text

end Toml
end Guidebook
