import Guidebook.Toml.Lexeme

namespace Guidebook
namespace Toml

/-!
# Dates and times

A date, a time, or both with an optional offset.  The numbers are checked, up
to the length of each month, and then dropped: nothing is done with a moment
but to tell that it is one.
-/

namespace Moment

/-- Read a number of exactly so many digits, within bounds. -/
def digits? (count least greatest : Nat) : Reader Nat := fun text =>
  let digits := text.take count
  let number := Numeral.value digits
  if digits.length = count && digits.all Numeral.isDigit && least ≤ number && number ≤ greatest
  then some (number, text.drop count)
  else none

/-- Pass over a character. -/
def pass? (wanted : Char) : List Char -> Option (List Char)
  | character :: left => if character = wanted then some left else none
  | [] => none

/-- Every fourth year is a leap year, except that of the centuries only every
fourth is. -/
def isLeap (year : Nat) : Bool :=
  year % 4 = 0 && (year % 100 ≠ 0 || year % 400 = 0)

/-- The number of days of a month. -/
def days (year month : Nat) : Nat :=
  if month = 2 then (if isLeap year then 29 else 28)
  else if month = 4 || month = 6 || month = 9 || month = 11 then 30
  else 31

/-- What follows a date. -/
def afterDate? (text : List Char) : Option (List Char) := do
  let (year, left) <- digits? 4 0 9999 text
  let (month, left) <- digits? 2 1 12 (<- pass? '-' left)
  let (_, left) <- digits? 2 1 (days year month) (<- pass? '-' left)
  return left

/-- What follows the fraction of a second. -/
def afterFraction? : List Char -> Option (List Char)
  | '.' :: digit :: left =>
    if Numeral.isDigit digit then some (left.dropWhile Numeral.isDigit) else none
  | '.' :: [] => none
  | left => some left

/-- What follows a time of the day. -/
def afterTime? (text : List Char) : Option (List Char) := do
  let (_, left) <- digits? 2 0 23 text
  let (_, left) <- digits? 2 0 59 (<- pass? ':' left)
  let (_, left) <- digits? 2 0 60 (<- pass? ':' left)
  afterFraction? left

/-- What follows an hour and a minute. -/
def afterOffset? (text : List Char) : Option (List Char) := do
  let (_, left) <- digits? 2 0 23 text
  let (_, left) <- digits? 2 0 59 (<- pass? ':' left)
  return left

/-- What follows an offset, which need not be there. -/
def afterZone? : List Char -> Option (List Char)
  | 'Z' :: left => some left
  | 'z' :: left => some left
  | '+' :: text => afterOffset? text
  | '-' :: text => afterOffset? text
  | left => some left

/-- Whether a character may stand between a date and a time. -/
def isBetween (character : Char) : Bool :=
  character == 'T' || character == 't' || character == ' '

/-- What follows the time and the offset of a date, if there are any. -/
def afterRest (text : List Char) : List Char :=
  match text with
  | between :: time =>
    if isBetween between then ((afterTime? time).bind afterZone?).getD text else text
  | [] => []

/-- What follows a moment. -/
def after? (text : List Char) : Option (List Char) :=
  match afterDate? text with
  | some left => some (afterRest left)
  | none => afterTime? text

end Moment
end Toml
end Guidebook
