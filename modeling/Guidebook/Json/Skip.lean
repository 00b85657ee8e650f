import Guidebook.Json.Lexeme
import Guidebook.Json.Number

namespace Guidebook
namespace Json

/-!
# Skipping

The value of a field that nobody asks for is passed over without being built.
The passing is laxer than reading: brackets may be nested to any depth, an
escape is not asked which character it makes, and a number has no size.  Its
state is the stack of open brackets and whether a value or a separator is due.
-/

namespace Skip

/-- Pass over the digits of an exponent behind its letter. -/
def exponentDigits : Reader Unit
  | [] => .error (.here .invalidNumber [])
  | first :: left =>
    if Numeral.isDigit first then .ok ((), left.dropWhile Numeral.isDigit)
    else .error (.placed .invalidNumber (first :: left) 1)

/-- Pass over an exponent behind its letter. -/
def exponent : Reader Unit
  | '+' :: text => exponentDigits text
  | '-' :: text => exponentDigits text
  | text => exponentDigits text

/-- Pass over an exponent, if there is one. -/
def ended : Reader Unit := fun text =>
  if Number.exponentNext text then exponent (text.drop 1) else .ok ((), text)

/-- Pass over a fraction and an exponent, as far as there are any. -/
def rest : Reader Unit
  | '.' :: text =>
    if Number.digitNext text then ended (text.dropWhile Numeral.isDigit)
    else .error (.next .invalidNumber text)
  | text => ended text

/-- Pass over a number behind its sign. -/
def unsigned : Reader Unit
  | [] => .error (.here .invalidNumber [])
  | '0' :: text =>
    if Number.digitNext text then .error (.next .invalidNumber text) else rest text
  | first :: text =>
    if Numeral.isDigit first then rest (text.dropWhile Numeral.isDigit)
    else .error (.placed .invalidNumber (first :: text) 1)

/-- Pass over an escape behind its backslash. -/
def escape : Reader Unit
  | [] => .error (.here .unfinishedString [])
  | 'u' :: text => (hexWord text).map fun (_, left) => ((), left)
  | letter :: left =>
    match escaped? letter with
    | some _ => .ok ((), left)
    | none => .error (.placed .invalidEscape (letter :: left) 1)

/-- Pass over the characters of a text and its closing quote.  The characters
that are left serve as the clock. -/
def charactersFrom : (clock : List Char) -> Reader Unit
  | [], left => .error (.here .unfinishedString left)
  | _ :: _, [] => .error (.here .unfinishedString [])
  | _ :: _, '"' :: left => .ok ((), left)
  | _ :: clock, '\\' :: text =>
    match escape text with
    | .ok (_, left) => charactersFrom clock left
    | .error failure => .error failure
  | _ :: clock, character :: left =>
    if character.toNat < 0x20 then .error (.here .controlCharacter (character :: left))
    else charactersFrom clock left

/-- Pass over a text behind its opening quote. -/
def quoted : Reader Unit := fun text => charactersFrom text text

/-- An open bracket. -/
inductive Bracket where
  | list
  | object
deriving DecidableEq

/-- The bracket that a character closes. -/
def Bracket.closedBy? : Char -> Option Bracket
  | ']' => some .list
  | '\x7d' => some .object
  | _ => none

/-- Fail because the text ends inside a bracket. -/
def Bracket.unfinished : Bracket -> Cause
  | .list => .unfinishedList
  | .object => .unfinishedObject

/-- Fail because neither a comma nor the closing bracket comes. -/
def Bracket.expectedEnd : Bracket -> Cause
  | .list => .expectedListEnd
  | .object => .expectedObjectEnd

/-- Pass over a name and its colon. -/
def name : Reader Unit := fun text =>
  match afterBlanks text with
  | [] => .error (.here .unfinishedObject [])
  | '"' :: text =>
    match quoted text with
    | .error failure => .error failure
    | .ok (_, left) =>
      match afterBlanks left with
      | [] => .error (.here .unfinishedObject [])
      | ':' :: left => .ok ((), left)
      | left => .error (.next .expectedColon left)
  | left => .error (.next .keyNotText left)

/-- Pass over the name of a field where the innermost bracket has names. -/
def nameIn : Bracket -> Reader Unit
  | .list, text => .ok ((), text)
  | .object, text => name text

/-- What is passed over next. -/
inductive Due where
  | value
  /-- A comma or a closing bracket, or the end when no bracket is open. -/
  | separator

/-- Pass over a value that is no bracket.  `none` says that a bracket comes. -/
def scalar? : List Char -> Option (Except Failure (Unit × List Char))
  | [] => some (.error (.here .unfinishedValue []))
  | 'n' :: text => some (word ['u', 'l', 'l'] text)
  | 't' :: text => some (word ['r', 'u', 'e'] text)
  | 'f' :: text => some (word ['a', 'l', 's', 'e'] text)
  | '"' :: text => some (quoted text)
  | '-' :: text => some (unsigned text)
  | '[' :: _ => none
  | '\x7b' :: _ => none
  | first :: text =>
    if Numeral.isDigit first then some (unsigned (first :: text))
    else some (.error (.next .expectedValue (first :: text)))

/-- The bracket that a character opens, a brace unless it is square. -/
def Bracket.openedBy : Char -> Bracket
  | '[' => .list
  | _ => .object

/-- Pass over the opening of a bracket: its closing, or the name of its first
field.  The answer is what is due next, with the brackets that stand open. -/
def opening (opened : Bracket) (brackets : List Bracket) : Reader (Due × List Bracket) :=
  fun text =>
    match afterBlanks text with
    | [] => .error (.here opened.unfinished [])
    | first :: left =>
      if Bracket.closedBy? first = some opened then .ok ((.separator, brackets), left)
      else
        (nameIn opened (first :: left)).map fun (_, left) => ((.value, opened :: brackets), left)

/-- Pass over a separator inside a bracket: a comma with the name of the next
field, or the closing. -/
def separator (bracket : Bracket) (brackets : List Bracket) : Reader (Due × List Bracket) :=
  fun text =>
    match afterBlanks text with
    | [] => .error (.here bracket.unfinished [])
    | ',' :: left =>
      (nameIn bracket left).map fun (_, left) => ((.value, bracket :: brackets), left)
    | first :: left =>
      if Bracket.closedBy? first = some bracket then .ok ((.separator, brackets), left)
      else .error (.next bracket.expectedEnd (first :: left))

/-- Pass over a value, or no more than the opening of a bracket. -/
def value (brackets : List Bracket) : Reader (Due × List Bracket) := fun text =>
  let text := afterBlanks text
  match scalar? text with
  | some passed => passed.map fun (_, left) => ((.separator, brackets), left)
  | none => opening (Bracket.openedBy (text.headD '[')) brackets (text.drop 1)

/-- Pass over what is due, with the brackets that stand open, innermost first.
A step takes a character at least, so the characters that are left serve as the
clock. -/
def passFrom : (clock : List Char) -> Due -> List Bracket -> Reader Unit
  | _, .separator, [], left => .ok ((), left)
  | [], .separator, bracket :: _, left => .error (.here bracket.unfinished left)
  | [], .value, _, left => .error (.here .unfinishedValue left)
  | _ :: clock, due, brackets, text => do
    let ((due, brackets), left) <-
      match due, brackets with
      | .separator, bracket :: brackets => separator bracket brackets text
      | _, brackets => value brackets text
    passFrom clock due brackets left

end Skip

/-- Pass over one value. -/
def skip : Reader Unit := fun text => Skip.passFrom text .value [] text

end Json
end Guidebook
