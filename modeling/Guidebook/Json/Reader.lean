import Guidebook.Decimal.Style
import Guidebook.Json.Lexeme
import Guidebook.Json.Number
import Guidebook.Json.Skip
import Guidebook.Json.Value

namespace Guidebook
namespace Json

/-!
# Readers

A record is written as an object with its fields in any order, or as the list of
its fields.  Readers of records are put together here from readers of what they
hold.  How deeply brackets may be nested is part of each reader: where no more
may be opened there is no reader of the inside, and an opening bracket is the
failure.
-/

variable {Result Gathered : Type}

/-- So many brackets may stand open at once. -/
def nestingLimit : Nat := 127

/-! ## Values of the wrong type -/

/-- What a number is found as. -/
def Number.found : Number -> Found
  | .integer value => .integer value
  | .float value => .float (Decimal.text Decimal.compact value)

/-- Fail on a value that is not of the type wanted.  A value without brackets is
read to its end first, which may fail in its own way. -/
def wrongType (wanted : String) (text : List Char) : Failure :=
  let settle (found : Found) (left : List Char) : Failure :=
    .mismatched (.wrongType found wanted) left
  match text with
  | [] => .here .expectedValue []
  | 'n' :: rest =>
    match word ['u', 'l', 'l'] rest with
    | .ok (_, left) => settle .null left
    | .error failure => failure
  | 't' :: rest =>
    match word ['r', 'u', 'e'] rest with
    | .ok (_, left) => settle (.boolean true) left
    | .error failure => failure
  | 'f' :: rest =>
    match word ['a', 'l', 's', 'e'] rest with
    | .ok (_, left) => settle (.boolean false) left
    | .error failure => failure
  | '"' :: rest =>
    match quoted rest with
    | .ok (value, left) => settle (.text value) left
    | .error failure => failure
  | '[' :: _ => settle .sequence text
  | '\x7b' :: _ => settle .map text
  | first :: _ =>
    if first = '-' || Numeral.isDigit first then
      match number text with
      | .ok (value, left) => settle value.found left
      | .error failure => failure
    else .next .expectedValue text

/-! ## Brackets -/

/-- Read the end of a list. -/
def listEnd (text : List Char) : Except Failure (List Char) :=
  match afterBlanks text with
  | [] => .error (.here .unfinishedList [])
  | ']' :: left => .ok left
  | ',' :: rest =>
    match afterBlanks rest with
    | ']' :: left => .error (.next .trailingComma (']' :: left))
    | left => .error (.next .trailingCharacters left)
  | left => .error (.next .trailingCharacters left)

/-- Read the end of an object. -/
def objectEnd (text : List Char) : Except Failure (List Char) :=
  match afterBlanks text with
  | [] => .error (.here .unfinishedObject [])
  | '\x7d' :: left => .ok left
  | ',' :: left => .error (.next .trailingComma (',' :: left))
  | left => .error (.next .trailingCharacters left)

/-- Where a mismatch inside a list is placed: behind the end of the list if it
comes next, or else behind a comma. -/
def listPlace (text : List Char) : List Char :=
  match afterBlanks text with
  | ']' :: left => left
  | ',' :: left => afterBlanks left
  | left => left

/-- Where a mismatch inside an object is placed: behind the end of the object if
it comes next. -/
def objectPlace (text : List Char) : List Char :=
  match afterBlanks text with
  | '\x7d' :: left => left
  | left => left

/-- Close a list whose inside was read. -/
def closeList (inside : Except Failure (Result × List Char)) : Except Failure (Result × List Char) :=
  match inside with
  | .ok (value, left) => (listEnd left).map fun left => (value, left)
  | .error failure => .error (failure.settle listPlace)

/-- Close an object whose inside was read. -/
def closeObject (inside : Except Failure (Result × List Char)) :
    Except Failure (Result × List Char) :=
  match inside with
  | .ok (value, left) => (objectEnd left).map fun left => (value, left)
  | .error failure => .error (failure.settle objectPlace)

/-- Whether another element comes, with the characters from it on. -/
def nextElement (first : Bool) (text : List Char) : Except Failure (Option (List Char)) :=
  match afterBlanks text with
  | [] => .error (.here .unfinishedList [])
  | ']' :: _ => .ok none
  | left =>
    if first then .ok (some left)
    else
      match left with
      | ',' :: rest =>
        match afterBlanks rest with
        | [] => .error (.here .unfinishedValue [])
        | ']' :: left => .error (.next .trailingComma (']' :: left))
        | left => .ok (some left)
      | left => .error (.next .expectedListEnd left)

/-- Whether another field comes, with the characters behind the quote that
opens its name. -/
def nextName (first : Bool) (text : List Char) : Except Failure (Option (List Char)) :=
  match afterBlanks text with
  | [] => .error (.here .unfinishedObject [])
  | '\x7d' :: _ => .ok none
  | left =>
    if first then
      match left with
      | '"' :: left => .ok (some left)
      | left => .error (.next .keyNotText left)
    else
      match left with
      | ',' :: rest =>
        match afterBlanks rest with
        | [] => .error (.here .unfinishedValue [])
        | '"' :: left => .ok (some left)
        | '\x7d' :: left => .error (.next .trailingComma ('\x7d' :: left))
        | left => .error (.next .keyNotText left)
      | left => .error (.next .expectedObjectEnd left)

/-- Read the colon between the name and the value of a field. -/
def colon (text : List Char) : Except Failure (List Char) :=
  match afterBlanks text with
  | [] => .error (.here .unfinishedObject [])
  | ':' :: left => .ok left
  | left => .error (.next .expectedColon left)

/-- Read the elements of a list up to its end.  An element takes a character at
least, so the characters that are left serve as the clock. -/
def elementsFrom (element : Reader Result) :
    (clock : List Char) -> (first : Bool) -> Reader (List Result)
  | [], _, left => .error (.here .unfinishedList left)
  | _ :: clock, first, text => do
    match <- nextElement first text with
    | none => return ([], text)
    | some left =>
      let (value, left) <- element left
      let (values, left) <- elementsFrom element clock false left
      return (value :: values, left)

/-- Read the elements of a list behind its opening bracket. -/
def elements (element : Reader Result) : Reader (List Result) := fun text =>
  elementsFrom element text true text

/-- Read the fields of an object up to its end.  `field` is given the name of
a field with what was gathered before, and reads from the colon on.  A field
takes a character at least, so the characters that are left serve as the clock. -/
def fieldsFrom (field : String -> Gathered -> Reader Gathered) :
    (clock : List Char) -> (first : Bool) -> Gathered -> Reader Gathered
  | [], _, _, left => .error (.here .unfinishedObject left)
  | _ :: clock, first, gathered, text => do
    match <- nextName first text with
    | none => return (gathered, text)
    | some left =>
      let (name, left) <- quoted left
      let (gathered, left) <- field name gathered left
      fieldsFrom field clock false gathered left

/-- Read the fields of an object behind its opening bracket. -/
def fields (field : String -> Gathered -> Reader Gathered) (start : Gathered) :
    Reader Gathered := fun text =>
  fieldsFrom field text true start text

/-! ## Typed values -/

/-- Readers of the inside of a record, for each of its two spellings. -/
structure Inside (Result : Type) where
  listed : Reader Result
  named : Reader Result

/-- Read a record, whose inside is given unless no bracket may be opened. -/
def record (wanted : String) (inside : Option (Inside Result)) : Reader Result := fun text =>
  match afterBlanks text, inside with
  | [], _ => .error (.here .unfinishedValue [])
  | '[' :: rest, some inside => closeList (inside.listed rest)
  | '\x7b' :: rest, some inside => closeObject (inside.named rest)
  | '[' :: rest, none => .error (.next .tooNested ('[' :: rest))
  | '\x7b' :: rest, none => .error (.next .tooNested ('\x7b' :: rest))
  | left, _ => .error (wrongType wanted left)

/-- Read a list, whose elements are given unless no bracket may be opened. -/
def sequence (element : Option (Reader Result)) : Reader (List Result) := fun text =>
  match afterBlanks text, element with
  | [], _ => .error (.here .unfinishedValue [])
  | '[' :: rest, some element => closeList (elements element rest)
  | '[' :: rest, none => .error (.next .tooNested ('[' :: rest))
  | left, _ => .error (wrongType "a sequence" left)

/-- Read a text. -/
def string (wanted : String) : Reader String := fun text =>
  match afterBlanks text with
  | [] => .error (.here .unfinishedValue [])
  | '"' :: rest => quoted rest
  | left => .error (wrongType wanted left)

/-- The field of a record that is given once: it is read when it is new. -/
def once (name : String) (seen : Option Result) (value : Reader Result) : Reader (Option Result) :=
  fun text =>
    match seen with
    | some _ => .error (.waiting (.repeatedField name) text)
    | none => do
      let left <- colon text
      let (value, left) <- value left
      return (some value, left)

/-- A field that nobody asks for. -/
def ignored (gathered : Gathered) : Reader Gathered := fun text => do
  let left <- colon text
  let (_, left) <- skip left
  return (gathered, left)

/-- Read the next element of a record that is written as a list, if there is one. -/
def item (first : Bool) (value : Reader Result) : Reader (Option Result) := fun text => do
  match <- nextElement first text with
  | none => return (none, text)
  | some left =>
    let (value, left) <- value left
    return (some value, left)

/-! ## Any value -/

/-- A number as a value. -/
def Number.toValue : Number -> Value
  | .integer value => .integer value
  | .float value => .float value

/-- A field of an object that is kept whatever its name. -/
def kept (value : Reader Value) (name : String) (gathered : List (String × Value)) :
    Reader (List (String × Value)) := fun text => do
  let left <- colon text
  let (value, left) <- value left
  return ((name, value) :: gathered, left)

/-- Read any value that is no bracket. -/
def scalar : Reader Value
  | [] => .error (.here .unfinishedValue [])
  | 'n' :: text => (word ['u', 'l', 'l'] text).map fun (_, left) => (.null, left)
  | 't' :: text => (word ['r', 'u', 'e'] text).map fun (_, left) => (.boolean true, left)
  | 'f' :: text => (word ['a', 'l', 's', 'e'] text).map fun (_, left) => (.boolean false, left)
  | '"' :: text => (quoted text).map fun (value, left) => (.text value, left)
  | first :: text =>
    if first = '-' || Numeral.isDigit first then
      (number (first :: text)).map fun (value, left) => (value.toValue, left)
    else .error (.next .expectedValue (first :: text))

/-- Read any value, with so many brackets that may be opened. -/
def value : (nesting : Nat) -> Reader Value
  | 0, text =>
    match afterBlanks text with
    | '[' :: rest => .error (.next .tooNested ('[' :: rest))
    | '\x7b' :: rest => .error (.next .tooNested ('\x7b' :: rest))
    | left => scalar left
  | nesting + 1, text =>
    match afterBlanks text with
    | '[' :: rest =>
      (closeList (elements (value nesting) rest)).map fun (values, left) => (.list values, left)
    | '\x7b' :: rest =>
      (closeObject (fields (kept (value nesting)) [] rest)).map fun (gathered, left) =>
        (.object gathered.reverse, left)
    | left => scalar left

/-- Read a whole text: nothing but blanks may follow the value. -/
def whole (reader : Reader Result) (text : String) : Except Failure Result := do
  let (value, left) <- reader text.toList
  match afterBlanks left with
  | [] => return value
  | left => throw (.next .trailingCharacters left)

end Json
end Guidebook
