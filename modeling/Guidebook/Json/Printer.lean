import Guidebook.Decimal.Style
import Guidebook.Json.Value
import Guidebook.Text.Numeral

namespace Guidebook
namespace Json

/-!
# Printing

A value has a compact form on one line and a form with one element or field on
each line, indented by two spaces for every open bracket.  Empty brackets stay
together in both.  In a text the quote, the backslash and the characters below
the space are escaped, and nothing else is.
-/

/-- One character as it stands in a text. -/
def escape (character : Char) : List Char :=
  match character with
  | '"' => ['\\', '"']
  | '\\' => ['\\', '\\']
  | '\x08' => ['\\', 'b']
  | '\x0c' => ['\\', 'f']
  | '\n' => ['\\', 'n']
  | '\r' => ['\\', 'r']
  | '\t' => ['\\', 't']
  | other =>
    if other.toNat < 0x20 then
      ['\\', 'u', '0', '0', Numeral.hexDigit (other.toNat / 16), Numeral.hexDigit (other.toNat % 16)]
    else [other]

/-- A text between its quotes. -/
def quote (text : String) : List Char :=
  '"' :: text.toList.flatMap escape ++ ['"']

/-- Where line breaks and spaces stand. -/
structure Layout where
  /-- What stands before an element or a closing bracket, by the number of
  brackets open around it. -/
  line : Nat -> List Char
  /-- What stands between the name and the value of a field. -/
  colon : List Char

/-- Everything on one line and without spaces. -/
def Layout.compact : Layout := ⟨fun _ => [], [':']⟩

/-- One element on each line. -/
def Layout.indented : Layout :=
  ⟨fun depth => '\n' :: List.replicate (2 * depth) ' ', [':', ' ']⟩

namespace Value

mutual
/-- The characters of a value that stands inside so many brackets. -/
def characters (layout : Layout) (depth : Nat) : Value -> List Char
  | .null => "null".toList
  | .boolean value => (toString value).toList
  | .integer value => (toString value).toList
  | .float value => (Decimal.text Decimal.compact value).toList
  | .text value => quote value
  | .list [] => ['[', ']']
  | .list (first :: rest) =>
    '[' :: layout.line (depth + 1) ++ characters layout (depth + 1) first
      ++ charactersOfElements layout (depth + 1) rest ++ layout.line depth ++ [']']
  | .object [] => ['\x7b', '\x7d']
  | .object ((name, value) :: rest) =>
    '\x7b' :: layout.line (depth + 1) ++ quote name ++ layout.colon
      ++ characters layout (depth + 1) value
      ++ charactersOfFields layout (depth + 1) rest ++ layout.line depth ++ ['\x7d']

/-- The characters of elements that follow another one. -/
def charactersOfElements (layout : Layout) (depth : Nat) : List Value -> List Char
  | [] => []
  | first :: rest =>
    ',' :: layout.line depth ++ characters layout depth first
      ++ charactersOfElements layout depth rest

/-- The characters of fields that follow another one. -/
def charactersOfFields (layout : Layout) (depth : Nat) : List (String × Value) -> List Char
  | [] => []
  | (name, value) :: rest =>
    ',' :: layout.line depth ++ quote name ++ layout.colon ++ characters layout depth value
      ++ charactersOfFields layout depth rest
end

/-- The compact form. -/
def compact (value : Value) : String :=
  String.ofList (characters .compact 0 value)

/-- The form on many lines. -/
def indented (value : Value) : String :=
  String.ofList (characters .indented 0 value)

end Value
end Json
end Guidebook
