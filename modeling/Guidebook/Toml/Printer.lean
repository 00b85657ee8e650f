import Guidebook.Text.Numeral

namespace Guidebook
namespace Toml

/-!
# Printing

A text is written in the first spelling that needs no escape: quoted, literal,
quoted on many lines, literal on many lines.  Where none does, it is quoted with
escapes, on many lines if it has line breaks.  A tabulator asks for no escape
when the spelling is chosen, but is escaped in a quoted text all the same.
-/

/-- The spellings of a text. -/
inductive Spelling where
  | quoted
  | literal
  | quotedLines
  | literalLines
deriving Repr, DecidableEq

/-- The longest run of a character in a text, given the run that ends before it. -/
def longestRun (character : Char) : (run : Nat) -> List Char -> Nat
  | run, [] => run
  | run, first :: rest =>
    if first = character then longestRun character (run + 1) rest
    else max run (longestRun character 0 rest)

/-- The characters that have to be escaped in every spelling. -/
def isControl (character : Char) : Bool :=
  (character.toNat < 0x20 && character ≠ '\t' && character ≠ '\n') || character.toNat = 0x7F

namespace Spelling

/-- Whether a text can be written in a spelling without escapes. -/
def suits (text : List Char) : Spelling -> Bool
  | .quoted => !text.any isControl && !text.contains '\\' && !text.contains '"'
      && !text.contains '\n'
  | .literal => !text.any isControl && !text.contains '\'' && !text.contains '\n'
  | .quotedLines => !text.any isControl && !text.contains '\\' && longestRun '"' 0 text ≤ 2
  | .literalLines => !text.any isControl && longestRun '\'' 0 text ≤ 2

/-- The spelling of a text. -/
def of (text : List Char) : Spelling :=
  if suits text .quoted then .quoted
  else if suits text .literal then .literal
  else if suits text .quotedLines then .quotedLines
  else if suits text .literalLines then .literalLines
  else if text.contains '\n' then .quotedLines
  else .quoted

/-- The quotes at either end. -/
def quotes : Spelling -> List Char
  | .quoted => ['"']
  | .literal => ['\'']
  | .quotedLines => ['"', '"', '"']
  | .literalLines => ['\'', '\'', '\'']

end Spelling

/-- One character, other than the quote, as it stands in a quoted text. -/
def escape (lines : Bool) (character : Char) : List Char :=
  match character with
  | '\x08' => ['\\', 'b']
  | '\t' => ['\\', 't']
  | '\n' => if lines then ['\n'] else ['\\', 'n']
  | '\x0c' => ['\\', 'f']
  | '\r' => ['\\', 'r']
  | '\\' => ['\\', '\\']
  | other =>
    if isControl other then '\\' :: 'u' :: (Numeral.upperHex 4 other.toNat).toList else [other]

/-- The characters of a quoted text.  On many lines two quotes may stand
together, and the next one is escaped. -/
def escapeFrom (lines : Bool) : (run : Nat) -> List Char -> List Char
  | _, [] => []
  | run, '"' :: rest =>
    if lines && run < 2 then '"' :: escapeFrom lines (run + 1) rest
    else '\\' :: '"' :: escapeFrom lines 0 rest
  | _, character :: rest => escape lines character ++ escapeFrom lines 0 rest

/-- A text in a spelling.  On many lines a text with line breaks starts on a
line of its own. -/
def spell (text : List Char) (spelling : Spelling) : List Char :=
  let opening := if text.contains '\n' then ['\n'] else []
  spelling.quotes ++ (match spelling with
    | .quoted => escapeFrom false 0 text
    | .literal => text
    | .quotedLines => opening ++ escapeFrom true 0 text
    | .literalLines => opening ++ text) ++ spelling.quotes

/-- A text as it is written. -/
def writeText (text : String) : List Char :=
  spell text.toList (Spelling.of text.toList)

/-- A list of texts: on one line with fewer than two elements, or else with
each element on a line of its own. -/
def writeTexts : List String -> List Char
  | [] => ['[', ']']
  | [only] => '[' :: writeText only ++ [']']
  | many =>
    ['[', '\n'] ++ many.flatMap (fun text => ' ' :: ' ' :: ' ' :: ' ' :: writeText text ++ [',', '\n'])
      ++ [']']

/-- An entry on a line of its own. -/
def writeEntry (key : String) (value : List Char) : List Char :=
  key.toList ++ [' ', '=', ' '] ++ value ++ ['\n']

end Toml
end Guidebook
