import Guidebook.Text.Numeral

namespace Guidebook
namespace Toml

/-!
# Blanks, texts and keys

A text has four spellings: quoted or literal, on one line or on many.  A quoted
text has escapes and a literal one has none.  In a text on many lines the first
line break is dropped, every other is one newline, and up to two quotes may
stand anywhere, also just before the closing three.

No reader here says why it fails, since all their faults are reported alike.
Where a step may take several characters, a clock counts the steps: a list of
characters that loses one in each of them, for which the text itself will do.
-/

/-- A reader takes characters from the front and leaves the others. -/
abbrev Reader (Result : Type) := List Char -> Option (Result × List Char)

/-! ## Blanks and lines -/

/-- The blanks within a line. -/
def isBlank (character : Char) : Bool :=
  character == ' ' || character == '\t'

/-- Drop the blanks at the front. -/
def afterBlanks (text : List Char) : List Char :=
  text.dropWhile isBlank

/-- What follows a line break. -/
def afterBreak? : List Char -> Option (List Char)
  | '\n' :: left => some left
  | '\r' :: '\n' :: left => some left
  | _ => none

/-- The characters that may stand anywhere: all but the controls, of which the
tabulator is none. -/
def isPlain (character : Char) : Bool :=
  character == '\t' || (0x20 ≤ character.toNat && character.toNat ≠ 0x7F)

/-- What follows a comment, if one starts here. -/
def afterComment : List Char -> List Char
  | '#' :: text => text.dropWhile isPlain
  | text => text

/-- What follows the end of a line: blanks, a comment, and a line break or the
end of the text. -/
def afterLine? (text : List Char) : Option (List Char) :=
  match afterComment (afterBlanks text) with
  | [] => some []
  | left => afterBreak? left

/-- Drop blanks, line breaks and whole lines of comment.  A line takes a
character at least, so the characters that are left serve as the clock. -/
def afterLinesFrom : (clock : List Char) -> List Char -> List Char
  | [], text => text
  | _ :: clock, text =>
    let text := afterBlanks text
    match afterBreak? (afterComment text) with
    | some left => afterLinesFrom clock left
    | none => text

/-- Drop blanks, line breaks and whole lines of comment. -/
def afterLines (text : List Char) : List Char :=
  afterLinesFrom text text

/-- Drop blanks and line breaks. -/
def afterSpace : List Char -> List Char
  | ' ' :: left => afterSpace left
  | '\t' :: left => afterSpace left
  | '\n' :: left => afterSpace left
  | '\r' :: '\n' :: left => afterSpace left
  | left => left

/-! ## Escapes -/

/-- The number that hexadecimal digits write, if there are so many. -/
def hexNumber? (digits : Nat) (text : List Char) : Option (Nat × List Char) := do
  let values <- (text.take digits).mapM Numeral.hexValue?
  if values.length = digits then
    return (values.foldl (fun total value => total * 16 + value) 0, text.drop digits)
  else none

/-- The character with a code point, if it has one. -/
def character? (point : Nat) : Option Char :=
  if point.isValidChar then some (Char.ofNat point) else none

/-- Read an escape behind its backslash. -/
def unescape? : Reader Char
  | 'b' :: left => some ('\x08', left)
  | 'f' :: left => some ('\x0c', left)
  | 'n' :: left => some ('\n', left)
  | 'r' :: left => some ('\r', left)
  | 't' :: left => some ('\t', left)
  | '"' :: left => some ('"', left)
  | '\\' :: left => some ('\\', left)
  | 'u' :: text => do
    let (point, left) <- hexNumber? 4 text
    return (<- character? point, left)
  | 'U' :: text => do
    let (point, left) <- hexNumber? 8 text
    return (<- character? point, left)
  | _ => none

/-! ## Texts -/

/-- Put a character in front of what a reader returned. -/
def prepend (character : Char) (read : Option (List Char × List Char)) :
    Option (List Char × List Char) :=
  read.map fun (characters, left) => (character :: characters, left)

/-- Read a quoted text on one line, behind its opening quote.  The characters
that are left serve as the clock. -/
def quotedFrom : (clock : List Char) -> Reader (List Char)
  | [], _ => none
  | _ :: _, '"' :: left => some ([], left)
  | _ :: clock, '\\' :: text => do
    let (character, left) <- unescape? text
    prepend character (quotedFrom clock left)
  | _ :: clock, character :: left =>
    if isPlain character then prepend character (quotedFrom clock left) else none
  | _ :: _, [] => none

/-- Read a literal text on one line, behind its opening quote. -/
def literal? : Reader (List Char)
  | '\'' :: left => some ([], left)
  | character :: left => if isPlain character then prepend character (literal? left) else none
  | [] => none

/-- Read a quoted text on many lines, behind the line break that is dropped.
The characters that are left serve as the clock. -/
def quotedLinesFrom : (clock : List Char) -> Reader (List Char)
  | [], _ => none
  | _ :: _, '"' :: '"' :: '"' :: '"' :: '"' :: left => some (['"', '"'], left)
  | _ :: _, '"' :: '"' :: '"' :: '"' :: left => some (['"'], left)
  | _ :: _, '"' :: '"' :: '"' :: left => some ([], left)
  | _ :: clock, '\\' :: text =>
    match afterBreak? (afterBlanks text) with
    | some left => quotedLinesFrom clock (afterSpace left)
    | none => do
      let (character, left) <- unescape? text
      prepend character (quotedLinesFrom clock left)
  | _ :: clock, '\n' :: left => prepend '\n' (quotedLinesFrom clock left)
  | _ :: clock, '\r' :: '\n' :: left => prepend '\n' (quotedLinesFrom clock left)
  | _ :: clock, character :: left =>
    if isPlain character then prepend character (quotedLinesFrom clock left) else none
  | _ :: _, [] => none

/-- Read a literal text on many lines, behind the line break that is dropped. -/
def literalLines? : Reader (List Char)
  | '\'' :: '\'' :: '\'' :: '\'' :: '\'' :: left => some (['\'', '\''], left)
  | '\'' :: '\'' :: '\'' :: '\'' :: left => some (['\''], left)
  | '\'' :: '\'' :: '\'' :: left => some ([], left)
  | '\n' :: left => prepend '\n' (literalLines? left)
  | '\r' :: '\n' :: left => prepend '\n' (literalLines? left)
  | character :: left =>
    if isPlain character then prepend character (literalLines? left) else none
  | [] => none

/-- Read a quoted text on one line, behind its opening quote. -/
def quoted? : Reader (List Char) := fun text => quotedFrom text text

/-- What follows the line break that opens a text on many lines, if there is one. -/
def afterOpening (text : List Char) : List Char :=
  (afterBreak? text).getD text

/-- Read a text in any spelling. -/
def text? : Reader String := fun text => do
  let (characters, left) <-
    match text with
    | '"' :: '"' :: '"' :: text =>
      let text := afterOpening text
      quotedLinesFrom text text
    | '"' :: text => quoted? text
    | '\'' :: '\'' :: '\'' :: text => literalLines? (afterOpening text)
    | '\'' :: text => literal? text
    | _ => none
  return (String.ofList characters, left)

/-! ## Keys -/

/-- The characters of a bare key. -/
def isBare (character : Char) : Bool :=
  Numeral.isDigit character || ('a' ≤ character && character ≤ 'z')
    || ('A' ≤ character && character ≤ 'Z') || character == '-' || character == '_'

/-- Read one part of a key: bare, or a text on one line. -/
def part? : Reader String := fun text =>
  match text with
  | '"' :: text => (quoted? text).map fun (characters, left) => (String.ofList characters, left)
  | '\'' :: text => (literal? text).map fun (characters, left) => (String.ofList characters, left)
  | text =>
    let bare := text.takeWhile isBare
    if bare.isEmpty then none else some (String.ofList bare, text.dropWhile isBare)

/-- Read the parts of a key, with points between them and blanks around each.  A
part takes a character at least, so the characters that are left serve as the
clock. -/
def partsFrom : (clock : List Char) -> Reader (List String)
  | [], _ => none
  | _ :: clock, text => do
    let (part, left) <- part? (afterBlanks text)
    match afterBlanks left with
    | '.' :: text =>
      let (parts, left) <- partsFrom clock text
      return (part :: parts, left)
    | left => return ([part], left)

/-- So many parts of a key, or brackets in each other, are too many. -/
def nestingBound : Nat := 80

/-- Read a key as the list of its parts. -/
def key? : Reader (List String) := fun text => do
  let (parts, left) <- partsFrom text text
  if parts.length < nestingBound then return (parts, left) else none

end Toml
end Guidebook
