import Guidebook.Json.Failure
import Guidebook.Text.Numeral

namespace Guidebook
namespace Json

/-!
# Words and texts

What stands between brackets: blanks, words and quoted texts.  A text is read
strictly, so that every accepted text is a sequence of Unicode characters: an
escape of half a character is refused unless the other half follows.

A step of a reader may take several characters.  Its steps are counted by a
clock, a list of characters that loses one in each step; the text itself is long
enough for that, and nothing has to be measured.
-/

/-- The blanks of the format. -/
def isBlank (character : Char) : Bool :=
  character == ' ' || character == '\n' || character == '\t' || character == '\r'

/-- Drop the blanks at the front. -/
def afterBlanks (text : List Char) : List Char :=
  text.dropWhile isBlank

/-- Read a word letter by letter. -/
def word : List Char -> Reader Unit
  | [], left => .ok ((), left)
  | _ :: _, [] => .error (.here .unfinishedValue [])
  | letter :: letters, character :: left =>
    if character = letter then word letters left
    else .error (.placed .expectedWord (character :: left) 1)

/-! ## Escapes -/

/-- The number that four hexadecimal digits write.  Four bytes are taken before
they are looked at, so a character of several bytes may be cut. -/
def hexWord (text : List Char) : Except Failure (Nat × List Char) :=
  let refused : Failure :=
    if Failure.size (text.take 4) < 4 then .here .unfinishedString []
    else .placed .invalidEscape text 4
  match text with
  | first :: second :: third :: fourth :: left =>
    match Numeral.hexValue? first, Numeral.hexValue? second,
        Numeral.hexValue? third, Numeral.hexValue? fourth with
    | some a, some b, some c, some d => .ok (((a * 16 + b) * 16 + c) * 16 + d, left)
    | _, _, _, _ => .error refused
  | _ => .error refused

/-- The first half of a character beyond the basic plane. -/
def isHighHalf (number : Nat) : Bool :=
  0xD800 ≤ number && number ≤ 0xDBFF

/-- The second half of a character beyond the basic plane. -/
def isLowHalf (number : Nat) : Bool :=
  0xDC00 ≤ number && number ≤ 0xDFFF

/-- The character that two halves make. -/
def joined (high low : Nat) : Char :=
  Char.ofNat ((high - 0xD800) * 1024 + (low - 0xDC00) + 0x10000)

/-- Read the second half, which must be escaped like the first. -/
def lowHalf (high : Nat) : List Char -> Except Failure (Char × List Char)
  | [] => .error (.here .unfinishedString [])
  | '\\' :: [] => .error (.here .unfinishedString [])
  | '\\' :: 'u' :: text =>
    match hexWord text with
    | .ok (low, left) =>
      if isLowHalf low then .ok (joined high low, left) else .error (.here .loneSurrogate left)
    | .error failure => .error failure
  | '\\' :: left => .error (.placed .unfinishedEscape left 1)
  | left => .error (.placed .unfinishedEscape left 1)

/-- Read a numbered escape, behind its letter. -/
def numbered (text : List Char) : Except Failure (Char × List Char) :=
  match hexWord text with
  | .ok (number, left) =>
    if isLowHalf number then .error (.here .loneSurrogate left)
    else if isHighHalf number then lowHalf number left
    else .ok (Char.ofNat number, left)
  | .error failure => .error failure

/-- The character that a letter escapes, the numbered escapes aside. -/
def escaped? : Char -> Option Char
  | '"' => some '"'
  | '\\' => some '\\'
  | '/' => some '/'
  | 'b' => some '\x08'
  | 'f' => some '\x0c'
  | 'n' => some '\n'
  | 'r' => some '\r'
  | 't' => some '\t'
  | _ => none

/-- Read an escape, behind its backslash. -/
def unescape : List Char -> Except Failure (Char × List Char)
  | [] => .error (.here .unfinishedString [])
  | 'u' :: text => numbered text
  | letter :: left =>
    match escaped? letter with
    | some character => .ok (character, left)
    | none => .error (.placed .invalidEscape (letter :: left) 1)

/-! ## Texts -/

/-- Read the characters of a text and its closing quote.  A step takes a
character at least, so the characters that are left serve as the clock. -/
def charactersFrom : (clock : List Char) -> Reader (List Char)
  | [], left => .error (.here .unfinishedString left)
  | _ :: _, [] => .error (.here .unfinishedString [])
  | _ :: _, '"' :: left => .ok ([], left)
  | _ :: clock, '\\' :: text =>
    match unescape text with
    | .ok (character, left) =>
      (charactersFrom clock left).map fun (characters, left) => (character :: characters, left)
    | .error failure => .error failure
  | _ :: clock, character :: left =>
    if character.toNat < 0x20 then .error (.placed .controlCharacter (character :: left) 1)
    else
      (charactersFrom clock left).map fun (characters, left) => (character :: characters, left)

/-- Read a text behind its opening quote. -/
def quoted : Reader String := fun text =>
  (charactersFrom text text).map fun (characters, left) =>
    (String.ofList characters, left)

end Json
end Guidebook
