import Guidebook.Mismatch
import Guidebook.Text.Bytes

namespace Guidebook
namespace Json

/-!
# Failures of reading

A reader works on the characters that are left, so a failure names its place by
what was left there, with a number of bytes beyond it.  The line and the column
are worked out only when the failure is shown.

A mismatch is found after the value that causes it, and it has no place until
the bracket around it is closed.
-/

/-- What reading fails of. -/
inductive Cause where
  | unfinishedValue
  | unfinishedList
  | unfinishedObject
  | unfinishedString
  | expectedColon
  | expectedListEnd
  | expectedObjectEnd
  | expectedWord
  | expectedValue
  | controlCharacter
  | invalidEscape
  | invalidNumber
  | numberOutOfRange
  | keyNotText
  | loneSurrogate
  | unfinishedEscape
  | trailingComma
  | trailingCharacters
  | tooNested
  | unfit (mismatch : Mismatch)
deriving Repr, DecidableEq

/-- The cause in words. -/
def Cause.message : Cause -> String
  | .unfinishedValue => "EOF while parsing a value"
  | .unfinishedList => "EOF while parsing a list"
  | .unfinishedObject => "EOF while parsing an object"
  | .unfinishedString => "EOF while parsing a string"
  | .expectedColon => "expected `:`"
  | .expectedListEnd => "expected `,` or `]`"
  | .expectedObjectEnd => "expected `,` or `\x7d`"
  | .expectedWord => "expected ident"
  | .expectedValue => "expected value"
  | .controlCharacter => "control character (\\u0000-\\u001F) found while parsing a string"
  | .invalidEscape => "invalid escape"
  | .invalidNumber => "invalid number"
  | .numberOutOfRange => "number out of range"
  | .keyNotText => "key must be a string"
  | .loneSurrogate => "lone leading surrogate in hex escape"
  | .unfinishedEscape => "unexpected end of hex escape"
  | .trailingComma => "trailing comma"
  | .trailingCharacters => "trailing characters"
  | .tooNested => "recursion limit exceeded"
  | .unfit mismatch => mismatch.message

/-- A failure with its place, or a mismatch that still waits for one. -/
inductive Failure where
  /-- So many bytes beyond the start of the characters left. -/
  | placed (cause : Cause) (left : List Char) (beyond : Nat)
  /-- Found with these characters left. -/
  | waiting (mismatch : Mismatch) (left : List Char)
deriving Repr, DecidableEq

/-- A reader takes characters from the front and leaves the others. -/
abbrev Reader (Value : Type) := List Char -> Except Failure (Value × List Char)

namespace Failure

/-- Fail where the characters left start. -/
def here (cause : Cause) (left : List Char) : Failure :=
  .placed cause left 0

/-- Fail at the byte to be read next, if there is one. -/
def next (cause : Cause) (left : List Char) : Failure :=
  .placed cause left (if left.isEmpty then 0 else 1)

/-- Fail of a mismatch where the characters left start. -/
def mismatched (mismatch : Mismatch) (left : List Char) : Failure :=
  .placed (.unfit mismatch) left 0

/-- Give a waiting mismatch its place, by a rule on what was left. -/
def settle (rule : List Char -> List Char) : Failure -> Failure
  | .waiting mismatch left => .placed (.unfit mismatch) (rule left) 0
  | failure => failure

/-- The number of bytes that characters take. -/
def size (text : List Char) : Nat :=
  text.foldl (fun bytes character => bytes + character.utf8Size) 0

/-- The line and the column of a byte: lines count from one, columns are the
bytes since the last line break. -/
def lineAndColumn (before : Bytes) : Nat × Nat :=
  (1 + before.count 10, (before.reverse.takeWhile (· != 10)).length)

/-- The failure in words, for the document that was read. -/
def message (document : String) : Failure -> String
  | .placed cause left beyond =>
    let bytes := Bytes.ofText document
    let (line, column) := lineAndColumn (bytes.take (bytes.length - size left + beyond))
    cause.message ++ " at line " ++ toString line ++ " column " ++ toString column
  | .waiting mismatch _ => mismatch.message

end Failure
end Json
end Guidebook
