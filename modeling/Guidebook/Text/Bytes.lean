namespace Guidebook

/-!
# Bytes

Files, file names and paths are byte sequences and need not hold text.  A text
is written as UTF-8; bytes are read back as a text only when they are valid, and
shown, when a message must show them anyway, with a replacement character for
each part that is not.  The parts follow the Unicode recommendation: the longest
run that starts a character and breaks off counts as one.
-/

/-- A sequence of bytes. -/
abbrev Bytes := List UInt8

namespace Bytes

/-- The bytes of a text. -/
def ofText (text : String) : Bytes :=
  text.toUTF8.data.toList

/-- The text that bytes write, when they are valid. -/
def text? (bytes : Bytes) : Option String :=
  String.fromUTF8? ⟨bytes.toArray⟩

/-- The bytes of a text are read back as that text. -/
theorem text?_ofText (text : String) : text? (ofText text) = some text := by
  have bytes : (⟨(text.toUTF8.data.toList).toArray⟩ : ByteArray) = text.toUTF8 := by simp
  simp only [text?, ofText, bytes]
  simp [String.fromUTF8?, String.fromUTF8, String.toUTF8, text.isValidUTF8]

/-- What the first byte of a character asks for: how many bytes follow, and the
range of the first of them.  The others may be any that continue a character. -/
def lead? (byte : UInt8) : Option (Nat × UInt8 × UInt8) :=
  if 0xC2 ≤ byte && byte ≤ 0xDF then some (1, 0x80, 0xBF)
  else if byte == 0xE0 then some (2, 0xA0, 0xBF)
  else if byte == 0xED then some (2, 0x80, 0x9F)
  else if 0xE1 ≤ byte && byte ≤ 0xEF then some (2, 0x80, 0xBF)
  else if byte == 0xF0 then some (3, 0x90, 0xBF)
  else if 0xF1 ≤ byte && byte ≤ 0xF3 then some (3, 0x80, 0xBF)
  else if byte == 0xF4 then some (3, 0x80, 0x8F)
  else none

/-- The payload of a first byte that asks for so many more. -/
def leadBits (byte : UInt8) (more : Nat) : Nat :=
  byte.toNat % Nat.pow 2 (6 - more)

/-- The character shown for a part that is no text. -/
def replacement : Char := '\uFFFD'

/-- A character under way: its bits so far, the tails it still needs, and the
range of the next one. -/
structure Pending where
  bits : Nat
  more : Nat
  low : UInt8
  high : UInt8

/-- Start at a byte: a character of one byte, a pending character, or a part
that is no text. -/
def startShown (byte : UInt8) : List Char × Option Pending :=
  if byte < 0x80 then ([Char.ofNat byte.toNat], none)
  else
    match lead? byte with
    | some (more, low, high) => ([], some ⟨leadBits byte more, more, low, high⟩)
    | none => ([replacement], none)

/-- The characters shown for bytes, with a character under way. -/
def shownFrom : Option Pending -> Bytes -> List Char
  | none, [] => []
  | some _, [] => [replacement]
  | none, byte :: rest =>
    let (shown, pending) := startShown byte
    shown ++ shownFrom pending rest
  | some pending, byte :: rest =>
    if pending.low ≤ byte && byte ≤ pending.high then
      let bits := pending.bits * 64 + byte.toNat % 64
      if pending.more = 1 then Char.ofNat bits :: shownFrom none rest
      else shownFrom (some ⟨bits, pending.more - 1, 0x80, 0xBF⟩) rest
    else
      let (shown, next) := startShown byte
      replacement :: shown ++ shownFrom next rest

/-- The text shown for bytes. -/
def shown (bytes : Bytes) : String :=
  match text? bytes with
  | some text => text
  | none => String.ofList (shownFrom none bytes)

/-- The bytes of a text are shown as that text. -/
theorem shown_ofText (text : String) : shown (ofText text) = text := by
  simp only [shown, text?_ofText]

end Bytes
end Guidebook
