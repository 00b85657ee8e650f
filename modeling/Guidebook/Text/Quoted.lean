import Guidebook.Text.Numeral
import Guidebook.Text.Printable

namespace Guidebook
namespace Quoted

/-!
# Quoted text

How a message quotes a text it talks about: between double quotes, with escapes
for the quote, the backslash, the common controls and every character that does
not show.  An escape of a code point has no fixed width, so it is closed by a
brace.
-/

/-- One character as it stands between the quotes. -/
def escape (character : Char) : List Char :=
  match character with
  | '\x00' => ['\\', '0']
  | '\t' => ['\\', 't']
  | '\n' => ['\\', 'n']
  | '\r' => ['\\', 'r']
  | '\\' => ['\\', '\\']
  | '"' => ['\\', '"']
  | other =>
    if Printable.isPrintable other then [other]
    else ['\\', 'u', '\x7b'] ++ Nat.toDigits 16 other.toNat ++ ['\x7d']

/-- The quoted form of a text. -/
def quote (text : String) : String :=
  "\"" ++ String.ofList (text.toList.flatMap escape) ++ "\""

end Quoted
end Guidebook
