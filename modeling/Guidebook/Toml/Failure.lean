import Guidebook.Decimal.Style
import Guidebook.Mismatch
import Guidebook.Toml.Value

namespace Guidebook
namespace Toml

/-!
# Failures of reading

Only the head of a report is kept.  A report goes on with the line and the column
of the failure, the line itself, and the reason; these are left out, so a text that
is not well written is reported without a place and without a reason.  The report
has a line for the reason all the same, which is empty when there is none.  A value
whose kind no record has a use for is reported like a text that is not well written.
A mismatch is told in words.
-/

/-- Why a text is not a document. -/
inductive Fault where
  /-- Something else is wanted than what is there. -/
  | unexpected
  /-- The text breaks off, or a line does not end, where nothing is named that
  could go on. -/
  | brokenOff
deriving Repr, DecidableEq

/-- The head of the report on a fault, without line, column and reason.  The line for a reason
stays empty where there is none. -/
def Fault.message : Fault -> String
  | .unexpected => "TOML parse error"
  | .brokenOff => "TOML parse error\n"

/-- Why a text has no value of the type wanted. -/
inductive Failure where
  | unreadable (fault : Fault)
  | unfit (mismatch : Mismatch)
deriving Repr, DecidableEq

/-- The head of the report on a failure, without the place of it. -/
def Failure.message : Failure -> String
  | .unreadable fault => fault.message
  | .unfit mismatch => "TOML parse error: " ++ mismatch.message

namespace Value

/-- What a value is found as.  A moment is found as the map it is kept in. -/
def found : Value -> Found
  | .text value => .text value
  | .integer value => .integer value
  | .float value => .float (Decimal.text Decimal.marked value)
  | .boolean value => .boolean value
  | .moment => .map
  | .list _ => .sequence
  | .table _ => .map

/-- The text that a value is. -/
def asText (wanted : String) : Value -> Except Mismatch String
  | .text value => .ok value
  | other => .error (.wrongType other.found wanted)

/-- The truth value that a value is. -/
def asBoolean : Value -> Except Mismatch Bool
  | .boolean value => .ok value
  | other => .error (.wrongType other.found "a boolean")

/-- The size that a value is: an integer that is not negative. -/
def asSize : Value -> Except Mismatch Nat
  | .integer value =>
    if 0 ≤ value then .ok value.toNat else .error (.wrongValue (.integer value) "usize")
  | other => .error (.wrongType other.found "usize")

/-- The texts that a value lists. -/
def asTexts : Value -> Except Mismatch (List String)
  | .list elements => elements.mapM (asText "a string")
  | other => .error (.wrongType other.found "a sequence")

end Value
end Toml
end Guidebook
