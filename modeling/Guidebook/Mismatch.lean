import Guidebook.Text.Quoted

namespace Guidebook

/-!
# Mismatches

A document can be well written and still not hold what is wanted: a number in
place of a text, a record without one of its fields.  The messages say what was
found and what was wanted, and are the same for every data format.  A format
only chooses how its floating point numbers are shown.
-/

/-- What a document holds at some place. -/
inductive Found where
  | null
  | boolean (value : Bool)
  | integer (value : Int)
  | float (shown : String)
  | text (value : String)
  | sequence
  | map
deriving Repr, DecidableEq

/-- What was found, in words. -/
def Found.words : Found -> String
  | .null => "null"
  | .boolean value => "boolean `" ++ toString value ++ "`"
  | .integer value => "integer `" ++ toString value ++ "`"
  | .float shown => "floating point `" ++ shown ++ "`"
  | .text value => "string " ++ Quoted.quote value
  | .sequence => "sequence"
  | .map => "map"

/-- Why a value does not fit what is wanted. -/
inductive Mismatch where
  | wrongType (found : Found) (wanted : String)
  | wrongValue (found : Found) (wanted : String)
  | wrongLength (length : Nat) (wanted : String)
  | unknownVariant (name : String) (known : List String)
  | missingField (name : String)
  | repeatedField (name : String)
deriving Repr, DecidableEq

namespace Mismatch

/-- A list of names to choose from, in words. -/
def choice (names : List String) : String :=
  match names with
  | [] => "there are no variants"
  | [only] => "expected `" ++ only ++ "`"
  | [first, second] => "expected `" ++ first ++ "` or `" ++ second ++ "`"
  | many => "expected one of " ++ String.intercalate ", " (many.map fun name => "`" ++ name ++ "`")

/-- The mismatch in words. -/
def message : Mismatch -> String
  | .wrongType found wanted => "invalid type: " ++ found.words ++ ", expected " ++ wanted
  | .wrongValue found wanted => "invalid value: " ++ found.words ++ ", expected " ++ wanted
  | .wrongLength length wanted =>
    "invalid length " ++ toString length ++ ", expected " ++ wanted
  | .unknownVariant name known => "unknown variant `" ++ name ++ "`, " ++ choice known
  | .missingField name => "missing field `" ++ name ++ "`"
  | .repeatedField name => "duplicate field `" ++ name ++ "`"

end Mismatch
end Guidebook
