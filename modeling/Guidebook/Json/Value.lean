namespace Guidebook
namespace Json

/-!
# Values

A value of the format.  The fields of an object keep their order, and a name may
be given twice; which of the two counts is for the reader of the object to say.
-/

/-- A value of the format. -/
inductive Value where
  | null
  | boolean (value : Bool)
  | integer (value : Int)
  | float (value : Float)
  | text (value : String)
  | list (elements : List Value)
  | object (fields : List (String × Value))
deriving Inhabited

namespace Value

mutual
/-- The number of brackets that stand open at once. -/
def nesting : Value -> Nat
  | .list elements => 1 + nestingOfElements elements
  | .object fields => 1 + nestingOfFields fields
  | _ => 0

/-- The largest nesting in a list of elements. -/
def nestingOfElements : List Value -> Nat
  | [] => 0
  | first :: rest => max first.nesting (nestingOfElements rest)

/-- The largest nesting in the fields of an object. -/
def nestingOfFields : List (String × Value) -> Nat
  | [] => 0
  | (_, first) :: rest => max first.nesting (nestingOfFields rest)
end

end Value
end Json
end Guidebook
