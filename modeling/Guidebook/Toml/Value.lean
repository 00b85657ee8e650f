namespace Guidebook
namespace Toml

/-!
# Values

A value of the format.  Of a date or a time only the kind matters here, so it
carries no content.  The entries of a table keep the order in which they were
written, and their keys are distinct.
-/

/-- A value of the format. -/
inductive Value where
  | text (value : String)
  | integer (value : Int)
  | float (value : Float)
  | boolean (value : Bool)
  | moment
  | list (elements : List Value)
  | table (entries : List (String × Value))
deriving Inhabited

end Toml
end Guidebook
