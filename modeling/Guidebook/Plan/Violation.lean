import Guidebook.Section.Position

namespace Guidebook

/-!
# Violations

Why a forest has no plan.  A violation names a section and its position, and a
compilation that meets one yields no part of a plan.
-/

/-- Why a tree is malformed. -/
inductive Malformation where
  /-- A section lies deeper than the limit. -/
  | tooDeep (limit : Nat)
  /-- The forest could not be had. -/
  | sourceFailed (message : String)
  /-- Any other reason, in words. -/
  | stated (reason : String)
deriving Repr, DecidableEq

/-- The reason in words. -/
def Malformation.text : Malformation -> String
  | .tooDeep limit => "nesting exceeds max depth " ++ toString limit
  | .sourceFailed message => "tree producer failed: " ++ message
  | .stated reason => reason

/-- The first thing found wrong with a forest. -/
inductive Violation where
  /-- A group without members. -/
  | emptyContainer (name : String) (position : Position)
  /-- A group that has options beside other sections.  The offender is the
  first member that differs from the first one. -/
  | mixedSiblings (name : String) (position : Position) (offender : String)
      (options others : Nat)
  /-- An option whose index an earlier sibling has. -/
  | duplicateIndex (name : String) (position : Position) (index : UInt32)
  /-- A tree that cannot be walked. -/
  | malformed (name : String) (position : Position) (reason : Malformation)
deriving Repr, DecidableEq

namespace Violation

/-- The section that the violation names. -/
def name : Violation -> String
  | .emptyContainer name _ => name
  | .mixedSiblings name _ _ _ _ => name
  | .duplicateIndex name _ _ => name
  | .malformed name _ _ => name

/-- The position of that section. -/
def position : Violation -> Position
  | .emptyContainer _ position => position
  | .mixedSiblings _ position _ _ _ => position
  | .duplicateIndex _ position _ => position
  | .malformed _ position _ => position

/-- The violation in words. -/
def message : Violation -> String
  | .emptyContainer name position =>
    "empty container: '" ++ name ++ "' at " ++ position.text ++ " has no members"
  | .mixedSiblings name position offender options others =>
    "mixed sibling kinds under '" ++ name ++ "' at " ++ position.text ++ ": '" ++ offender
      ++ "' breaks uniformity (" ++ toString options ++ " option(s), " ++ toString others
      ++ " other node(s))"
  | .duplicateIndex name position index =>
    "duplicate option index " ++ toString index.toNat ++ ": '" ++ name ++ "' at "
      ++ position.text
  | .malformed name position reason =>
    "malformed tree: '" ++ name ++ "' at " ++ position.text ++ ": " ++ reason.text

end Violation
end Guidebook
