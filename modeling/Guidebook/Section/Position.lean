namespace Guidebook

/-!
# Positions

A section of a forest is named by the child indices on the way to it.  The
forest itself has the empty position.  Positions are ordered as document order
has them: lexicographically, with a section before everything below it.
-/

/-- The child indices that lead from the forest to a section. -/
structure Position where
  indices : List Nat
deriving Repr, DecidableEq, Inhabited

namespace Position

/-- The position of the forest as a whole. -/
def root : Position := ⟨[]⟩

/-- The position of a member, given the position of what it is a member of. -/
def child (position : Position) (index : Nat) : Position :=
  ⟨position.indices ++ [index]⟩

/-- The written form: a slash, then the indices with slashes between them. -/
def text (position : Position) : String :=
  "/" ++ String.intercalate "/" (position.indices.map toString)

/-- Document order on child indices; a shorter path comes before its extensions. -/
def order : List Nat -> List Nat -> Ordering
  | [], [] => .eq
  | [], _ :: _ => .lt
  | _ :: _, [] => .gt
  | left :: lefts, right :: rights => (compare left right).then (order lefts rights)

instance : Ord Position := ⟨fun left right => order left.indices right.indices⟩

@[simp] theorem indices_child (position : Position) (index : Nat) :
    (position.child index).indices = position.indices ++ [index] := rfl

end Position
end Guidebook
