import Guidebook.Section.Basic
import Guidebook.Section.Position

namespace Guidebook

/-!
# Sections by position

Which section stands at a position, and in what order positions come.  A path is
followed from a section down, one child index at a time; the positions of a
forest are the paths from a section that has the forest for its members.  Document
order on paths is the order of lists of numbers, so that its laws are those of
the library.
-/

namespace Section

/-- The section that a path of child indices leads to, if there is one. -/
def at? : (path : List Nat) -> Section -> Option Section
  | [], subject => some subject
  | index :: rest, subject => subject.members[index]?.bind (at? rest)

@[simp] theorem at?_nil (subject : Section) : subject.at? [] = some subject := rfl

theorem at?_cons_eq_some_iff (index : Nat) (rest : List Nat) (subject inner : Section) :
    subject.at? (index :: rest) = some inner ↔
      Exists fun member => subject.members[index]? = some member ∧
        member.at? rest = some inner := by
  rw [at?, Option.bind_eq_some_iff]

end Section

namespace Position

theorem order_eq_compare (left right : List Nat) : order left right = compare left right := by
  induction left generalizing right with
  | nil => cases right <;> rfl
  | cons first rest inductionHypothesis =>
      cases right with
      | nil => rfl
      | cons other others =>
          rw [order, inductionHypothesis, List.compare_cons_cons]

theorem compare_eq (left right : Position) :
    compare left right = compare left.indices right.indices :=
  order_eq_compare left.indices right.indices

/-- Two paths of which neither comes after the other are the same. -/
theorem path_antisymm {left right : List Nat} (forth : (compare left right).isLE = true)
    (back : (compare right left).isLE = true) : left = right := by
  rw [Std.OrientedOrd.eq_swap] at back
  exact Std.LawfulEqOrd.eq_of_compare (Ordering.eq_eq_of_isLE_of_isLE_swap forth back)

/-- Paths that part at their first index are in the order of these indices. -/
theorem isLE_compare_cons_iff (first other : Nat) (rest others : List Nat) :
    (compare (first :: rest) (other :: others)).isLE = true ↔
      first < other ∨ first = other ∧ (compare rest others).isLE = true := by
  rw [List.compare_cons_cons, Ordering.isLE_then_iff_or, Nat.compare_eq_lt, Nat.compare_eq_eq]

end Position
end Guidebook
