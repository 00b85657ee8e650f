import Guidebook.Section.Title

namespace Guidebook

/-!
# Censuses

How many sections of each role a forest has, and how deep it is.  Every section
is counted once, in the role that it has for its own parent.  The count goes
through a stack of sections that are still to be counted, and takes no notice of
levels; the depth is asked of the forest itself.
-/

/-- Counts of the sections of a forest, by role, and its depth. -/
structure Census where
  sections : Nat
  options : Nat
  commands : Nat
  depth : Nat
deriving Repr, DecidableEq

namespace Census

/-- Count one section. -/
def note (census : Census) (subject : Section) : Census :=
  match subject.role with
  | .command => { census with commands := census.commands + 1 }
  | .option _ => { census with options := census.options + 1 }
  | .plain => { census with sections := census.sections + 1 }

/-- Count the sections on a stack and everything below them.  The section on top
leaves the stack for its members, the last of them on top. -/
def noteAll (census : Census) : (stack : List Section) -> Census
  | [] => census
  | top :: rest => noteAll (census.note top) (top.members.reverse ++ rest)
termination_by stack => (Forest.sections stack).length
decreasing_by
  rw [Forest.sections_append, Forest.sections_cons, Section.sections_eq, List.length_append,
    (Forest.sections_reverse_perm top.members).length_eq, List.length_append, List.length_cons]
  omega

/-- The census of a forest. -/
def ofForest (forest : Forest) : Census :=
  noteAll ⟨0, 0, 0, forest.depth⟩ forest.reverse

/-- The census on one line. -/
def text (census : Census) : String :=
  toString census.sections ++ " section(s), " ++ toString census.options ++ " option(s), "
    ++ toString census.commands ++ " command(s), depth " ++ toString census.depth

end Census
end Guidebook
