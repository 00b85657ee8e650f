import Guidebook.Plan.Basic
import Guidebook.Plan.Violation
import Guidebook.Section.Title

namespace Guidebook

/-!
# Compilation

A command becomes a task.  A section whose members are all options becomes a
choice with one branch each; any other section becomes a sequence.  Nothing is
flattened and nothing is reordered, and an option only ever appears as the body
of a branch.

A group of siblings is judged as a whole before any of its members is compiled,
so the shallowest violation on the way is the one reported.  The limit bounds
the level of a section, the roots being at level one.
-/

namespace Forest

/-- What a group of siblings compiles to, once judged. -/
inductive Shape where
  | sequence
  | choice (titles : List OptionTitle)
deriving Repr, DecidableEq

/-- The first member that is an option where the first one is not, or the
other way round. -/
def offender? : Forest -> Option Section
  | [] => none
  | first :: rest => rest.find? fun member => member.isOption != first.isOption

/-- The first option whose index is among those already seen, with its place
in the group. -/
def repeated? : (seen : List UInt32) -> (place : Nat) -> Forest -> Option (Nat × Section × UInt32)
  | _, _, [] => none
  | seen, place, first :: rest =>
    match first.option? with
    | some title =>
      if seen.contains title.index then some (place, first, title.index)
      else repeated? (title.index :: seen) (place + 1) rest
    | none => repeated? seen (place + 1) rest

/-- Judge a group of siblings: it must have members, be all options or have
none, and its options must have different indices. -/
def shape (title : String) (position : Position) (group : Forest) : Except Violation Shape :=
  let titles := group.filterMap Section.option?
  if group.isEmpty then .error (.emptyContainer title position)
  else if titles.isEmpty then .ok .sequence
  else if titles.length != group.length then
    let offender := (offender? group).map Section.name
    .error (.mixedSiblings title position (offender.getD "") titles.length
      (group.length - titles.length))
  else
    match repeated? [] 0 group with
    | some (place, member, index) =>
      .error (.duplicateIndex member.name (position.child place) index)
    | none => .ok (.choice titles)

/-- The branches of a choice: each option's title with its compiled body. -/
def branches (titles : List OptionTitle) (bodies : List Step) : List (Branch Step) :=
  List.zipWith (fun title body => ⟨title.index, title.label, body⟩) titles bodies

/-- The step of a judged group, given the steps of its members. -/
def Shape.assemble (title : String) (steps : List Step) : Shape -> Step
  | .sequence => .sequence title steps
  | .choice titles => .choice title (branches titles steps)

end Forest

mutual
/-- Compile a section at the given position and level.  The level is checked
before anything else is asked of the section. -/
def Section.compile (limit : Nat) (position : Position) (level : Nat) :
    Section -> Except Violation Step
  | ⟨name, members⟩ =>
    if limit < level then .error (.malformed name position (.tooDeep limit))
    else if members.isEmpty then .ok (.task name)
    else
      match Forest.shape name position members with
      | .error violation => .error violation
      | .ok shape =>
        match Forest.compileFrom limit position (level + 1) 0 members with
        | .error violation => .error violation
        | .ok steps => .ok (shape.assemble name steps)

/-- Compile the members of a group from left to right, starting at the given
place in it. -/
def Forest.compileFrom (limit : Nat) (position : Position) (level : Nat) :
    (place : Nat) -> Forest -> Except Violation (List Step)
  | _, [] => .ok []
  | place, first :: rest =>
    match first.compile limit (position.child place) level with
    | .error violation => .error violation
    | .ok step =>
      match Forest.compileFrom limit position level (place + 1) rest with
      | .error violation => .error violation
      | .ok steps => .ok (step :: steps)
end

namespace Forest

/-- The limit on nesting where none is configured. -/
def defaultLimit : Nat := 64

/-- Compile the members of a titled group that stands at a position, its
members being at the given level. -/
def compileGroup (limit : Nat) (title : String) (position : Position) (level : Nat)
    (group : Forest) : Except Violation Step :=
  match shape title position group with
  | .error violation => .error violation
  | .ok shape =>
    match compileFrom limit position level 0 group with
    | .error violation => .error violation
    | .ok steps => .ok (shape.assemble title steps)

/-- Within the limit a section with members compiles as the group of its members. -/
theorem compile_mk_of_le (limit : Nat) (position : Position) (level : Nat) (name : String)
    (members : Forest) (within : level ≤ limit) (some : members ≠ []) :
    Section.compile limit position level ⟨name, members⟩ =
      compileGroup limit name position (level + 1) members := by
  cases members with
  | nil => exact absurd rfl some
  | cons first rest =>
      simp only [Section.compile, compileGroup, Nat.not_lt.mpr within, if_false,
        List.isEmpty_cons, Bool.false_eq_true]

/-- Compile a forest.  A single root that is no option is its own plan; any
other forest behaves like a section with the given title. -/
def compile (limit : Nat) (title : String) (forest : Forest) : Except Violation Step :=
  match forest with
  | [single] =>
    if single.isOption then compileGroup limit title .root 1 [single]
    else single.compile limit (Position.root.child 0) 1
  | roots => compileGroup limit title .root 1 roots

end Forest

namespace Plan

/-- The plan of a named source.  A source that failed to give its forest makes
a malformed tree of the source's name. -/
def ofSource (limit : Nat) (name : String) (source : Except String Forest) :
    Except Violation Plan :=
  match source with
  | .error message => .error (.malformed name .root (.sourceFailed message))
  | .ok forest => (forest.compile limit name).map fun root => ⟨name, root⟩

end Plan
end Guidebook
