import Guidebook.Section.Census

namespace Guidebook

/-!
# What a census counts

The stack is an order of counting and no part of the result.  Whatever is on it,
the walk adds each section on or below the stack once, in its own role; so the
census of a forest is told by counting in the list of all its sections.
-/

namespace Section

def isPlain (subject : Section) : Bool := !subject.isCommand && !subject.isOption

theorem isOption_of_isCommand {subject : Section} (command : subject.isCommand = true) :
    subject.isOption = false := by
  rw [isOption, option?, if_pos command]
  rfl

/-- A section has one role: its members and its title decide which. -/
theorem role_cases (subject : Section) :
    (subject.role = .command ∧ subject.isCommand = true ∧ subject.isOption = false) ∨
      (Exists fun title => subject.role = .option title ∧
        subject.isCommand = false ∧ subject.isOption = true) ∨
      (subject.role = .plain ∧ subject.isCommand = false ∧ subject.isOption = false) := by
  cases command : subject.isCommand with
  | true =>
      refine Or.inl ⟨?_, rfl, isOption_of_isCommand command⟩
      rw [role, if_pos command]
  | false =>
      have titled : subject.option? = OptionTitle.parse? subject.name := by
        rw [option?, command]
        rfl
      rw [isOption, titled, role, command]
      cases OptionTitle.parse? subject.name with
      | none => exact Or.inr (Or.inr ⟨rfl, rfl, rfl⟩)
      | some title => exact Or.inr (Or.inl ⟨title, rfl, rfl, rfl⟩)

/-- Options and plain sections are the sections with members. -/
theorem countP_isPlain_add_isOption (found : List Section) :
    found.countP isPlain + found.countP isOption =
      found.countP fun subject => !subject.isCommand := by
  induction found with
  | nil => rfl
  | cons first rest inductionHypothesis =>
      rw [List.countP_cons, List.countP_cons, List.countP_cons, ← inductionHypothesis]
      rcases role_cases first with ⟨_, command, option⟩ | ⟨_, _, command, option⟩ |
          ⟨_, command, option⟩ <;>
        simp [isPlain, command, option] <;> omega

end Section

namespace Census

/-- Sections counted on top of a census, in no particular order. -/
def plus (census : Census) (found : List Section) : Census :=
  { sections := census.sections + found.countP Section.isPlain
    options := census.options + found.countP Section.isOption
    commands := census.commands + found.countP Section.isCommand
    depth := census.depth }

theorem plus_nil (census : Census) : census.plus [] = census := rfl

theorem plus_append (census : Census) (left right : List Section) :
    census.plus (left ++ right) = (census.plus left).plus right := by
  simp only [plus, List.countP_append, Nat.add_assoc]

theorem plus_perm (census : Census) {left right : List Section} (same : left.Perm right) :
    census.plus left = census.plus right := by
  simp only [plus, same.countP_eq]

theorem note_eq_plus (census : Census) (subject : Section) :
    census.note subject = census.plus [subject] := by
  rcases Section.role_cases subject with ⟨role, command, option⟩ | ⟨title, role, command, option⟩ |
      ⟨role, command, option⟩ <;>
    simp only [note, plus, role, List.countP_singleton, Section.isPlain, command, option] <;> rfl

/-- The walk counts every section on or below the stack, and each of them once.
What it has counted and what is still on the stack are the same all the time. -/
theorem noteAll_eq_plus (census : Census) (stack : List Section) :
    census.noteAll stack = census.plus (Forest.sections stack) := by
  induction census, stack using noteAll.induct with
  | case1 census => rw [noteAll, Forest.sections_nil, plus_nil]
  | case2 census top rest inductionHypothesis =>
      -- The members of the top are on the stack in reverse, which no count sees.
      rw [noteAll, inductionHypothesis, note_eq_plus, ← plus_append, Forest.sections_append,
        Forest.sections_cons, Section.sections_eq]
      exact plus_perm census
        (((Forest.sections_reverse_perm top.members).append_right (Forest.sections rest)).cons top)

theorem ofForest_eq (forest : Forest) :
    ofForest forest =
      ⟨forest.sections.countP Section.isPlain, forest.sections.countP Section.isOption,
        forest.sections.countP Section.isCommand, forest.depth⟩ := by
  rw [ofForest, noteAll_eq_plus, plus_perm _ (Forest.sections_reverse_perm forest)]
  simp only [plus, Nat.zero_add]

end Census
end Guidebook
