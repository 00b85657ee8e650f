import Guidebook.Proofs.Plan.Renaming

namespace Guidebook

/-!
# The texts of commands

A command may have any text, and compilation does not look at it.  The texts of all
commands can therefore be changed at once, before compilation or after it, and the
outcome is the same.  A changed text may be blank, may be of several lines and may
look like the title of an option; a command remains a command for having no members.

Where a forest fails, only what the violation quotes can change, and this only where
it quotes a command.
-/

/-- What a section is called when the texts of commands are changed. -/
def Section.changed (change : String -> String) (subject : Section) : String :=
  if subject.isCommand then change subject.name else subject.name

theorem Section.keepsTitles_changed (change : String -> String) :
    KeepsTitles (changed change) := by
  intro subject members
  rw [changed, members, if_neg Bool.false_ne_true]

/-- A section with members keeps its name. -/
theorem Section.renamed_changed (change : String -> String) (name : String) {members : Forest}
    (some : members ≠ []) :
    Section.renamed (changed change) ⟨name, members⟩ =
      ⟨name, members.renamed (changed change)⟩ := by
  have members : isCommand ⟨name, members⟩ = false := List.isEmpty_eq_false_iff.mpr some
  rw [renamed_eq, changed, members, if_neg Bool.false_ne_true, name_mk, members_mk]

namespace Step

mutual
/-- A step with the texts of all its tasks changed. -/
def mapCommands (change : String -> String) : Step -> Step
  | .task command => .task (change command)
  | .sequence title steps => .sequence title (mapCommandsOfSteps change steps)
  | .choice title branches => .choice title (mapCommandsOfBranches change branches)

def mapCommandsOfSteps (change : String -> String) : List Step -> List Step
  | [] => []
  | first :: rest => first.mapCommands change :: mapCommandsOfSteps change rest

def mapCommandsOfBranches (change : String -> String) : List (Branch Step) -> List (Branch Step)
  | [] => []
  | ⟨index, label, body⟩ :: rest =>
    ⟨index, label, body.mapCommands change⟩ :: mapCommandsOfBranches change rest
end

variable {change : String -> String}

theorem mapCommandsOfSteps_eq_map (steps : List Step) :
    mapCommandsOfSteps change steps = steps.map (mapCommands change) := by
  induction steps with
  | nil => rfl
  | cons first rest inductionHypothesis =>
      rw [mapCommandsOfSteps, inductionHypothesis, List.map_cons]

theorem mapCommandsOfBranches_eq_map (branches : List (Branch Step)) :
    mapCommandsOfBranches change branches =
      branches.map fun branch => { branch with body := branch.body.mapCommands change } := by
  induction branches with
  | nil => rfl
  | cons first rest inductionHypothesis =>
      rw [mapCommandsOfBranches, inductionHypothesis, List.map_cons]

theorem optionTitle?_mapCommands (step : Step) :
    (step.mapCommands change).optionTitle? = step.optionTitle? := by
  cases step <;> rw [mapCommands] <;> rfl

theorem WellFormed.mapCommands {step : Step} (wellFormed : step.WellFormed) :
    (step.mapCommands change).WellFormed := by
  induction wellFormed with
  | task command => exact .task (change command)
  | @sequence title steps nonempty plain members inductionHypothesis =>
      rw [Step.mapCommands, mapCommandsOfSteps_eq_map]
      refine .sequence (by simpa using nonempty) ?_ (List.forall_mem_map.mpr inductionHypothesis)
      refine List.forall_mem_map.mpr (fun step listed => ?_)
      rw [optionTitle?_mapCommands, plain step listed]
  | @choice title branches nonempty different titled members inductionHypothesis =>
      rw [Step.mapCommands, mapCommandsOfBranches_eq_map]
      refine .choice (by simpa using nonempty) ?_ ?_ (List.forall_mem_map.mpr inductionHypothesis)
      · rw [List.map_map]
        exact different
      · refine List.forall_mem_map.mpr (fun branch listed => ?_)
        rw [optionTitle?_mapCommands, titled branch listed]
        rfl

/-- The changed step stands for the section with the texts of its commands changed.  A
sequence without steps, which is not well formed, has no task and stands for a command. -/
theorem WellFormed.decompile_mapCommands {step : Step} (wellFormed : step.WellFormed) :
    (step.mapCommands change).decompile =
      step.decompile.renamed (Section.changed change) := by
  induction wellFormed with
  | task command => rfl
  | @sequence title steps nonempty plain members inductionHypothesis =>
      rw [Step.mapCommands, mapCommandsOfSteps_eq_map, decompile_sequence, decompile_sequence,
        Section.renamed_changed change title (by simpa using nonempty), Forest.renamed_eq_map,
        List.map_map, List.map_map]
      exact congrArg _ (List.map_congr_left inductionHypothesis)
  | @choice title branches nonempty different titled members inductionHypothesis =>
      rw [Step.mapCommands, mapCommandsOfBranches_eq_map, decompile_choice, decompile_choice,
        Section.renamed_changed change title (by simpa using nonempty), Forest.renamed_eq_map,
        List.map_map, List.map_map, List.map_map, List.map_map]
      exact congrArg _ (List.map_congr_left inductionHypothesis)

end Step

namespace Forest

/-- Changing the texts of commands and compiling commute.  A forest that compiles to a
step compiles after the change to the step with its commands changed; one that fails
does so after the change with the same violation, in which a command is quoted with
its changed text and any other section as before. -/
theorem compile_changed_commands (change : String -> String) (limit : Nat) (title : String)
    (forest : Forest) :
    Alike (fun step answer => answer = step.mapCommands change)
      (Violation.RenamedIn (Section.changed change) title forest)
      (compile limit title forest)
      (compile limit title (forest.renamed (Section.changed change))) := by
  have keeps := Section.keepsTitles_changed change
  apply compile_renamed keeps
  intro step nonempty wellFormed read
  refine ⟨wellFormed.mapCommands, ?_⟩
  rw [wellFormed.decompile_mapCommands, read]
  -- A plain root may be a command and is renamed; the title of other forests is kept.
  rcases plain_root_or_wrapped forest with ⟨single, rfl, plain⟩ | wrapped
  · rw [asSection_of_plain_root title plain, asSection_renamed_of_plain_root keeps title plain]
  · rw [asSection_of_no_plain_root title forest wrapped,
      asSection_renamed_of_no_plain_root keeps title forest wrapped,
      Section.renamed_changed change title nonempty]

end Forest
end Guidebook
