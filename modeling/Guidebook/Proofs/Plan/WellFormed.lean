import Guidebook.Plan.Basic
import Guidebook.Proofs.Section.Title

namespace Guidebook

/-!
# Well-formed plans

A plan is read back as the section that it stands for: a task as a command, a
sequence or a choice as a section of its title over what its steps or bodies are
read back as.  The indices and labels of branches are not read back; they are
still in the titles of the bodies, which is part of being well formed.

Being well formed is the whole of what may be relied on in a compiled plan, and
is stated of plans alone, without compilation.
-/

/-- The option title that a branch stands for. -/
def Branch.title {Body : Type} (branch : Branch Body) : OptionTitle :=
  ⟨branch.index, branch.label⟩

namespace Step

/-! ## Reading a plan back -/

mutual
/-- The section that a step stands for. -/
def decompile : Step -> Section
  | .task command => .command command
  | .sequence title steps => ⟨title, decompileSteps steps⟩
  | .choice title branches => ⟨title, decompileBranches branches⟩

def decompileSteps : List Step -> Forest
  | [] => []
  | first :: rest => first.decompile :: decompileSteps rest

def decompileBranches : List (Branch Step) -> Forest
  | [] => []
  | ⟨_, _, body⟩ :: rest => body.decompile :: decompileBranches rest
end

theorem decompileSteps_eq_map (steps : List Step) :
    decompileSteps steps = steps.map decompile := by
  induction steps with
  | nil => rfl
  | cons first rest inductionHypothesis =>
      rw [decompileSteps, inductionHypothesis, List.map_cons]

theorem decompileBranches_eq_map (branches : List (Branch Step)) :
    decompileBranches branches = (branches.map Branch.body).map decompile := by
  induction branches with
  | nil => rfl
  | cons first rest inductionHypothesis =>
      rw [decompileBranches, inductionHypothesis, List.map_cons, List.map_cons]

@[simp] theorem decompile_sequence (title : String) (steps : List Step) :
    (sequence title steps).decompile = ⟨title, steps.map decompile⟩ := by
  rw [decompile, decompileSteps_eq_map]

@[simp] theorem decompile_choice (title : String) (branches : List (Branch Step)) :
    (choice title branches).decompile = ⟨title, (branches.map Branch.body).map decompile⟩ := by
  rw [decompile, decompileBranches_eq_map]

/-! ## What a compiled plan satisfies -/

/-- The option title that the own title of a step reads as.  A task has no title,
whatever its text. -/
def optionTitle? : Step -> Option OptionTitle
  | .task _ => none
  | .sequence title _ => OptionTitle.parse? title
  | .choice title _ => OptionTitle.parse? title

/-- Sequences and choices have members, no step of a sequence has the title of an
option, the indices of a choice are different, and the body of a branch has the
title of that branch. -/
inductive WellFormed : Step -> Prop
  | task (command : String) : WellFormed (.task command)
  | sequence {title : String} {steps : List Step} (nonempty : steps ≠ [])
      (plain : forall step, step ∈ steps -> step.optionTitle? = none)
      (members : forall step, step ∈ steps -> step.WellFormed) :
      WellFormed (.sequence title steps)
  | choice {title : String} {branches : List (Branch Step)} (nonempty : branches ≠ [])
      (different : (branches.map Branch.index).Nodup)
      (titled : forall branch, branch ∈ branches ->
        branch.body.optionTitle? = some branch.title)
      (members : forall branch, branch ∈ branches -> branch.body.WellFormed) :
      WellFormed (.choice title branches)

/-- The branches of all choices in a step, at any level. -/
inductive HasBranch : Step -> Branch Step -> Prop
  | here {title : String} {branches : List (Branch Step)} {branch : Branch Step}
      (listed : branch ∈ branches) : HasBranch (.choice title branches) branch
  | step {title : String} {steps : List Step} {step : Step} {branch : Branch Step}
      (listed : step ∈ steps) (inside : HasBranch step branch) :
      HasBranch (.sequence title steps) branch
  | body {title : String} {branches : List (Branch Step)} {outer branch : Branch Step}
      (listed : outer ∈ branches) (inside : HasBranch outer.body branch) :
      HasBranch (.choice title branches) branch

/-- In a well-formed step every branch, at any level, is titled by its body. -/
theorem WellFormed.optionTitle?_of_hasBranch {step : Step} {branch : Branch Step}
    (wellFormed : step.WellFormed) (found : step.HasBranch branch) :
    branch.body.optionTitle? = some branch.title := by
  induction found with
  | here listed =>
      cases wellFormed with
      | choice _ _ titled _ => exact titled _ listed
  | step listed _ inductionHypothesis =>
      cases wellFormed with
      | sequence _ _ members => exact inductionHypothesis (members _ listed)
  | body listed _ inductionHypothesis =>
      cases wellFormed with
      | choice _ _ _ members => exact inductionHypothesis (members _ listed)

theorem pos_and_not_blank_of_optionTitle? {step : Step} {title : OptionTitle}
    (titled : step.optionTitle? = some title) :
    0 < title.index ∧
      Exists fun character => character ∈ title.label.toList ∧ Blank.isBlank character = false := by
  cases step with
  | task command => cases titled
  | sequence name steps => exact OptionTitle.pos_and_not_blank_of_parse? titled
  | choice name branches => exact OptionTitle.pos_and_not_blank_of_parse? titled

/-- A well-formed step and the section that it stands for have the same option
title, or none both.  This fails of a choice without branches, which stands for a
command. -/
theorem WellFormed.option?_decompile {step : Step} (wellFormed : step.WellFormed) :
    step.decompile.option? = step.optionTitle? := by
  cases wellFormed with
  | task command => rfl
  | @sequence title steps nonempty plain members =>
      cases steps with
      | nil => exact False.elim (nonempty rfl)
      | cons first rest =>
          rw [decompile_sequence]
          rfl
  | @choice title branches nonempty different titled members =>
      cases branches with
      | nil => exact False.elim (nonempty rfl)
      | cons first rest =>
          rw [decompile_choice]
          rfl

/-- What a command is compiled to can only be its task. -/
theorem eq_task_of_decompile {step : Step} {name : String} (wellFormed : step.WellFormed)
    (read : step.decompile = ⟨name, []⟩) : step = .task name := by
  cases wellFormed with
  | task command =>
      cases read
      rfl
  | sequence nonempty plain members =>
      rw [decompile_sequence, Section.mk.injEq, List.map_eq_nil_iff] at read
      exact False.elim (nonempty read.2)
  | choice nonempty different titled members =>
      rw [decompile_choice, Section.mk.injEq, List.map_eq_nil_iff, List.map_eq_nil_iff] at read
      exact False.elim (nonempty read.2)

end Step
end Guidebook
