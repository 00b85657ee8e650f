import Guidebook.Proofs.Plan.Decompilation
import Guidebook.Proofs.Plan.Members

namespace Guidebook

/-!
# Commands of compiled plans

A plan and a guidebook are searched for their commands by two recursions over two
types.  Both go from left to right, and a well-formed step has below it what the
section that it stands for has; so they find the same texts in the same order and
as often, and it does not matter what the texts are.
-/

theorem Forest.commands_eq_flatMap (forest : Forest) :
    forest.commands = forest.flatMap Section.commands := by
  induction forest with
  | nil => rfl
  | cons first rest inductionHypothesis =>
      rw [Forest.commands, inductionHypothesis, List.flatMap_cons]

theorem Section.commands_mk_of_ne_nil (name : String) {members : Forest} (some : members ≠ []) :
    Section.commands ⟨name, members⟩ = members.flatMap Section.commands := by
  cases members with
  | nil => exact False.elim (some rfl)
  | cons first rest =>
      rw [Section.commands, Forest.commands_eq_flatMap, List.flatMap_cons]

namespace Step

theorem commandsOfSteps_eq_flatMap (steps : List Step) :
    commandsOfSteps steps = steps.flatMap commands := by
  induction steps with
  | nil => rfl
  | cons first rest inductionHypothesis =>
      rw [commandsOfSteps, inductionHypothesis, List.flatMap_cons]

theorem commandsOfBranches_eq_flatMap (branches : List (Branch Step)) :
    commandsOfBranches branches = (branches.map Branch.body).flatMap commands := by
  induction branches with
  | nil => rfl
  | cons first rest inductionHypothesis =>
      rw [commandsOfBranches, inductionHypothesis, List.map_cons, List.flatMap_cons]

theorem flatMap_commands_decompile {steps : List Step}
    (each : forall step, step ∈ steps -> step.decompile.commands = step.commands) :
    (steps.map decompile).flatMap Section.commands = steps.flatMap commands := by
  rw [List.flatMap_map]
  exact List.flatMap_congr each

/-- A well-formed step has the commands of the section that it stands for.  A
sequence without steps, which is not well formed, has none and stands for one. -/
theorem WellFormed.commands_decompile {step : Step} (wellFormed : step.WellFormed) :
    step.decompile.commands = step.commands := by
  induction step using Step.member_induction with
  | task command => rfl
  | sequence title steps inductionHypothesis =>
      cases wellFormed with
      | sequence nonempty plain members =>
          have some : steps.map decompile ≠ [] := by simpa using nonempty
          rw [decompile_sequence, Section.commands_mk_of_ne_nil title some, commands,
            commandsOfSteps_eq_flatMap]
          exact flatMap_commands_decompile
            (fun step listed => inductionHypothesis step listed (members step listed))
  | choice title branches inductionHypothesis =>
      cases wellFormed with
      | choice nonempty different titled members =>
          have some : (branches.map Branch.body).map decompile ≠ [] := by simpa using nonempty
          rw [decompile_choice, Section.commands_mk_of_ne_nil title some, commands,
            commandsOfBranches_eq_flatMap]
          exact flatMap_commands_decompile (List.forall_mem_map.mpr
            (fun branch listed => inductionHypothesis branch listed (members branch listed)))

end Step

namespace Forest

theorem commands_asSection (title : String) {forest : Forest} (nonempty : forest ≠ []) :
    (forest.asSection title).commands = forest.flatMap Section.commands := by
  rcases plain_root_or_wrapped forest with ⟨single, rfl, plain⟩ | wrapped
  · rw [asSection_of_plain_root title plain, List.flatMap_singleton]
  · rw [asSection_of_no_plain_root title forest wrapped,
      Section.commands_mk_of_ne_nil title nonempty]

/-- A compiled plan has the commands of its forest, root by root. -/
theorem commands_of_compile {limit : Nat} {title : String} {forest : Forest} {step : Step}
    (compiled : forest.compile limit title = .ok step) :
    step.commands = forest.flatMap Section.commands := by
  rcases (compile_eq_ok_iff ..).mp compiled with ⟨nonempty, wellFormed, read, _⟩
  rw [← wellFormed.commands_decompile, read, commands_asSection title nonempty]

end Forest
end Guidebook
