import Guidebook.Plan.Basic

namespace Guidebook

/-!
# Steps and bodies

A step is reached through the steps of a sequence and through the bodies of a
choice, and so are the facts about it.  The induction principle replaces the
motives for lists, branches and lists of branches that the nested data type comes
with.
-/

/-- A fact that holds of tasks, and passes from the steps of a sequence and from
the bodies of a choice to the step above them, holds of every step. -/
theorem Step.member_induction {motive : Step -> Prop}
    (task : forall command, motive (.task command))
    (sequence : forall title steps,
      (forall step, step ∈ steps -> motive step) -> motive (.sequence title steps))
    (choice : forall title branches,
      (forall branch : Branch Step, branch ∈ branches -> motive branch.body) ->
        motive (.choice title branches))
    (step : Step) : motive step := by
  apply Step.rec (motive_1 := motive)
    (motive_2 := fun steps => forall step, step ∈ steps -> motive step)
    (motive_3 := fun branches => forall branch : Branch Step, branch ∈ branches ->
      motive branch.body)
    (motive_4 := fun branch => motive branch.body)
  · exact task
  · exact sequence
  · exact choice
  · exact List.forall_mem_nil _
  · intro first rest firstHolds restHold
    exact List.forall_mem_cons.mpr ⟨firstHolds, restHold⟩
  · exact List.forall_mem_nil _
  · intro first rest firstHolds restHold
    exact List.forall_mem_cons.mpr ⟨firstHolds, restHold⟩
  · intro index label body bodyHolds
    exact bodyHolds

end Guidebook
