import Guidebook.Plan.Basic

namespace Guidebook

/-!
# Tallies

How many tasks, sequences, choices and branches a plan has, and how deep it is.
A branch adds no level of its own: its body is one level below the choice.  The
steps are counted on one walk, and the depth is taken on another.
-/

/-- Counts of the steps of a plan, by kind, and its depth. -/
structure Tally where
  tasks : Nat
  sequences : Nat
  choices : Nat
  branches : Nat
  depth : Nat
deriving Repr, DecidableEq

namespace Step

mutual
/-- The number of levels of a step, itself included. -/
def depth : Step -> Nat
  | .task _ => 1
  | .sequence _ steps => 1 + depthOfSteps steps
  | .choice _ branches => 1 + depthOfBranches branches

/-- The largest depth in a list of steps. -/
def depthOfSteps : List Step -> Nat
  | [] => 0
  | first :: rest => max first.depth (depthOfSteps rest)

/-- The largest depth among the bodies of a list of branches. -/
def depthOfBranches : List (Branch Step) -> Nat
  | [] => 0
  | ⟨_, _, body⟩ :: rest => max body.depth (depthOfBranches rest)
end

end Step

namespace Tally

mutual
/-- Count a step and everything below it, on top of what is counted already. -/
def note (tally : Tally) : Step -> Tally
  | .task _ => { tally with tasks := tally.tasks + 1 }
  | .sequence _ steps => noteSteps { tally with sequences := tally.sequences + 1 } steps
  | .choice _ branches =>
    noteBranches
      { tally with
        choices := tally.choices + 1
        branches := tally.branches + branches.length } branches

/-- Count a list of steps. -/
def noteSteps (tally : Tally) : List Step -> Tally
  | [] => tally
  | first :: rest => noteSteps (note tally first) rest

/-- Count the bodies of a list of branches. -/
def noteBranches (tally : Tally) : List (Branch Step) -> Tally
  | [] => tally
  | ⟨_, _, body⟩ :: rest => noteBranches (note tally body) rest
end

/-- The tally of a step. -/
def ofStep (step : Step) : Tally := note ⟨0, 0, 0, 0, step.depth⟩ step

/-- The tally on one line. -/
def text (tally : Tally) : String :=
  toString tally.tasks ++ " task(s), " ++ toString tally.sequences ++ " sequence(s), "
    ++ toString tally.choices ++ " choice(s) with " ++ toString tally.branches
    ++ " alternative(s), depth " ++ toString tally.depth

end Tally

/-- The tally of a plan is that of its root. -/
def Plan.tally (plan : Plan) : Tally := Tally.ofStep plan.root

end Guidebook
