namespace Guidebook

/-!
# Plans

A plan is what a runner walks: tasks to run, sequences of steps to run in
order, and choices of which exactly one alternative is run.  The type admits
plans that no guidebook compiles to, empty sequences among them; what a compiled
plan satisfies is a statement about compilation and not about the type.
-/

/-- One alternative of a choice: an index, a label, and what to run. -/
structure Branch (Body : Type) where
  index : UInt32
  label : String
  body : Body
deriving Repr, DecidableEq, BEq

/-- A compiled step. -/
inductive Step where
  | task (command : String)
  | sequence (title : String) (steps : List Step)
  | choice (title : String) (branches : List (Branch Step))
deriving Repr, Inhabited

/-- A step together with the name of the document it was compiled from. -/
structure Plan where
  input : String
  root : Step
deriving Repr, Inhabited

/-! ## Equality -/

namespace Step

mutual
/-- Steps are compared by kind, title and contents. -/
def decideEq : (left right : Step) -> Decidable (left = right)
  | .task left, .task right =>
    match (inferInstance : Decidable (left = right)) with
    | isTrue same => isTrue (by rw [same])
    | isFalse differ => isFalse (by intro same; cases same; exact differ rfl)
  | .sequence leftTitle leftSteps, .sequence rightTitle rightSteps =>
    match (inferInstance : Decidable (leftTitle = rightTitle)),
        decideEqSteps leftSteps rightSteps with
    | isTrue sameTitle, isTrue sameSteps => isTrue (by rw [sameTitle, sameSteps])
    | isFalse differ, _ => isFalse (by intro same; cases same; exact differ rfl)
    | _, isFalse differ => isFalse (by intro same; cases same; exact differ rfl)
  | .choice leftTitle leftBranches, .choice rightTitle rightBranches =>
    match (inferInstance : Decidable (leftTitle = rightTitle)),
        decideEqBranches leftBranches rightBranches with
    | isTrue sameTitle, isTrue sameBranches => isTrue (by rw [sameTitle, sameBranches])
    | isFalse differ, _ => isFalse (by intro same; cases same; exact differ rfl)
    | _, isFalse differ => isFalse (by intro same; cases same; exact differ rfl)
  | .task _, .sequence _ _ => isFalse (by intro same; cases same)
  | .task _, .choice _ _ => isFalse (by intro same; cases same)
  | .sequence _ _, .task _ => isFalse (by intro same; cases same)
  | .sequence _ _, .choice _ _ => isFalse (by intro same; cases same)
  | .choice _ _, .task _ => isFalse (by intro same; cases same)
  | .choice _ _, .sequence _ _ => isFalse (by intro same; cases same)

/-- Step lists are compared step by step. -/
def decideEqSteps : (left right : List Step) -> Decidable (left = right)
  | [], [] => isTrue rfl
  | [], _ :: _ => isFalse (by intro same; cases same)
  | _ :: _, [] => isFalse (by intro same; cases same)
  | left :: lefts, right :: rights =>
    match decideEq left right, decideEqSteps lefts rights with
    | isTrue sameHead, isTrue sameTail => isTrue (by rw [sameHead, sameTail])
    | isFalse differ, _ => isFalse (by intro same; cases same; exact differ rfl)
    | _, isFalse differ => isFalse (by intro same; cases same; exact differ rfl)

/-- Branch lists are compared branch by branch. -/
def decideEqBranches : (left right : List (Branch Step)) -> Decidable (left = right)
  | [], [] => isTrue rfl
  | [], _ :: _ => isFalse (by intro same; cases same)
  | _ :: _, [] => isFalse (by intro same; cases same)
  | ⟨leftIndex, leftLabel, left⟩ :: lefts, ⟨rightIndex, rightLabel, right⟩ :: rights =>
    match (inferInstance : Decidable (leftIndex = rightIndex)),
        (inferInstance : Decidable (leftLabel = rightLabel)),
        decideEq left right, decideEqBranches lefts rights with
    | isTrue sameIndex, isTrue sameLabel, isTrue sameBody, isTrue sameTail =>
      isTrue (by rw [sameIndex, sameLabel, sameBody, sameTail])
    | isFalse differ, _, _, _ => isFalse (by intro same; cases same; exact differ rfl)
    | _, isFalse differ, _, _ => isFalse (by intro same; cases same; exact differ rfl)
    | _, _, isFalse differ, _ => isFalse (by intro same; cases same; exact differ rfl)
    | _, _, _, isFalse differ => isFalse (by intro same; cases same; exact differ rfl)
end

instance : DecidableEq Step := decideEq

end Step

deriving instance DecidableEq for Plan

/-! ## Commands -/

mutual
/-- The commands of a step in document order, those of every branch included. -/
def Step.commands : Step -> List String
  | .task command => [command]
  | .sequence _ steps => Step.commandsOfSteps steps
  | .choice _ branches => Step.commandsOfBranches branches

/-- The commands of a list of steps. -/
def Step.commandsOfSteps : List Step -> List String
  | [] => []
  | first :: rest => first.commands ++ Step.commandsOfSteps rest

/-- The commands of the bodies of a list of branches. -/
def Step.commandsOfBranches : List (Branch Step) -> List String
  | [] => []
  | ⟨_, _, body⟩ :: rest => body.commands ++ Step.commandsOfBranches rest
end

/-- The commands of a plan in document order. -/
def Plan.commands (plan : Plan) : List String := plan.root.commands

end Guidebook
