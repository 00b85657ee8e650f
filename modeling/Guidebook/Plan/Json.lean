import Guidebook.Json.Printer
import Guidebook.Json.Reader
import Guidebook.Plan.Basic

namespace Guidebook

/-!
# Plans as JSON

Every step is an object whose field `kind` says what it is; the field may stand
anywhere in the object.  So the fields of a step are kept until all of them are
read, and a mismatch among them has no place of its own: the place reported is
the end of the plan.
-/

/-- The kinds of steps. -/
inductive Kind where
  | task
  | sequence
  | choice
deriving Repr, DecidableEq

namespace Kind

/-- The name of a kind. -/
def name : Kind -> String
  | .task => "task"
  | .sequence => "sequence"
  | .choice => "choice"

/-- All kinds, in the order of their numbers. -/
def all : List Kind := [.task, .sequence, .choice]

/-- The kind of a name. -/
def ofName (text : String) : Except Mismatch Kind :=
  match all.find? fun kind => kind.name = text with
  | some kind => .ok kind
  | none => .error (.unknownVariant text (all.map name))

/-- The fields of a step of this kind, the kind itself aside. -/
def fields : Kind -> Nat
  | .task => 1
  | .sequence => 2
  | .choice => 2

/-- A step of this kind as a message names it. -/
def words : Kind -> String
  | .task => "struct variant PlanNode::Task with 1 element"
  | .sequence => "struct variant PlanNode::Sequence with 2 elements"
  | .choice => "struct variant PlanNode::Choice with 2 elements"

end Kind

/-! ## Writing -/

namespace Step

mutual
/-- A step as a value. -/
def value : Step -> Json.Value
  | .task command => .object [("kind", .text "task"), ("command", .text command)]
  | .sequence title steps =>
    .object [("kind", .text "sequence"), ("title", .text title), ("steps", .list (values steps))]
  | .choice title branches =>
    .object [("kind", .text "choice"), ("title", .text title),
      ("alternatives", .list (branchValues branches))]

/-- The steps of a list as values. -/
def values : List Step -> List Json.Value
  | [] => []
  | first :: rest => first.value :: values rest

/-- The branches of a list as values. -/
def branchValues : List (Branch Step) -> List Json.Value
  | [] => []
  | ⟨index, label, body⟩ :: rest =>
    .object [("index", .integer index.toNat), ("label", .text label), ("body", body.value)]
      :: branchValues rest
end

/-- The compact text of a step. -/
def json (step : Step) : String := step.value.compact

end Step

namespace Plan

/-- A plan as a value. -/
def value (plan : Plan) : Json.Value :=
  .object [("input", .text plan.input), ("root", plan.root.value)]

/-- The text of a plan, on many lines. -/
def json (plan : Plan) : String := plan.value.indented

end Plan

/-! ## Steps from values -/

namespace Json.Value

/-- What a value is found as. -/
def found : Json.Value -> Found
  | .null => .null
  | .boolean value => .boolean value
  | .integer value => .integer value
  | .float value => .float (Decimal.text Decimal.compact value)
  | .text value => .text value
  | .list _ => .sequence
  | .object _ => .map

/-- The text that a value is. -/
def asText : Json.Value -> Except Mismatch String
  | .text value => .ok value
  | other => .error (.wrongType other.found "a string")

/-- The unsigned word of thirty-two bits that a value is. -/
def asWord : Json.Value -> Except Mismatch UInt32
  | .integer value =>
    if 0 ≤ value && value < UInt32.size then .ok (UInt32.ofNat value.toNat)
    else .error (.wrongValue (.integer value) "u32")
  | other => .error (.wrongType other.found "u32")

end Json.Value

namespace Kind

/-- The kind that a value names, or numbers. -/
def ofValue : Json.Value -> Except Mismatch Kind
  | .text value => ofName value
  | .integer value =>
    if value < 0 then .error (.wrongType (.integer value) "variant identifier")
    else
      match all[value.toNat]? with
      | some kind => .ok kind
      | none => .error (.wrongValue (.integer value) "variant index 0 <= i < 3")
  | other => .error (.wrongType other.found "variant identifier")

/-- The kind among the fields of a step. -/
def ofFields : (seen : Option Kind) -> List (String × Json.Value) -> Except Mismatch Kind
  | none, [] => .error (.missingField "kind")
  | some kind, [] => .ok kind
  | seen, (name, value) :: rest =>
    if name = "kind" then
      match seen with
      | some _ => .error (.repeatedField name)
      | none => do
        let kind <- ofValue value
        ofFields (some kind) rest
    else ofFields seen rest

end Kind

/-- Refuse a list with fewer or more elements than a record has fields. -/
def Mismatch.overlong (count wanted : Nat) : Mismatch :=
  .wrongLength count (toString wanted ++ (if wanted = 1 then " element" else " elements")
    ++ " in sequence")

/-- A field that must not be given twice. -/
def Mismatch.refuseRepeated (name : String) (seen : Option Value) : Except Mismatch Unit :=
  if seen.isSome then .error (.repeatedField name) else .ok ()

/-- A field that must be given. -/
def Mismatch.need (name : String) (seen : Option Value) : Except Mismatch Value :=
  match seen with
  | some value => .ok value
  | none => .error (.missingField name)

namespace Step

/-- The fields of a step that have been read, those of every kind together. -/
structure Draft where
  command : Option String
  title : Option String
  steps : Option (List Step)
  branches : Option (List (Branch Step))

/-- The draft without fields. -/
def Draft.empty : Draft := ⟨none, none, none, none⟩

/-- The step of a kind that a draft makes. -/
def Draft.finish (draft : Draft) : Kind -> Except Mismatch Step
  | .task => do return .task (<- Mismatch.need "command" draft.command)
  | .sequence => do
    let title <- Mismatch.need "title" draft.title
    return .sequence title (<- Mismatch.need "steps" draft.steps)
  | .choice => do
    let title <- Mismatch.need "title" draft.title
    return .choice title (<- Mismatch.need "alternatives" draft.branches)

/-- The fields of a branch that have been read. -/
structure BranchDraft where
  index : Option UInt32
  label : Option String
  body : Option Step

/-- The branch that a draft makes. -/
def BranchDraft.finish (draft : BranchDraft) : Except Mismatch (Branch Step) := do
  let index <- Mismatch.need "index" draft.index
  let label <- Mismatch.need "label" draft.label
  return ⟨index, label, <- Mismatch.need "body" draft.body⟩

mutual
/-- The step that a value is. -/
def ofValue : Json.Value -> Except Mismatch Step
  | .object fields => do
    let kind <- Kind.ofFields none fields
    let draft <- ofFields kind .empty fields
    draft.finish kind
  | .list [] => .error (.missingField "kind")
  | .list (first :: rest) => do
    let kind <- Kind.ofValue first
    ofItems kind rest
  | other => .error (.wrongType other.found "internally tagged enum PlanNode")

/-- Read the fields of a step of a known kind in order. -/
def ofFields (kind : Kind) (draft : Draft) :
    List (String × Json.Value) -> Except Mismatch Draft
  | [] => .ok draft
  | (name, value) :: rest => do
    let draft <-
      match kind, name with
      | .task, "command" => do
        Mismatch.refuseRepeated name draft.command
        pure { draft with command := some (<- value.asText) }
      | .sequence, "title" => do
        Mismatch.refuseRepeated name draft.title
        pure { draft with title := some (<- value.asText) }
      | .choice, "title" => do
        Mismatch.refuseRepeated name draft.title
        pure { draft with title := some (<- value.asText) }
      | .sequence, "steps" => do
        Mismatch.refuseRepeated name draft.steps
        pure { draft with steps := some (<- stepsOfValue value) }
      | .choice, "alternatives" => do
        Mismatch.refuseRepeated name draft.branches
        pure { draft with branches := some (<- branchesOfValue value) }
      | _, _ => pure draft
    ofFields kind draft rest

/-- The step of a known kind that is written as the list of its fields. -/
def ofItems : Kind -> List Json.Value -> Except Mismatch Step
  | .task, [command] => do return .task (<- command.asText)
  | .sequence, [title, steps] => do
    let title <- title.asText
    return .sequence title (<- stepsOfValue steps)
  | .choice, [title, branches] => do
    let title <- title.asText
    return .choice title (<- branchesOfValue branches)
  | .task, [] => .error (.wrongLength 0 Kind.task.words)
  | .sequence, [] => .error (.wrongLength 0 Kind.sequence.words)
  | .choice, [] => .error (.wrongLength 0 Kind.choice.words)
  | .sequence, [title] => do
    let _ <- title.asText
    throw (.wrongLength 1 Kind.sequence.words)
  | .choice, [title] => do
    let _ <- title.asText
    throw (.wrongLength 1 Kind.choice.words)
  | .task, command :: _ :: rest => do
    let _ <- command.asText
    throw (.overlong (rest.length + 2) 1)
  | .sequence, title :: steps :: _ :: rest => do
    let _ <- title.asText
    let _ <- stepsOfValue steps
    throw (.overlong (rest.length + 3) 2)
  | .choice, title :: branches :: _ :: rest => do
    let _ <- title.asText
    let _ <- branchesOfValue branches
    throw (.overlong (rest.length + 3) 2)

/-- The steps that a value lists. -/
def stepsOfValue : Json.Value -> Except Mismatch (List Step)
  | .list values => stepsOfValues values
  | other => .error (.wrongType other.found "a sequence")

/-- The steps that values are. -/
def stepsOfValues : List Json.Value -> Except Mismatch (List Step)
  | [] => .ok []
  | first :: rest => do
    let step <- ofValue first
    return step :: (<- stepsOfValues rest)

/-- The branches that a value lists. -/
def branchesOfValue : Json.Value -> Except Mismatch (List (Branch Step))
  | .list values => branchesOfValues values
  | other => .error (.wrongType other.found "a sequence")

/-- The branches that values are. -/
def branchesOfValues : List Json.Value -> Except Mismatch (List (Branch Step))
  | [] => .ok []
  | first :: rest => do
    let branch <- branchOfValue first
    return branch :: (<- branchesOfValues rest)

/-- The branch that a value is. -/
def branchOfValue : Json.Value -> Except Mismatch (Branch Step)
  | .object fields => do
    let draft <- branchOfFields ⟨none, none, none⟩ fields
    draft.finish
  | .list values => branchOfItems values
  | other => .error (.wrongType other.found "struct Alternative")

/-- Read the fields of a branch in order. -/
def branchOfFields (draft : BranchDraft) :
    List (String × Json.Value) -> Except Mismatch BranchDraft
  | [] => .ok draft
  | (name, value) :: rest => do
    let draft <-
      match name with
      | "index" => do
        Mismatch.refuseRepeated name draft.index
        pure { draft with index := some (<- value.asWord) }
      | "label" => do
        Mismatch.refuseRepeated name draft.label
        pure { draft with label := some (<- value.asText) }
      | "body" => do
        Mismatch.refuseRepeated name draft.body
        pure { draft with body := some (<- ofValue value) }
      | _ => pure draft
    branchOfFields draft rest

/-- The branch that is written as the list of its fields. -/
def branchOfItems : List Json.Value -> Except Mismatch (Branch Step)
  | [] => .error (.wrongLength 0 "struct Alternative with 3 elements")
  | [index] => do
    let _ <- index.asWord
    throw (.wrongLength 1 "struct Alternative with 3 elements")
  | [index, label] => do
    let _ <- index.asWord
    let _ <- label.asText
    throw (.wrongLength 2 "struct Alternative with 3 elements")
  | [index, label, body] => do
    let index <- index.asWord
    let label <- label.asText
    return ⟨index, label, <- ofValue body⟩
  | index :: label :: body :: _ :: rest => do
    let _ <- index.asWord
    let _ <- label.asText
    let _ <- ofValue body
    throw (.overlong (rest.length + 4) 3)
end

end Step

/-! ## Reading -/

namespace Step

/-- The kind of a step with its other fields, as they are gathered. -/
structure Gathered where
  kind : Option Kind
  fields : List (String × Json.Value)

/-- Read the kind of a step. -/
def kind : Json.Reader Kind := fun text => do
  let (name, left) <- Json.string "variant identifier" text
  match Kind.ofName name with
  | .ok kind => return (kind, left)
  | .error mismatch => throw (.mismatched mismatch left)

/-- Read one field of a step: the kind at once, the others to be kept. -/
def field (value : Json.Reader Json.Value) (name : String) (gathered : Gathered) :
    Json.Reader Gathered := fun text =>
  if name = "kind" then
    (Json.once name gathered.kind kind text).map fun (kind, left) =>
      ({ gathered with kind := kind }, left)
  else
    (Json.kept value name gathered.fields text).map fun (fields, left) =>
      ({ gathered with fields := fields }, left)

/-- Read the fields of a step. -/
def named (value : Json.Reader Json.Value) : Json.Reader (Kind × Json.Value) := fun text => do
  let (gathered, left) <- Json.fields (field value) ⟨none, []⟩ text
  match gathered.kind with
  | some kind => return ((kind, .object gathered.fields.reverse), left)
  | none => throw (.waiting (.missingField "kind") left)

/-- Read a step as the list of its kind and its fields. -/
def listed (value : Json.Reader Json.Value) : Json.Reader (Kind × Json.Value) := fun text => do
  match <- Json.item true kind text with
  | (some kind, left) =>
    let (values, left) <- Json.elementsFrom value left false left
    return ((kind, .list values), left)
  | (none, left) => throw (.waiting (.missingField "kind") left)

/-- Read a step as its kind and its other fields. -/
def gathered : (nesting : Nat) -> Json.Reader (Kind × Json.Value)
  | 0 => Json.record "internally tagged enum PlanNode" none
  | nesting + 1 =>
    let value := Json.value nesting
    Json.record "internally tagged enum PlanNode" (some ⟨listed value, named value⟩)

/-- The step of a kind whose other fields are given. -/
def ofGathered (kind : Kind) : Json.Value -> Except Mismatch Step
  | .object fields => do
    let draft <- ofFields kind .empty fields
    draft.finish kind
  | .list values => ofItems kind values
  | other => .error (.wrongType other.found "internally tagged enum PlanNode")

/-- Read a step, with so many brackets that may be opened. -/
def ofJson (nesting : Nat) : Json.Reader Step := fun text => do
  let ((kind, value), left) <- gathered nesting text
  match ofGathered kind value with
  | .ok step => return (step, left)
  | .error mismatch => throw (.waiting mismatch left)

end Step

namespace Plan

/-- The fields of a plan that have been read. -/
structure Draft where
  input : Option String
  root : Option Step

/-- Read one field of a plan. -/
def field (step : Json.Reader Step) (name : String) (draft : Draft) : Json.Reader Draft :=
  fun text =>
    if name = "input" then
      (Json.once name draft.input (Json.string "a string") text).map fun (value, left) =>
        ({ draft with input := value }, left)
    else if name = "root" then
      (Json.once name draft.root step text).map fun (value, left) =>
        ({ draft with root := value }, left)
    else Json.ignored draft text

/-- Read the fields of a plan. -/
def named (step : Json.Reader Step) : Json.Reader Plan := fun text => do
  let (draft, left) <- Json.fields (field step) ⟨none, none⟩ text
  match draft.input, draft.root with
  | some input, some root => return (⟨input, root⟩, left)
  | none, _ => throw (.waiting (.missingField "input") left)
  | _, none => throw (.waiting (.missingField "root") left)

/-- Read a plan as the list of its fields. -/
def listed (step : Json.Reader Step) : Json.Reader Plan := fun text => do
  match <- Json.item true (Json.string "a string") text with
  | (none, left) => throw (.waiting (.wrongLength 0 "struct Plan with 2 elements") left)
  | (some input, left) =>
    match <- Json.item false step left with
    | (none, left) => throw (.waiting (.wrongLength 1 "struct Plan with 2 elements") left)
    | (some root, left) => return (⟨input, root⟩, left)

/-- Read a plan, with so many brackets that may be opened. -/
def reader : (nesting : Nat) -> Json.Reader Plan
  | 0 => Json.record "struct Plan" none
  | nesting + 1 =>
    let step := Step.ofJson nesting
    Json.record "struct Plan" (some ⟨listed step, named step⟩)

/-- Read a plan from its text. -/
def ofJson (text : String) : Except Json.Failure Plan :=
  Json.whole (reader Json.nestingLimit) text

end Plan
end Guidebook
