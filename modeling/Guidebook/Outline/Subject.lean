import Guidebook.Outline.Basic
import Guidebook.Plan.Basic
import Guidebook.Section.Title

namespace Guidebook

/-!
# Outlines of sections and plans

A section is drawn with a mark of its role: a command behind a dollar sign, an
option with its index and label after its name.  A plan is drawn with the kind
of every step, and a branch as a line of its own between the choice and its
body.
-/

namespace Section

/-- The line of a section: its name, marked with its role. -/
def label (subject : Section) : String :=
  match subject.role with
  | .command => "$ " ++ subject.name
  | .option title =>
    subject.name ++ " [option " ++ toString title.index.toNat ++ ": " ++ title.label ++ "]"
  | .plain => subject.name

mutual
/-- The outline of a section and all below it. -/
def outline : Section -> Outline
  | ⟨name, members⟩ => ⟨label ⟨name, members⟩, outlines members⟩

/-- The outlines of a forest. -/
def outlines : Forest -> List Outline
  | [] => []
  | first :: rest => first.outline :: outlines rest
end

end Section

namespace Step

mutual
/-- The outline of a step. -/
def outline : Step -> Outline
  | .task command => ⟨"task: " ++ command, []⟩
  | .sequence title steps => ⟨"sequence: " ++ title, outlines steps⟩
  | .choice title branches => ⟨"choice: " ++ title, branchOutlines branches⟩

/-- The outlines of a list of steps. -/
def outlines : List Step -> List Outline
  | [] => []
  | first :: rest => first.outline :: outlines rest

/-- The outlines of a list of branches, each with its body as only branch. -/
def branchOutlines : List (Branch Step) -> List Outline
  | [] => []
  | ⟨index, label, body⟩ :: rest =>
    ⟨"[" ++ toString index.toNat ++ "] " ++ label, [body.outline]⟩ :: branchOutlines rest
end

end Step

/-- The outline of a plan: its input, with the root step below. -/
def Plan.outline (plan : Plan) : Outline :=
  ⟨"plan: " ++ plan.input, [plan.root.outline]⟩

end Guidebook
