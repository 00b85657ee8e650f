namespace Guidebook

/-!
# Outlines

An outline is a labelled tree drawn line by line: the label of the root, then
each branch below it behind a drawn prefix.  A label is drawn as it stands, also
when it holds a line break, so an outline is told from its drawing only where no
label does.
-/

/-- A label with outlines below it. -/
inductive Outline where
  | mk (label : String) (branches : List Outline)
deriving Repr, Inhabited

namespace Outline

/-- How far the drawing of a branch is indented, and with what. -/
structure Rail where
  /-- In front of the branch's own label. -/
  corner : String
  /-- In front of everything below it. -/
  follow : String

/-- The rail of a branch with branches after it. -/
def Rail.middle : Rail := ⟨"├── ", "│   "⟩

/-- The rail of a last branch. -/
def Rail.last : Rail := ⟨"└── ", "    "⟩

/-- The rail of a branch, by whether others come after it. -/
def Rail.of (later : List Outline) : Rail :=
  if later.isEmpty then .last else .middle

mutual
/-- The lines of an outline that stands behind an indentation, the label
behind `lead` and the branches behind `indent`. -/
def linesFrom (lead indent : String) : Outline -> List String
  | ⟨label, branches⟩ => (lead ++ label) :: linesOfBranches indent branches

/-- The lines of branches, each behind its rail. -/
def linesOfBranches (indent : String) : List Outline -> List String
  | [] => []
  | first :: rest =>
    let rail := Rail.of rest
    linesFrom (indent ++ rail.corner) (indent ++ rail.follow) first ++ linesOfBranches indent rest
end

/-- The lines of an outline. -/
def lines (outline : Outline) : List String :=
  linesFrom "" "" outline

/-- The drawing: every line with a line break after it. -/
def draw (outline : Outline) : String :=
  String.join (outline.lines.map (· ++ "\n"))

end Outline
end Guidebook
