import Guidebook.Json.Printer
import Guidebook.Json.Reader
import Guidebook.Section.Basic
import Guidebook.Text.Blank

namespace Guidebook

/-!
# Guidebooks as JSON documents

A section is an object with a `name` and optional `children`, or the list of
the two.  A document is an object with the forest in its field `tree`, or the
list of sections alone.  Fields of other names are passed over.
-/

/-! ## Writing -/

namespace Section

mutual
/-- A section as a value; a command has no field for members. -/
def value : Section -> Json.Value
  | ⟨name, []⟩ => .object [("name", .text name)]
  | ⟨name, first :: rest⟩ =>
    .object [("name", .text name), ("children", .list (first.value :: values rest))]

/-- The sections of a forest as values. -/
def values : Forest -> List Json.Value
  | [] => []
  | first :: rest => first.value :: values rest
end

/-- The compact text of a section. -/
def json (subject : Section) : String := subject.value.compact

end Section

namespace Document

/-- A document as a value. -/
def value (forest : Forest) : Json.Value :=
  .object [("tree", .list (Section.values forest))]

/-- The compact text of a document. -/
def json (forest : Forest) : String := (value forest).compact

end Document

/-! ## Reading -/

namespace Section

/-- The fields of a section that have been read. -/
structure Draft where
  name : Option String
  members : Option Forest

/-- Read one field of a section. -/
def field (members : Json.Reader Forest) (name : String) (draft : Draft) : Json.Reader Draft :=
  fun text =>
    if name = "name" then
      (Json.once name draft.name (Json.string "a string") text).map fun (value, left) =>
        ({ draft with name := value }, left)
    else if name = "children" then
      (Json.once name draft.members members text).map fun (value, left) =>
        ({ draft with members := value }, left)
    else Json.ignored draft text

/-- Read the fields of a section.  Without members it is a command. -/
def named (members : Json.Reader Forest) : Json.Reader Section := fun text => do
  let (draft, left) <- Json.fields (field members) ⟨none, none⟩ text
  match draft.name with
  | some name => return (⟨name, draft.members.getD []⟩, left)
  | none => throw (.waiting (.missingField "name") left)

/-- Read a section as the list of its name and its members. -/
def listed (members : Json.Reader Forest) : Json.Reader Section := fun text => do
  match <- Json.item true (Json.string "a string") text with
  | (none, left) => throw (.waiting (.wrongLength 0 "struct TreeNode with 2 elements") left)
  | (some name, left) =>
    let (members, left) <- Json.item false members left
    return (⟨name, members.getD []⟩, left)

end Section

mutual
/-- Read a section, with so many brackets that may be opened. -/
def Section.ofJson : (nesting : Nat) -> Json.Reader Section
  | 0 => Json.record "struct TreeNode" none
  | nesting + 1 =>
    let members := Forest.ofJson nesting
    Json.record "struct TreeNode" (some ⟨Section.listed members, Section.named members⟩)

/-- Read the sections of a list, with so many brackets that may be opened. -/
def Forest.ofJson : (nesting : Nat) -> Json.Reader Forest
  | 0 => Json.sequence none
  | nesting + 1 => Json.sequence (some (Section.ofJson nesting))
end

namespace Document

/-- Read one field of a document. -/
def field (forest : Json.Reader Forest) (name : String) (seen : Option Forest) :
    Json.Reader (Option Forest) := fun text =>
  if name = "tree" then Json.once name seen forest text else Json.ignored seen text

/-- Read the fields of a document. -/
def named (forest : Json.Reader Forest) : Json.Reader Forest := fun text => do
  match <- Json.fields (field forest) none text with
  | (some forest, left) => return (forest, left)
  | (none, left) => throw (.waiting (.missingField "tree") left)

/-- Read a document as the list of its only field. -/
def listed (forest : Json.Reader Forest) : Json.Reader Forest := fun text => do
  match <- Json.item true forest text with
  | (some forest, left) => return (forest, left)
  | (none, left) =>
    throw (.waiting (.wrongLength 0 "struct GuidebookDocument with 1 element") left)

/-- Read a document with its field, with so many brackets that may be opened. -/
def wrapped : (nesting : Nat) -> Json.Reader Forest
  | 0 => Json.record "struct GuidebookDocument" none
  | nesting + 1 =>
    let forest := Forest.ofJson nesting
    Json.record "struct GuidebookDocument" (some ⟨listed forest, named forest⟩)

/-- Whether a text is a list of sections alone: its first character that is not
blank opens a list. -/
def isBare (text : String) : Bool :=
  (Blank.trimStart text.toList).head? == some '['

/-- Read a document from its text. -/
def ofJson (text : String) : Except Json.Failure Forest :=
  if isBare text then Json.whole (Forest.ofJson Json.nestingLimit) text
  else Json.whole (wrapped Json.nestingLimit) text

end Document
end Guidebook
