import Guidebook.Section.Basic
import Guidebook.Toml.Failure
import Guidebook.Toml.Reader

namespace Guidebook

/-!
# Guidebooks as TOML documents

The forest is the list under the key `tree`, usually of repeated headers.  A
section is a table with a `name` and optional `children`, or the list of the two.
Entries under other keys are passed over.
-/

namespace Section

/-- The entries of a section that have been read. -/
structure Found where
  name : Option String
  members : Option Forest

/-- The section that the entries make.  Without members it is a command. -/
def Found.finish (found : Found) : Except Mismatch Section :=
  match found.name with
  | some name => .ok ⟨name, found.members.getD []⟩
  | none => .error (.missingField "name")

mutual
/-- The section that a value is. -/
def ofToml : Toml.Value -> Except Mismatch Section
  | .table entries => do (<- ofEntries ⟨none, none⟩ entries).finish
  | .moment => Found.finish ⟨none, none⟩
  | .list [] => .error (.wrongLength 0 "struct TreeNode with 2 elements")
  | .list [name] => do return ⟨<- name.asText "a string", []⟩
  | .list (name :: members :: _) => do
    let name <- name.asText "a string"
    return ⟨name, <- listOfToml members⟩
  | other => .error (.wrongType other.found "struct TreeNode")

/-- Read the entries of a section in order. -/
def ofEntries (found : Found) : List (String × Toml.Value) -> Except Mismatch Found
  | [] => .ok found
  | (key, value) :: rest => do
    let found <-
      match key with
      | "name" => do pure { found with name := some (<- value.asText "a string") }
      | "children" => do pure { found with members := some (<- listOfToml value) }
      | _ => pure found
    ofEntries found rest

/-- The forest that a value lists. -/
def listOfToml : Toml.Value -> Except Mismatch Forest
  | .list elements => forestOfToml elements
  | other => .error (.wrongType other.found "a sequence")

/-- The sections that values are. -/
def forestOfToml : List Toml.Value -> Except Mismatch Forest
  | [] => .ok []
  | first :: rest => do
    let first <- ofToml first
    return first :: (<- forestOfToml rest)
end

end Section

namespace Document

/-- Read a document from its text. -/
def ofToml (text : String) : Except Toml.Failure Forest :=
  match Toml.document text with
  | .error fault => .error (.unreadable fault)
  | .ok entries =>
    match entries.find? fun entry => entry.1 = "tree" with
    | none => .error (.unfit (.missingField "tree"))
    | some (_, value) => (Section.listOfToml value).mapError .unfit

end Document
end Guidebook
