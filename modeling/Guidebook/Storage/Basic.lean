import Guidebook.Storage.Path

namespace Guidebook

/-!
# Storage

What is stored is a tree of folders, with files and symbolic links at its ends.
A location is the names on the way from the root, and passes folders only; how
a path leads to a location is another matter.

Nobody is kept from anything stored: there are no owners and no rights of access.  A place
that may refuse what is asked of it is not a storage, and answers for itself.
-/

/-- Something stored under a name. -/
inductive Entry where
  | file (content : Bytes)
  | link (target : Path)
  | folder (entries : List (Name × Entry))
deriving Inhabited

/-- The names on the way from the root to an entry. -/
abbrev Location := List Name

namespace Entry

/-- The entries of a folder; anything else has none. -/
def entries : Entry -> List (Name × Entry)
  | .folder entries => entries
  | _ => []

/-- An entry that is a folder. -/
def isFolder : Entry -> Bool
  | .folder _ => true
  | _ => false

/-- An entry that is a file. -/
def isFile : Entry -> Bool
  | .file _ => true
  | _ => false

/-- The entry under a name. -/
def find? (name : Name) : List (Name × Entry) -> Option Entry
  | [] => none
  | (first, entry) :: rest => if first = name then some entry else find? name rest

/-- Put an entry under a name. -/
def put (name : Name) (entry : Entry) : List (Name × Entry) -> List (Name × Entry)
  | [] => [(name, entry)]
  | (first, old) :: rest =>
    if first = name then (first, entry) :: rest else (first, old) :: put name entry rest

/-- Take away the entry under a name. -/
def erase (name : Name) (entries : List (Name × Entry)) : List (Name × Entry) :=
  entries.filter fun entry => entry.1 ≠ name

/-- The entry at a location below this one. -/
def at? (entry : Entry) : Location -> Option Entry
  | [] => some entry
  | name :: below => (find? name entry.entries).bind fun inner => inner.at? below

/-- Change the entries of the folder at a location; without a folder there,
nothing changes. -/
def change (change : List (Name × Entry) -> List (Name × Entry)) : Location -> Entry -> Entry
  | [], .folder entries => .folder (change entries)
  | name :: below, .folder entries =>
    match find? name entries with
    | some inner => .folder (put name (Entry.change change below inner) entries)
    | none => .folder entries
  | _, entry => entry

end Entry

/-- Everything stored, with the location that relative paths start from. -/
structure Storage where
  root : Entry
  here : Location

namespace Storage

/-- Put an entry under a name in a folder. -/
def put (storage : Storage) (folder : Location) (name : Name) (entry : Entry) : Storage :=
  { storage with root := storage.root.change (Entry.put name entry) folder }

/-- Take away the entry under a name in a folder. -/
def erase (storage : Storage) (folder : Location) (name : Name) : Storage :=
  { storage with root := storage.root.change (Entry.erase name) folder }

/-- Nothing but a folder to start from. -/
def empty (here : Location) : Storage :=
  ⟨here.foldr (fun name entry => .folder [(name, entry)]) (.folder []), here⟩

/-- Why something cannot be done with a path. -/
inductive Fault where
  | notFound
  | notFolder
  | isFolder
  | exists
  | tooManyLinks
  | nameTooLong
  | zeroByte
  | notText
deriving Repr, DecidableEq

/-- The fault in words. -/
def Fault.message : Fault -> String
  | .notFound => "No such file or directory (os error 2)"
  | .notFolder => "Not a directory (os error 20)"
  | .isFolder => "Is a directory (os error 21)"
  | .exists => "File exists (os error 17)"
  | .tooManyLinks => "Too many levels of symbolic links (os error 40)"
  | .nameTooLong => "File name too long (os error 36)"
  | .zeroByte => "file name contained an unexpected NUL byte"
  | .notText => "stream did not contain valid UTF-8"

end Storage
end Guidebook
