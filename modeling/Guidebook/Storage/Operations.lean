import Guidebook.Storage.Resolution

namespace Guidebook
namespace Storage

/-!
# Operations

Reading, writing, and making folders and links.  An operation that changes the
storage gives the changed one, and one that fails changes nothing, with the
exception that the folders made on the way to a missing one stay.
-/

/-- The bytes of the file that a path leads to. -/
def readBytes (storage : Storage) (path : Path) : Except Fault Bytes :=
  match storage.entry? path with
  | .ok (_, .file content) => .ok content
  | .ok (_, _) => .error .isFolder
  | .error fault => .error fault

/-- The text of the file that a path leads to. -/
def readText (storage : Storage) (path : Path) : Except Fault String :=
  match storage.readBytes path with
  | .ok content =>
    match Bytes.text? content with
    | some text => .ok text
    | none => .error .notText
  | .error fault => .error fault

/-- A file with a text is read as the text. -/
theorem readText_of_entry {storage : Storage} {path : Path} {place : Location} {text : String}
    (leads : storage.entry? path = .ok (place, .file (Bytes.ofText text))) :
    storage.readText path = .ok text := by
  simp only [readText, readBytes, leads, Bytes.text?_ofText]

/-- Whether a path leads to anything. -/
def isThere (storage : Storage) (path : Path) : Bool :=
  match storage.entry? path with
  | .ok _ => true
  | .error _ => false

/-- Whether a path leads to a file.  Every folder on the way may be searched, so what can go
wrong for a file that is there are the bounds of the path. -/
def isFile (storage : Storage) (path : Path) : Bool :=
  match storage.entry? path with
  | .ok (_, entry) => entry.isFile
  | .error _ => false

/-- Whether a path leads to a folder. -/
def isFolder (storage : Storage) (path : Path) : Bool :=
  match storage.entry? path with
  | .ok (_, entry) => entry.isFolder
  | .error _ => false

/-- The steps of a path without those that stay at its end. -/
def bareSteps (path : Path) : List Step :=
  path.runs.filterMap Step.ofRun?

/-- Write a file: over the one there, or a new one in an existing folder. -/
def write (storage : Storage) (path : Path) (content : Bytes) : Except Fault Storage :=
  if path.isFolderLike then
    match storage.resolveSteps false path (bareSteps path) with
    | .ok _ => .error .isFolder
    | .error fault => .error fault
  else
    match storage.resolve true path with
    | .ok (.vacant folder name) => .ok (storage.put folder name (.file content))
    | .ok (.found location (.file _)) =>
      .ok (storage.put location.dropLast (location.getLast?.getD []) (.file content))
    | .ok (.found _ _) => .error .isFolder
    | .error fault => .error fault

/-- Put a new entry where a path leads to nothing. -/
def create (storage : Storage) (path : Path) (entry : Entry) : Except Fault Storage :=
  match storage.resolveSteps false path (bareSteps path) with
  | .ok (.vacant folder name) => .ok (storage.put folder name entry)
  | .ok (.found _ _) => .error .exists
  | .error fault => .error fault

/-- Make a folder. -/
def makeFolder (storage : Storage) (path : Path) : Except Fault Storage :=
  storage.create path (.folder [])

/-- Make a link to a target, which need not be there.  A path that ends with a
slash asks for a folder, and a new link is none. -/
def makeLink (storage : Storage) (target path : Path) : Except Fault Storage :=
  if target.bytes.isEmpty then .error .notFound
  else if target.bytes.contains 0 then .error .zeroByte
  else
    match storage.create path (.link target) with
    | .ok made => if path.isFolderLike then .error .notFound else .ok made
    | .error fault => .error fault

/-- Accept a storage, or fail unless the path leads to a folder already. -/
def orFolder (storage : Storage) (path : Path) (made : Except Fault Storage) :
    Except Fault Storage :=
  match made with
  | .ok made => .ok made
  | .error fault => if storage.isFolder path then .ok storage else .error fault

/-- Make a folder and the missing folders around it, of which there are at most
so many, giving the storage also when that fails. -/
def makeFoldersFrom (storage : Storage) : (levels : Nat) -> Path -> Storage × Except Fault Unit
  | 0, _ => (storage, .error .notFound)
  | levels + 1, path =>
    if path.bytes.isEmpty then (storage, .ok ())
    else
      match storage.makeFolder path with
      | .ok made => (made, .ok ())
      | .error .notFound =>
        match path.parent? with
        | none => (storage, .error .notFound)
        | some parent =>
          match makeFoldersFrom storage levels parent with
          | (around, .error fault) => (around, .error fault)
          | (around, .ok ()) =>
            match around.orFolder path (around.makeFolder path) with
            | .ok made => (made, .ok ())
            | .error fault => (around, .error fault)
      | .error fault => if storage.isFolder path then (storage, .ok ()) else (storage, .error fault)

/-- Make a folder and the missing folders around it. -/
def makeFolders (storage : Storage) (path : Path) : Storage × Except Fault Unit :=
  storage.makeFoldersFrom (path.bytes.length + 1) path

/-- Make the missing folders around what a path names. -/
def makeParent (storage : Storage) (path : Path) : Storage × Except Fault Unit :=
  match path.parent? with
  | some parent => if parent.bytes.isEmpty then (storage, .ok ()) else storage.makeFolders parent
  | none => (storage, .ok ())

/-- Take away a file, a link, or a folder with everything in it. -/
def remove (storage : Storage) (path : Path) : Except Fault Storage :=
  match storage.resolve false path with
  | .ok (.found location _) =>
    .ok (storage.erase location.dropLast (location.getLast?.getD []))
  | .ok (.vacant _ _) => .error .notFound
  | .error fault => .error fault

end Storage
end Guidebook
