import Guidebook.Storage.Basic

namespace Guidebook
namespace Storage

/-!
# Resolution

A path is followed part by part from the folder it starts in.  A symbolic link
on the way is followed in its place, at most forty of them; the last one is
followed only on request.  A path that ends with a slash asks for a folder.
-/

/-- Where a path leads. -/
inductive Target where
  | found (location : Location) (entry : Entry)
  /-- Nothing has this name in an existing folder. -/
  | vacant (folder : Location) (name : Name)

/-- A step of a path. -/
inductive Step where
  /-- Stay in this folder. -/
  | stay
  | up
  | enter (name : Name)
deriving DecidableEq

/-- The step that a run of bytes writes. -/
def Step.ofRun? (run : Bytes) : Option Step :=
  if run = [] then none
  else if run = [Path.point] then some .stay
  else if run = [Path.point, Path.point] then some .up
  else some (.enter run)

/-- The steps of a path.  A slash at the end is a step that stays. -/
def steps (path : Path) : List Step :=
  path.runs.filterMap Step.ofRun? ++ (if path.isFolderLike then [.stay] else [])

/-- So many bytes are too many for a name. -/
def nameBound : Nat := 256

/-- So many bytes are too many for a path. -/
def pathBound : Nat := 4096

/-- So many links are followed on the way. -/
def linkLimit : Nat := 40

/-- Follow steps from a folder.  `jump` goes on behind a link, and is the only
way in which a walk comes back to steps that it has not seen. -/
def walk (storage : Storage) (followLast : Bool)
    (jump : Location -> List Step -> Except Fault Target) :
    Location -> List Step -> Except Fault Target
  | folder, [] =>
    match storage.root.at? folder with
    | some entry => .ok (.found folder entry)
    | none => .error .notFound
  | folder, .stay :: rest => walk storage followLast jump folder rest
  | folder, .up :: rest => walk storage followLast jump folder.dropLast rest
  | folder, .enter name :: rest =>
    if nameBound ≤ name.length then .error .nameTooLong
    else
      match ((storage.root.at? folder).map Entry.entries).bind (Entry.find? name) with
      | none => if rest.isEmpty then .ok (.vacant folder name) else .error .notFound
      | some (.folder _) => walk storage followLast jump (folder ++ [name]) rest
      | some (.file content) =>
        if rest.isEmpty then .ok (.found (folder ++ [name]) (.file content)) else .error .notFolder
      | some (.link target) =>
        if rest.isEmpty && !followLast then .ok (.found (folder ++ [name]) (.link target))
        else jump (if target.isAbsolute then [] else folder) (steps target ++ rest)

/-- Follow steps from a folder, with so many links that may be followed. -/
def follow (storage : Storage) (followLast : Bool) :
    (links : Nat) -> Location -> List Step -> Except Fault Target
  | 0 => walk storage followLast fun _ _ => .error .tooManyLinks
  | links + 1 => walk storage followLast (follow storage followLast links)

/-- Where some steps of a path lead. -/
def resolveSteps (storage : Storage) (followLast : Bool) (path : Path) (steps : List Step) :
    Except Fault Target :=
  if path.bytes.contains 0 then .error .zeroByte
  else if path.bytes.isEmpty then .error .notFound
  else if pathBound ≤ path.bytes.length then .error .nameTooLong
  else storage.follow followLast linkLimit (if path.isAbsolute then [] else storage.here) steps

/-- Where a path leads. -/
def resolve (storage : Storage) (followLast : Bool) (path : Path) : Except Fault Target :=
  storage.resolveSteps followLast path (steps path)

/-- The entry that a path leads to. -/
def entry? (storage : Storage) (path : Path) : Except Fault (Location × Entry) :=
  match storage.resolve true path with
  | .ok (.found location entry) => .ok (location, entry)
  | .ok (.vacant _ _) => .error .notFound
  | .error fault => .error fault

end Storage
end Guidebook
