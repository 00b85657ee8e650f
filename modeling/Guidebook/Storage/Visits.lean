import Guidebook.Storage.Basic

namespace Guidebook

/-!
# Visits

A walk over what is stored comes by an entry and then by everything below it, at
most so many levels down.  It comes by links and does not follow them.  A name that
is not kept is passed over, with everything below it.
-/

/-- An entry that a walk comes by, with the path to it. -/
structure Visit where
  path : Path
  entry : Entry

namespace Entry

mutual
/-- The visits at and below an entry that has this name and this path, and is on
this level of the walk. -/
def visits (limit : Option Nat) (keeps : Nat -> Name -> Bool) (level : Nat) (name : Name)
    (path : Path) : Entry -> List Visit
  | .file content => if keeps level name then [⟨path, .file content⟩] else []
  | .link target => if keeps level name then [⟨path, .link target⟩] else []
  | .folder entries =>
    if keeps level name then
      ⟨path, .folder entries⟩ ::
        (if limit.any (· ≤ level) then [] else visitsIn limit keeps (level + 1) path entries)
    else []

/-- The visits at and below the entries of a folder, which are on this level of the
walk. -/
def visitsIn (limit : Option Nat) (keeps : Nat -> Name -> Bool) (level : Nat) (folder : Path) :
    List (Name × Entry) -> List Visit
  | [] => []
  | (name, entry) :: rest =>
    visits limit keeps level name (folder.join ⟨name⟩) entry
      ++ visitsIn limit keeps level folder rest
end

end Entry
end Guidebook
