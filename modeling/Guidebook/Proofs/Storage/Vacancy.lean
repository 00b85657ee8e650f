import Guidebook.Proofs.Storage.Tree

namespace Guidebook

/-!
# Names that are vacant

A path may lead to a name that nothing has, in a folder; there something can be put.  The
folder is one indeed when the path starts in a folder.  It is also one when the path enters
a name before the last, since only in a folder there is a name to enter.  So a path from a
current folder that was taken away has no place for a new file below a new folder.
-/

namespace Storage

/-- A folder is at this location. -/
def HasFolder (storage : Storage) (location : Location) : Prop :=
  Exists fun entries => storage.root.at? location = some (.folder entries)

variable {storage : Storage}

/-! ## Folders on the way -/

theorem HasFolder.dropLast {location : Location} (isFolder : storage.HasFolder location) :
    storage.HasFolder location.dropLast := by
  rcases isFolder with ⟨entries, located⟩
  rcases List.eq_nil_or_concat location with rfl | ⟨front, last, rfl⟩
  · exact ⟨entries, located⟩
  · rw [List.concat_eq_append] at located ⊢
    rw [List.dropLast_concat]
    exact Entry.exists_folder_of_at? located

/-- With an entry somewhere below the root, the root is a folder. -/
theorem hasFolder_root {folder : Location} {name : Name} {entry : Entry}
    (located : storage.root.at? (folder ++ [name]) = some entry) : storage.HasFolder [] := by
  cases folder with
  | nil =>
      have below : storage.root.at? ([] ++ name :: []) = some entry := located
      exact Entry.exists_folder_of_at? below
  | cons first rest =>
      have below : storage.root.at? ([] ++ first :: (rest ++ [name])) = some entry := located
      exact Entry.exists_folder_of_at? below

section Vacant

variable {followLast : Bool} {jump : Location -> List Step -> Except Fault Target}
  {place folder : Location} {name : Name} {steps : List Step}

theorem walk_nil_ne_vacant : walk storage followLast jump folder [] ≠ .ok (.vacant place name) := by
  intro walked
  rw [walk] at walked
  split at walked <;> cases walked

/-- Nothing has the name that a walk leaves vacant. -/
theorem walk_vacant
    (jumped : forall {folder steps}, jump folder steps = .ok (.vacant place name) ->
      storage.root.at? (place ++ [name]) = none)
    (walked : walk storage followLast jump folder steps = .ok (.vacant place name)) :
    storage.root.at? (place ++ [name]) = none := by
  induction steps generalizing folder with
  | nil => exact absurd walked walk_nil_ne_vacant
  | cons step rest inductionHypothesis =>
      cases step with
      | stay => exact inductionHypothesis walked
      | up => exact inductionHypothesis walked
      | enter own =>
          cases (walk_enter_eq_ok_iff.mp walked).2 with
          | vacant absent last => exact absent
          | folder located onward => exact inductionHypothesis onward
          | jump located further onward => exact jumped onward

theorem follow_vacant (links : Nat)
    (followed : follow storage followLast links folder steps = .ok (.vacant place name)) :
    storage.root.at? (place ++ [name]) = none := by
  induction links generalizing folder steps with
  | zero => exact walk_vacant (fun tooMany => by cases tooMany) followed
  | succ links inductionHypothesis => exact walk_vacant inductionHypothesis followed

/-- A walk that starts in a folder leaves a name vacant in a folder. -/
theorem walk_hasFolder
    (jumped : forall {folder steps}, storage.HasFolder folder ->
      jump folder steps = .ok (.vacant place name) -> storage.HasFolder place)
    (isFolder : storage.HasFolder folder)
    (walked : walk storage followLast jump folder steps = .ok (.vacant place name)) :
    storage.HasFolder place := by
  induction steps generalizing folder with
  | nil => exact absurd walked walk_nil_ne_vacant
  | cons step rest inductionHypothesis =>
      cases step with
      | stay => exact inductionHypothesis isFolder walked
      | up => exact inductionHypothesis isFolder.dropLast walked
      | enter own =>
          cases (walk_enter_eq_ok_iff.mp walked).2 with
          | vacant absent last => exact isFolder
          | folder located onward => exact inductionHypothesis ⟨_, located⟩ onward
          | jump located further onward =>
              refine jumped ?_ onward
              split
              · exact hasFolder_root located
              · exact isFolder

theorem follow_hasFolder (links : Nat) (isFolder : storage.HasFolder folder)
    (followed : follow storage followLast links folder steps = .ok (.vacant place name)) :
    storage.HasFolder place := by
  induction links generalizing folder steps with
  | zero => exact walk_hasFolder (fun _ tooMany => by cases tooMany) isFolder followed
  | succ links inductionHypothesis => exact walk_hasFolder inductionHypothesis isFolder followed

/-- A walk that enters a name on the way comes by a folder, wherever it starts. -/
theorem walk_hasFolder_of_enter
    (jumped : forall {folder steps}, storage.HasFolder folder ->
      jump folder steps = .ok (.vacant place name) -> storage.HasFolder place)
    {front : List Step} {passed last : Name} (onTheWay : .enter passed ∈ front)
    (walked : walk storage followLast jump folder (front ++ [.enter last]) =
      .ok (.vacant place name)) :
    storage.HasFolder place := by
  induction front generalizing folder with
  | nil => cases onTheWay
  | cons step rest inductionHypothesis =>
      cases step with
      | stay => exact inductionHypothesis (by simpa using onTheWay) walked
      | up => exact inductionHypothesis (by simpa using onTheWay) walked
      | enter own =>
          have isFolder {entry : Entry}
              (located : storage.root.at? (folder ++ [own]) = some entry) :
              storage.HasFolder folder :=
            Entry.exists_folder_of_at? located
          cases (walk_enter_eq_ok_iff.mp walked).2 with
          | vacant absent nothing => exact absurd nothing (by simp)
          | folder located onward => exact walk_hasFolder jumped (isFolder located) walked
          | jump located further onward => exact walk_hasFolder jumped (isFolder located) walked

theorem follow_hasFolder_of_enter (links : Nat) {front : List Step} {passed last : Name}
    (onTheWay : .enter passed ∈ front)
    (followed : follow storage followLast links folder (front ++ [.enter last]) =
      .ok (.vacant place name)) :
    storage.HasFolder place := by
  cases links with
  | zero => exact walk_hasFolder_of_enter (fun _ tooMany => by cases tooMany) onTheWay followed
  | succ links => exact walk_hasFolder_of_enter (follow_hasFolder links) onTheWay followed

/-- A path with a name finds something only below a root that is a folder. -/
theorem walk_hasFolder_root {passed : Name} {entry : Entry} (onTheWay : .enter passed ∈ steps)
    (walked : walk storage followLast jump folder steps = .ok (.found place entry)) :
    storage.HasFolder [] := by
  induction steps generalizing folder with
  | nil => cases onTheWay
  | cons step rest inductionHypothesis =>
      cases step with
      | stay => exact inductionHypothesis (by simpa using onTheWay) walked
      | up => exact inductionHypothesis (by simpa using onTheWay) walked
      | enter own =>
          cases (walk_enter_eq_ok_iff.mp walked).2 with
          | folder located onward => exact hasFolder_root located
          | file located last => exact hasFolder_root located
          | link located last stays => exact hasFolder_root located
          | jump located further onward => exact hasFolder_root located

theorem follow_hasFolder_root (links : Nat) {passed : Name} {entry : Entry}
    (onTheWay : .enter passed ∈ steps)
    (followed : follow storage followLast links folder steps = .ok (.found place entry)) :
    storage.HasFolder [] := by
  cases links with
  | zero => exact walk_hasFolder_root onTheWay followed
  | succ links => exact walk_hasFolder_root onTheWay followed

end Vacant

end Storage
end Guidebook
