import Guidebook.Proofs.Storage.Growth
import Guidebook.Storage.Operations
import Mathlib.Logic.Relation

namespace Guidebook

/-!
# Making folders

Where a path leads to a vacant name, it leads to what is put there.  So the folders that
are made around a path are found over the path itself and over the paths around it, one
parent after the other.  To make them adds these folders to what is stored and nothing
else, also when it fails on the way.
-/

/-- A path is in another one when this is its parent. -/
def Path.IsIn (path folder : Path) : Prop := path.parent? = some folder

namespace Storage

variable {storage before after : Storage}

/-! ## Paths to what is put at a vacant name -/

section Arrival

variable {followLast : Bool} {jump jumpAfter : Location -> List Step -> Except Fault Target}
  {place folder : Location} {name : Name} {entry : Entry} {steps stays : List Step}

theorem walk_of_stays (allStay : forall step, step ∈ stays -> step = .stay)
    (located : storage.root.at? folder = some entry) :
    walk storage followLast jump folder stays = .ok (.found folder entry) := by
  induction stays with
  | nil => exact walk_nil_eq_ok_iff.mpr ⟨rfl, located⟩
  | cons step rest inductionHypothesis =>
      rcases List.forall_mem_cons.mp allStay with ⟨rfl, restStay⟩
      exact inductionHypothesis restStay

/-- A walk that ends at a vacant name goes on to what comes to be there. -/
theorem walk_of_vacant (grows : Grows before after)
    (arrives : name.length < nameBound -> forall jump,
      walk after true jump place (.enter name :: stays) = .ok (.found (place ++ [name]) entry))
    (jumped : forall {folder steps}, jump folder steps = .ok (.vacant place name) ->
      jumpAfter folder (steps ++ stays) = .ok (.found (place ++ [name]) entry))
    (walked : walk before followLast jump folder steps = .ok (.vacant place name)) :
    walk after true jumpAfter folder (steps ++ stays) = .ok (.found (place ++ [name]) entry) := by
  induction steps generalizing folder with
  | nil => exact absurd walked walk_nil_ne_vacant
  | cons step rest inductionHypothesis =>
      cases step with
      | stay => exact inductionHypothesis walked
      | up => exact inductionHypothesis walked
      | enter own =>
          rcases walk_enter_eq_ok_iff.mp walked with ⟨short, enters⟩
          rw [List.cons_append]
          cases enters with
          | vacant absent last =>
              subst last
              exact arrives short jumpAfter
          | folder located onward =>
              rcases grows.hasFolder ⟨_, located⟩ with ⟨entries, isLater⟩
              exact walk_enter_eq_ok_iff.mpr ⟨short, .folder isLater (inductionHypothesis onward)⟩
          | jump located further onward =>
              refine walk_enter_eq_ok_iff.mpr ⟨short, .jump (grows.link located) (Or.inr rfl) ?_⟩
              rw [← List.append_assoc]
              exact jumped onward

theorem follow_of_vacant (grows : Grows before after)
    (arrives : name.length < nameBound -> forall jump,
      walk after true jump place (.enter name :: stays) = .ok (.found (place ++ [name]) entry))
    (links : Nat)
    (followed : follow before followLast links folder steps = .ok (.vacant place name)) :
    follow after true links folder (steps ++ stays) = .ok (.found (place ++ [name]) entry) := by
  induction links generalizing folder steps with
  | zero => exact walk_of_vacant grows arrives (fun tooMany => by cases tooMany) followed
  | succ links inductionHypothesis => exact walk_of_vacant grows arrives inductionHypothesis followed

/-- A path to a vacant name leads to the file that comes to be there. -/
theorem entry?_of_vacant_file (grows : Grows before after) {path : Path} {content : Bytes}
    (located : after.root.at? (place ++ [name]) = some (.file content))
    (resolved : before.resolve true path = .ok (.vacant place name)) :
    after.entry? path = .ok (place ++ [name], .file content) := by
  have followed : after.follow true linkLimit (if path.isAbsolute then [] else before.here)
      (Storage.steps path ++ []) = .ok (.found (place ++ [name]) (.file content)) :=
    follow_of_vacant grows
      (fun short jump => walk_enter_eq_ok_iff.mpr ⟨short, .file located rfl⟩) linkLimit
      (follow_of_resolveSteps resolved).2.2.2
  rw [List.append_nil] at followed
  exact entry?_of_resolve (resolveSteps_of_follow grows.here resolved followed)

/-- A path to a vacant name leads to the folder that comes to be there, also when it ends
with a slash. -/
theorem entry?_of_vacant_folder (grows : Grows before after) {path : Path}
    {entries : List (Name × Entry)}
    (located : after.root.at? (place ++ [name]) = some (.folder entries))
    (resolved : before.resolveSteps false path (bareSteps path) = .ok (.vacant place name)) :
    after.entry? path = .ok (place ++ [name], .folder entries) := by
  have allStay : forall step, step ∈ (if path.isFolderLike then [Step.stay] else []) ->
      step = .stay := by
    intro step listed
    split at listed
    · exact List.mem_singleton.mp listed
    · cases listed
  have followed := follow_of_vacant grows
    (fun short jump => walk_enter_eq_ok_iff.mpr
      ⟨short, .folder located (walk_of_stays allStay located)⟩) linkLimit
    (follow_of_resolveSteps resolved).2.2.2
  exact entry?_of_resolve (resolveSteps_of_follow grows.here resolved followed)

end Arrival

/-! ## Making folders -/

/-- More is stored, and nothing new but folders that some paths lead to. -/
structure AddsFolders (among : Path -> Prop) (before after : Storage) : Prop
    extends Grows before after where
  fresh : forall location entry, before.root.at? location = none ->
    after.root.at? location = some entry ->
      Exists fun folder => among folder ∧
        Exists fun entries => after.entry? folder = .ok (location, .folder entries)

namespace AddsFolders

variable {among wider : Path -> Prop}

theorem refl (among : Path -> Prop) (storage : Storage) : AddsFolders among storage storage :=
  ⟨.refl storage, fun _ _ absent located => by cases absent.symm.trans located⟩

theorem weaken (adds : AddsFolders among before after)
    (isWider : forall {path}, among path -> wider path) : AddsFolders wider before after :=
  ⟨adds.toGrows, fun location entry absent located =>
    (adds.fresh location entry absent located).imp fun _ => And.imp_left isWider⟩

/-- Folders that were made lead where they did after others are made. -/
theorem trans {middle : Storage} (first : AddsFolders among before middle)
    (second : AddsFolders among middle after) : AddsFolders among before after := by
  refine ⟨first.toGrows.trans second.toGrows, fun location entry absent located => ?_⟩
  cases isMiddle : middle.root.at? location with
  | none => exact second.fresh location entry isMiddle located
  | some held =>
      rcases first.fresh location held absent isMiddle with ⟨folder, listed, entries, leads⟩
      exact ⟨folder, listed, entry?_folder_of_grows second.toGrows leads⟩

end AddsFolders

theorem create_eq_ok {path : Path} {entry : Entry} (made : storage.create path entry = .ok after) :
    Exists fun place => Exists fun name =>
      storage.resolveSteps false path (bareSteps path) = .ok (.vacant place name) ∧
        after = storage.put place name entry := by
  rw [create] at made
  split at made
  · next place name resolved =>
      cases made
      exact ⟨place, name, resolved, rfl⟩
  · cases made
  · cases made

theorem addsFolders_makeFolder {path : Path} (made : storage.makeFolder path = .ok after) :
    AddsFolders (· = path) storage after := by
  rcases create_eq_ok made with ⟨place, name, resolved, rfl⟩
  have vacant := follow_vacant linkLimit (follow_of_resolveSteps resolved).2.2.2
  refine ⟨grows_put vacant, fun location entry absent located => ?_⟩
  rcases fresh_put absent located with ⟨⟨entries, isFolder⟩, below, rfl, onward⟩
  have isNew : (storage.put place name (.folder [])).root.at? (place ++ [name]) =
      some (.folder []) := (Entry.at?_change_put_self isFolder []).trans (Entry.at?_nil _)
  cases below with
  | nil => exact ⟨path, rfl, [], entry?_of_vacant_folder (grows_put vacant) isNew resolved⟩
  | cons next later => cases onward

theorem addsFolders_orFolder {among : Path -> Prop} {path : Path} {made : Except Fault Storage}
    (adds : forall {result}, made = .ok result -> AddsFolders among storage result)
    (accepted : storage.orFolder path made = .ok after) : AddsFolders among storage after := by
  cases made with
  | ok result =>
      cases accepted
      exact adds rfl
  | error fault =>
      rw [orFolder] at accepted
      split at accepted
      · cases accepted
        exact .refl among storage
      · cases accepted

/-- To make a folder and those around it adds folders only, over the path and those that it
is in. -/
theorem addsFolders_makeFoldersFrom (levels : Nat) (path : Path) :
    AddsFolders (Relation.ReflTransGen Path.IsIn path) storage
      (storage.makeFoldersFrom levels path).1 := by
  have own {folder : Path} (same : folder = path) : Relation.ReflTransGen Path.IsIn path folder :=
    same ▸ .refl
  induction levels generalizing path with
  | zero => exact .refl _ storage
  | succ levels inductionHypothesis =>
      rw [makeFoldersFrom]
      split
      · exact .refl _ storage
      · split
        · next made => exact (addsFolders_makeFolder made).weaken own
        · split
          · exact .refl _ storage
          · next parent isParent =>
              have around : AddsFolders (Relation.ReflTransGen Path.IsIn path) storage
                  (storage.makeFoldersFrom levels parent).1 :=
                (inductionHypothesis parent (· ▸ .refl)).weaken
                  (Relation.ReflTransGen.head isParent)
              split
              · next outer fault result =>
                  rw [result] at around
                  exact around
              · next outer result =>
                  rw [result] at around
                  split
                  · next accepted =>
                      exact around.trans (addsFolders_orFolder
                        (fun made => (addsFolders_makeFolder made).weaken own) accepted)
                  · exact around
        · split <;> exact .refl _ storage

/-- To make the folders around what a path names adds folders only, over paths that it is in. -/
theorem addsFolders_makeParent (storage : Storage) (path : Path) :
    AddsFolders (Relation.TransGen Path.IsIn path) storage (storage.makeParent path).1 := by
  rw [makeParent]
  split
  · next parent isParent =>
      split
      · exact .refl _ storage
      · exact (addsFolders_makeFoldersFrom _ parent).weaken (Relation.TransGen.head' isParent)
  · exact .refl _ storage

end Storage
end Guidebook
