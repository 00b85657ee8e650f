import Guidebook.Proofs.Storage.Folders

namespace Guidebook
namespace Storage

/-!
# Creating files

A file is created over a path when the path leads to it afterwards and all else remains.
It may be a new file or one that was there.  What else is new are the folders that had to
be made for it.
-/

variable {storage before after : Storage} {path : Path} {content : Bytes}

/-! ## Writing over a file -/

namespace AgreeExcept

variable {place : Location} (agree : AgreeExcept place before after)
include agree

theorem at?_shape_eq (location : Location) :
    (before.root.at? location).map Entry.shape = (after.root.at? location).map Entry.shape := by
  have sameShape : before.root.shape = after.root.shape := congrArg Storage.root agree.shape
  rw [← Entry.at?_shape, ← Entry.at?_shape, sameShape]

theorem remains {location : Location} (apart : location ≠ place) {entry : Entry}
    (located : before.root.at? location = some entry) :
    Exists fun later => after.root.at? location = some later ∧ entry.Remains later := by
  have same := agree.at?_shape_eq location
  rw [located, Option.map_some] at same
  rcases Option.map_eq_some_iff.mp same.symm with ⟨later, isLater, shape⟩
  refine ⟨later, isLater, ?_⟩
  cases entry with
  | file bytes =>
      cases isLater.symm.trans (agree.kept location bytes apart located)
      exact .same _
  | link target =>
      cases later <;> simp [Entry.shape] at shape
      exact shape ▸ .same _
  | folder entries =>
      cases later <;> simp [Entry.shape] at shape
      exact .folder ..

/-- Nothing is new when a file is written over. -/
theorem exists_before {location : Location} {entry : Entry}
    (located : after.root.at? location = some entry) :
    Exists fun old => before.root.at? location = some old := by
  have same := agree.at?_shape_eq location
  rw [located, Option.map_some] at same
  rcases Option.map_eq_some_iff.mp same with ⟨old, isOld, -⟩
  exact ⟨old, isOld⟩

theorem entry?_of_folder {location : Location} {entries : List (Name × Entry)}
    (leads : before.entry? path = .ok (location, .folder entries)) :
    Exists fun later => after.entry? path = .ok (location, .folder later) := by
  rcases agree.entry?_cases path with ⟨fault, fails, -⟩ | ⟨found, left, right, own, other, shape⟩
  · cases leads.symm.trans fails
  · cases leads.symm.trans own
    cases right <;> simp [Entry.shape] at shape
    exact ⟨_, other⟩

end AgreeExcept

/-! ## Creating a file -/

/-- A file is created over a path.  What else is new are folders that some paths lead to. -/
structure Creates (among : Path -> Prop) (path : Path) (content : Bytes) (place : Location)
    (before after : Storage) : Prop where
  here : after.here = before.here
  leads : after.entry? path = .ok (place, .file content)
  kept : forall location entry, location ≠ place -> before.root.at? location = some entry ->
    Exists fun later => after.root.at? location = some later ∧ entry.Remains later
  fresh : forall location entry, location ≠ place -> before.root.at? location = none ->
    after.root.at? location = some entry ->
      Exists fun folder => among folder ∧
        Exists fun entries => after.entry? folder = .ok (location, .folder entries)

/-- A file is written to a vacant name, or over a file that is there. -/
theorem write_cases (written : storage.write path content = .ok after) :
    (Exists fun place => Exists fun name =>
      storage.resolve true path = .ok (.vacant place name) ∧
        after = storage.put place name (.file content)) ∨
      Exists fun place => Exists fun old => storage.entry? path = .ok (place, .file old) ∧
        after = storage.put place.dropLast (place.getLast?.getD []) (.file content) := by
  rw [write] at written
  split at written
  · split at written <;> cases written
  · split at written
    · next place name resolved =>
        cases written
        exact Or.inl ⟨place, name, resolved, rfl⟩
    · next place old resolved =>
        cases written
        exact Or.inr ⟨place, old, entry?_of_resolve resolved, rfl⟩
    · cases written
    · cases written

/-- A file that is written over has the new content. -/
theorem at?_put_over {place : Location} {old : Bytes} (nonempty : place ≠ [])
    (located : storage.root.at? place = some (.file old)) :
    (storage.put place.dropLast (place.getLast?.getD []) (.file content)).root.at? place =
      some (.file content) := by
  rcases List.eq_nil_or_concat place with rfl | ⟨folder, name, rfl⟩
  · exact absurd rfl nonempty
  · have last : (folder ++ [name]).getLast?.getD [] = name := by simp
    rw [List.concat_eq_append] at located ⊢
    rw [List.dropLast_concat, last]
    rcases Entry.exists_folder_of_at? located with ⟨entries, isFolder⟩
    exact (Entry.at?_change_put_self isFolder []).trans (Entry.at?_nil _)

section Creates

variable {among : Path -> Prop} {place : Location} (adds : AddsFolders among storage before)
include adds

/-- After some folders, a new file is added. -/
theorem creates_of_addsFile (file : AddsFile place content before after)
    (leads : after.entry? path = .ok (place, .file content)) :
    Creates among path content place storage after := by
  have grows := adds.toGrows.trans file.toGrows
  refine ⟨grows.here, leads, fun location entry _ => grows.remains location entry, ?_⟩
  intro location entry apart absent found
  rcases file.cases_at? found with ⟨held, isHeld, -⟩ | ⟨same, -⟩
  · rcases adds.fresh location held absent isHeld with ⟨folder, listed, entries, leadsTo⟩
    exact ⟨folder, listed, entry?_folder_of_grows file.toGrows leadsTo⟩
  · exact absurd same apart

/-- After some folders are added, a file is written over. -/
theorem creates_of_agreeExcept (agree : AgreeExcept place before after)
    (leads : after.entry? path = .ok (place, .file content)) :
    Creates among path content place storage after := by
  have sameStart : after.here = before.here := (congrArg Storage.here agree.shape).symm
  refine ⟨sameStart.trans adds.here, leads, ?_, ?_⟩
  · intro location entry apart held
    rcases adds.remains location entry held with ⟨later, isLater, remains⟩
    rcases agree.remains apart isLater with ⟨latest, isLatest, remainsToo⟩
    exact ⟨latest, isLatest, remains.trans remainsToo⟩
  · intro location entry apart absent found
    rcases agree.exists_before found with ⟨held, isHeld⟩
    rcases adds.fresh location held absent isHeld with ⟨folder, listed, entries, leadsTo⟩
    exact ⟨folder, listed, agree.entry?_of_folder leadsTo⟩

/-- To make folders and then to write a file over a path creates the file.  The path has to
have a name, and what it leaves vacant has to be in a folder. -/
theorem creates_of_write {passed : Name} (named : .enter passed ∈ steps path)
    (inFolder : forall place name, before.resolve true path = .ok (.vacant place name) ->
      before.HasFolder place)
    (written : before.write path content = .ok after) :
    Exists fun place => Creates among path content place storage after := by
  rcases write_cases written with ⟨place, name, resolved, rfl⟩ | ⟨place, old, leads, isPut⟩
  · rcases inFolder place name resolved with ⟨entries, isFolder⟩
    have file := addsFile_put (follow_vacant linkLimit (follow_of_resolveSteps resolved).2.2.2)
      content
    have located : (before.put place name (.file content)).root.at? (place ++ [name]) =
        some (.file content) := (Entry.at?_change_put_self isFolder []).trans (Entry.at?_nil _)
    exact ⟨_, creates_of_addsFile adds file (entry?_of_vacant_file file.toGrows located resolved)⟩
  · have agree := agreeExcept_of_write leads written
    have nonempty : place ≠ [] := by
      rintro rfl
      rcases follow_hasFolder_root linkLimit named
        (follow_of_resolveSteps (resolve_of_entry leads)).2.2.2 with ⟨entries, isFolder⟩
      cases (at?_of_entry leads).symm.trans isFolder
    have located : after.root.at? place = some (.file content) :=
      isPut ▸ at?_put_over nonempty (at?_of_entry leads)
    refine ⟨place, creates_of_agreeExcept adds agree ?_⟩
    rcases agree.entry?_cases path with ⟨fault, fails, -⟩ | ⟨found, left, right, own, other, -⟩
    · cases leads.symm.trans fails
    · cases leads.symm.trans own
      cases located.symm.trans (at?_of_entry other)
      exact other

end Creates

end Storage
end Guidebook
