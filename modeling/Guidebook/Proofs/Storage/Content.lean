import Guidebook.Proofs.Storage.Visits
import Guidebook.Storage.Operations

namespace Guidebook

/-!
# Shape and content

The shape of what is stored is everything but the bytes in its files.  Where a path
leads, and what a walk comes by, depends on the shape alone.  To write over a file
keeps the shape and the bytes of every other file; so whatever is asked of the
storage, only a question that reads this one file can have another answer.
-/

namespace Entry

mutual
/-- An entry with no bytes in its files. -/
def shape : Entry -> Entry
  | .file _ => .file []
  | .link target => .link target
  | .folder entries => .folder (shapes entries)

/-- Entries with no bytes in their files. -/
def shapes : List (Name × Entry) -> List (Name × Entry)
  | [] => []
  | (name, entry) :: rest => (name, shape entry) :: shapes rest
end

theorem entries_shape (entry : Entry) : entry.shape.entries = shapes entry.entries := by
  cases entry <;> simp [shape, shapes, entries]

theorem isFile_shape (entry : Entry) : entry.shape.isFile = entry.isFile := by
  cases entry <;> simp [shape, isFile]

theorem isFile_of_shape_eq {entry other : Entry} (same : entry.shape = other.shape) :
    entry.isFile = other.isFile := by
  rw [← isFile_shape, same, isFile_shape]

theorem find?_shapes (name : Name) (entries : List (Name × Entry)) :
    find? name (shapes entries) = (find? name entries).map shape := by
  induction entries with
  | nil => rfl
  | cons first rest inductionHypothesis =>
      rcases first with ⟨own, entry⟩
      rw [shapes, find?, find?]
      split
      · rfl
      · exact inductionHypothesis

theorem at?_shape (entry : Entry) (location : Location) :
    entry.shape.at? location = (entry.at? location).map shape := by
  induction location generalizing entry with
  | nil => simp only [at?_nil, Option.map_some]
  | cons name below inductionHypothesis =>
      rw [at?_cons, at?_cons, entries_shape, find?_shapes]
      cases find? name entry.entries with
      | none => rfl
      | some inner => exact inductionHypothesis inner

end Entry

/-- A visit to an entry with no bytes in its files. -/
def Visit.shape (visit : Visit) : Visit := ⟨visit.path, visit.entry.shape⟩

namespace Entry

section Walk

variable (limit : Option Nat) (keeps : Nat -> Name -> Bool)

mutual
/-- A walk over the shape of an entry comes by the shapes of what it would come by. -/
theorem visits_shape (level : Nat) (name : Name) (path : Path) : (entry : Entry) ->
    entry.shape.visits limit keeps level name path =
      (entry.visits limit keeps level name path).map Visit.shape
  | .file content => by
      rw [shape, visits, visits]
      split <;> simp [Visit.shape, shape]
  | .link target => by
      rw [shape, visits]
      split <;> simp [Visit.shape, shape]
  | .folder entries => by
      rw [shape, visits, visits, visitsIn_shapes (level + 1) path entries]
      split
      · split <;> simp [Visit.shape, shape]
      · rfl

theorem visitsIn_shapes (level : Nat) (folder : Path) : (entries : List (Name × Entry)) ->
    visitsIn limit keeps level folder (shapes entries) =
      (visitsIn limit keeps level folder entries).map Visit.shape
  | [] => rfl
  | (name, entry) :: rest => by
      rw [shapes, visitsIn, visitsIn, List.map_append, visits_shape level name _ entry,
        visitsIn_shapes level folder rest]
end

end Walk

/-! ## Writing over an entry -/

theorem find?_put (name other : Name) (entry : Entry) (entries : List (Name × Entry)) :
    find? other (put name entry entries) =
      if name = other then some entry else find? other entries := by
  induction entries with
  | nil => rfl
  | cons first rest inductionHypothesis =>
      rcases first with ⟨own, held⟩
      rw [put]
      by_cases same : own = name
      · subst same
        rw [if_pos rfl, find?, find?]
        split <;> rfl
      · rw [if_neg same, find?, find?, inductionHypothesis]
        by_cases wanted : own = other
        · subst wanted
          rw [if_pos rfl, if_pos rfl, if_neg (Ne.symm same)]
        · rw [if_neg wanted, if_neg wanted]

theorem shapes_put {name : Name} {old entry : Entry} {entries : List (Name × Entry)}
    (found : find? name entries = some old) (same : entry.shape = old.shape) :
    shapes (put name entry entries) = shapes entries := by
  induction entries with
  | nil => cases found
  | cons first rest inductionHypothesis =>
      rcases first with ⟨own, held⟩
      rw [find?] at found
      rw [put]
      split
      · next isNamed =>
          rw [if_pos isNamed] at found
          cases found
          rw [shapes, shapes, same]
      · next isOther =>
          rw [if_neg isOther] at found
          rw [shapes, shapes, inductionHypothesis found]

section Change

variable {name : Name} {old content : Bytes}

/-- A file that is written over keeps the shape of everything around it. -/
theorem shape_change {root : Entry} {folder : Location}
    (located : root.at? (folder ++ [name]) = some (.file old)) :
    (root.change (put name (.file content)) folder).shape = root.shape := by
  induction folder generalizing root with
  | nil =>
      cases root with
      | folder entries =>
          rw [List.nil_append, at?_cons] at located
          rcases Option.bind_eq_some_iff.mp located with ⟨inner, found, isFile⟩
          rw [at?_nil] at isFile
          cases isFile
          have isFound : find? name entries = some (.file old) := found
          have same : (file content).shape = (file old).shape := by rw [shape, shape]
          rw [change, shape, shape, shapes_put isFound same]
      | _ => rfl
  | cons first below inductionHypothesis =>
      cases root with
      | folder entries =>
          rw [List.cons_append, at?_cons] at located
          rcases Option.bind_eq_some_iff.mp located with ⟨inner, found, isFile⟩
          have isFound : find? first entries = some inner := found
          simp only [change, isFound]
          rw [shape, shape, shapes_put isFound (inductionHypothesis isFile)]
      | _ => rfl

/-- A file that is written over keeps the bytes of every other file. -/
theorem at?_change_of_ne {root : Entry} {folder other : Location} {kept : Bytes}
    (located : root.at? (folder ++ [name]) = some (.file old))
    (apart : other ≠ folder ++ [name]) (isFile : root.at? other = some (.file kept)) :
    (root.change (put name (.file content)) folder).at? other = some (.file kept) := by
  -- Nothing is below a file.
  have ends {names : Location} {bytes : Bytes} {found : Entry}
      (onward : (Entry.file bytes).at? names = some found) : names = [] := by
    cases names with
    | nil => rfl
    | cons next later => cases onward
  induction folder generalizing root other with
  | nil =>
      cases root with
      | folder entries =>
          cases other with
          | nil => cases isFile
          | cons next later =>
              rw [at?_cons] at isFile
              rcases Option.bind_eq_some_iff.mp isFile with ⟨inner, found, onward⟩
              rw [List.nil_append, at?_cons] at located
              rcases Option.bind_eq_some_iff.mp located with ⟨replaced, foundOld, isOld⟩
              rw [at?_nil] at isOld
              cases isOld
              have different : name ≠ next := by
                rintro rfl
                cases foundOld.symm.trans found
                exact apart (congrArg (name :: ·) (ends onward))
              rw [change, at?_cons, Entry.entries, find?_put, if_neg different]
              exact Option.bind_eq_some_iff.mpr ⟨inner, found, onward⟩
      | _ => exact isFile
  | cons first below inductionHypothesis =>
      cases root with
      | folder entries =>
          cases other with
          | nil => cases isFile
          | cons next later =>
              rw [List.cons_append, at?_cons] at located
              rcases Option.bind_eq_some_iff.mp located with ⟨around, foundAround, isOld⟩
              have isFound : find? first entries = some around := foundAround
              rw [at?_cons] at isFile
              rcases Option.bind_eq_some_iff.mp isFile with ⟨inner, found, onward⟩
              simp only [change, isFound]
              rw [at?_cons, Entry.entries, find?_put]
              split
              · next same =>
                  subst same
                  cases foundAround.symm.trans found
                  have below : later ≠ below ++ [name] := fun equal =>
                    apart (congrArg (first :: ·) equal)
                  exact inductionHypothesis isOld below onward
              · exact Option.bind_eq_some_iff.mpr ⟨inner, found, onward⟩
      | _ => exact isFile

end Change

end Entry

namespace Storage

/-- What is stored, with no bytes in its files. -/
def shape (storage : Storage) : Storage := ⟨storage.root.shape, storage.here⟩

/-- A target with no bytes in it. -/
def Target.shape : Target -> Target
  | .found location entry => .found location entry.shape
  | .vacant folder name => .vacant folder name

/-! ## Paths lead where the shape says -/

theorem walk_shape {storage : Storage} {followLast : Bool}
    {jump jumpShape : Location -> List Step -> Except Fault Target}
    (jumped : forall folder steps, jumpShape folder steps = (jump folder steps).map Target.shape)
    (folder : Location) (steps : List Step) :
    walk storage.shape followLast jumpShape folder steps =
      (walk storage followLast jump folder steps).map Target.shape := by
  induction steps generalizing folder with
  | nil =>
      rw [walk, walk, shape, Entry.at?_shape]
      cases storage.root.at? folder <;> rfl
  | cons step rest inductionHypothesis =>
      cases step with
      | stay => exact inductionHypothesis folder
      | up => exact inductionHypothesis folder.dropLast
      | enter name =>
          have entered : storage.shape.root.at? (folder ++ [name]) =
              (storage.root.at? (folder ++ [name])).map Entry.shape := Entry.at?_shape _ _
          rw [walk, walk, Entry.bind_find?_eq_at?, Entry.bind_find?_eq_at?, entered]
          split
          · rfl
          · cases storage.root.at? (folder ++ [name]) with
            | none => simp only [Option.map_none]; split <;> rfl
            | some entry =>
                cases entry with
                | file content =>
                    simp only [Option.map_some, Entry.shape]
                    split <;> simp [Except.map, Target.shape, Entry.shape]
                | folder entries =>
                    simp only [Option.map_some, Entry.shape]
                    exact inductionHypothesis (folder ++ [name])
                | link target =>
                    simp only [Option.map_some, Entry.shape]
                    split
                    · simp [Except.map, Target.shape, Entry.shape]
                    · exact jumped _ _

theorem follow_shape (storage : Storage) (followLast : Bool) (links : Nat) (folder : Location)
    (steps : List Step) :
    storage.shape.follow followLast links folder steps =
      (storage.follow followLast links folder steps).map Target.shape := by
  induction links generalizing folder steps with
  | zero =>
      have refused : forall (folder : Location) (steps : List Step),
          (Except.error Fault.tooManyLinks : Except Fault Target) =
            (Except.error Fault.tooManyLinks).map Target.shape :=
        fun _ _ => rfl
      exact walk_shape refused folder steps
  | succ links inductionHypothesis => exact walk_shape inductionHypothesis folder steps

theorem resolve_shape (storage : Storage) (followLast : Bool) (path : Path) :
    storage.shape.resolve followLast path =
      (storage.resolve followLast path).map Target.shape := by
  simp only [resolve, resolveSteps]
  split
  · rfl
  · split
    · rfl
    · split
      · rfl
      · exact follow_shape storage followLast linkLimit _ _

theorem entry?_shape (storage : Storage) (path : Path) :
    storage.shape.entry? path =
      ( storage.entry? path).map fun found => (found.1, found.2.shape) := by
  unfold entry?
  rw [resolve_shape]
  cases storage.resolve true path with
  | error fault => rfl
  | ok target => cases target <;> rfl

/-! ## Storages that differ in one file -/

/-- Two storages with the same shape, and with the same bytes in all files but the one
at this location. -/
structure AgreeExcept (location : Location) (before after : Storage) : Prop where
  shape : before.shape = after.shape
  kept : forall other content, other ≠ location ->
    before.root.at? other = some (.file content) -> after.root.at? other = some (.file content)

namespace AgreeExcept

variable {location : Location} {before after : Storage}

/-- A path leads to nothing in both storages, or to the same location. -/
theorem entry?_cases (agree : AgreeExcept location before after) (path : Path) :
    (Exists fun fault => before.entry? path = .error fault ∧ after.entry? path = .error fault) ∨
      Exists fun place => Exists fun left => Exists fun right =>
        before.entry? path = .ok (place, left) ∧ after.entry? path = .ok (place, right) ∧
          left.shape = right.shape := by
  have same := entry?_shape before path
  rw [agree.shape, entry?_shape] at same
  cases leads : before.entry? path with
  | error fault =>
      cases leadsToo : after.entry? path with
      | error other =>
          rw [leads, leadsToo] at same
          cases same
          exact Or.inl ⟨fault, rfl, rfl⟩
      | ok found => rw [leads, leadsToo] at same; cases same
  | ok found =>
      cases leadsToo : after.entry? path with
      | error other => rw [leads, leadsToo] at same; cases same
      | ok other =>
          rw [leads, leadsToo] at same
          rcases Prod.mk.inj (Except.ok.inj same) with ⟨samePlace, sameShape⟩
          exact Or.inr ⟨found.1, found.2, other.2, rfl, samePlace ▸ rfl, sameShape.symm⟩

theorem isFile_eq (agree : AgreeExcept location before after) (path : Path) :
    before.isFile path = after.isFile path := by
  rw [isFile, isFile]
  rcases agree.entry?_cases path with ⟨fault, left, right⟩ | ⟨place, held, other, left, right, same⟩
  · rw [left, right]
  · rw [left, right]
    exact Entry.isFile_of_shape_eq same

/-- A path that does not lead to the location is read alike in both storages. -/
theorem readText_eq (agree : AgreeExcept location before after) {path : Path}
    (elsewhere : forall entry, before.entry? path ≠ .ok (location, entry)) :
    before.readText path = after.readText path := by
  have sameBytes : before.readBytes path = after.readBytes path := by
    rw [readBytes, readBytes]
    rcases agree.entry?_cases path with ⟨fault, left, right⟩ |
        ⟨place, held, other, left, right, same⟩
    · rw [left, right]
    · have apart : place ≠ location := fun equal => elsewhere held (equal ▸ left)
      rw [left, right]
      cases held with
      | file content =>
          have kept := agree.kept place content apart (at?_of_entry left)
          rw [at?_of_entry right] at kept
          cases kept
          rfl
      | _ => cases other <;> first | rfl | simp [Entry.shape] at same
  rw [readText, readText, sameBytes]

end AgreeExcept

/-- To write over a file is to change the bytes of this file only. -/
theorem agreeExcept_of_write {storage after : Storage} {path : Path} {location : Location}
    {old content : Bytes} (isFile : storage.entry? path = .ok (location, .file old))
    (written : storage.write path content = .ok after) : AgreeExcept location storage after := by
  have located := at?_of_entry isFile
  rw [write] at written
  split at written
  · split at written <;> cases written
  · rw [resolve_of_entry isFile] at written
    cases written
    rcases List.eq_nil_or_concat location with rfl | ⟨folder, name, rfl⟩
    · -- A root that is a file has no entries, and nothing is put.
      rcases storage with ⟨root, here⟩
      rw [Entry.at?_nil] at located
      cases located
      exact ⟨rfl, fun _ _ _ held => held⟩
    · have last : (folder ++ [name]).getLast?.getD [] = name := by simp
      rw [List.concat_eq_append] at located ⊢
      rw [List.dropLast_concat, last]
      refine ⟨?_, fun other bytes apart held => ?_⟩
      · exact congrArg (Storage.mk · storage.here) (Entry.shape_change located).symm
      · exact Entry.at?_change_of_ne located apart held

end Storage
end Guidebook
