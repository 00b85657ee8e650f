import Guidebook.Proofs.Storage.Path
import Guidebook.Storage.Resolution

namespace Guidebook

/-!
# Trees of folders

A list of entries may hold anything under any name.  What is stored on a disk is
more regular: the entries of a folder have different names, each of which can be
a name.  Then an entry is known from its location, and a location is read name by
name.  Wherever a path leads, over links or not, it leads to a location.  Whether and
where a walk goes on behind a name is told in cases by what has the name.
-/

namespace Entry

/-- What can be stored: in every folder the names differ and can be names.  A file
and a link have no entries, and nothing is asked of them. -/
inductive IsTree : Entry -> Prop
  | intro {entry : Entry}
      (distinct : (entry.entries.map Prod.fst).Nodup)
      (named : forall name inner, (name, inner) ∈ entry.entries -> Path.IsName name)
      (inside : forall name inner, (name, inner) ∈ entry.entries -> IsTree inner) :
      IsTree entry

namespace IsTree

theorem distinct {entry : Entry} (tree : entry.IsTree) :
    (entry.entries.map Prod.fst).Nodup := by
  cases tree with
  | intro distinct named inside => exact distinct

theorem named {entry inner : Entry} (tree : entry.IsTree) {name : Name}
    (listed : (name, inner) ∈ entry.entries) : Path.IsName name := by
  cases tree with
  | intro distinct named inside => exact named name inner listed

theorem inside {entry inner : Entry} (tree : entry.IsTree) {name : Name}
    (listed : (name, inner) ∈ entry.entries) : inner.IsTree := by
  cases tree with
  | intro distinct named inside => exact inside name inner listed

theorem of_entries_nil {entry : Entry} (isEnd : entry.entries = []) : entry.IsTree :=
  intro (by rw [isEnd]; exact List.nodup_nil) (by simp [isEnd]) (by simp [isEnd])

theorem cons {name : Name} {inner : Entry} {entries : List (Name × Entry)}
    (isName : Path.IsName name) (fresh : name ∉ entries.map Prod.fst) (tree : inner.IsTree)
    (rest : IsTree (.folder entries)) : IsTree (.folder ((name, inner) :: entries)) := by
  refine intro (List.nodup_cons.mpr ⟨fresh, rest.distinct⟩) ?_ ?_
  · intro other held listed
    rcases List.mem_cons.mp listed with same | later
    · cases same
      exact isName
    · exact rest.named later
  · intro other held listed
    rcases List.mem_cons.mp listed with same | later
    · cases same
      exact tree
    · exact rest.inside later

end IsTree

theorem exists_of_isFile {entry : Entry} (isFile : entry.isFile = true) :
    Exists fun content => entry = .file content := by
  cases entry with
  | file content => exact ⟨content, rfl⟩
  | _ => cases isFile

/-! ## Names in a folder -/

theorem mem_of_find? {name : Name} {inner : Entry} {entries : List (Name × Entry)}
    (found : find? name entries = some inner) : (name, inner) ∈ entries := by
  induction entries with
  | nil => cases found
  | cons first rest inductionHypothesis =>
      rw [find?] at found
      split at found
      · next same =>
          cases found
          exact same ▸ List.mem_cons_self
      · exact List.mem_cons_of_mem first (inductionHypothesis found)

/-- With different names, what a folder holds is what is found in it. -/
theorem find?_eq_some_iff {entries : List (Name × Entry)}
    (distinct : (entries.map Prod.fst).Nodup) {name : Name} {inner : Entry} :
    find? name entries = some inner ↔ (name, inner) ∈ entries := by
  refine ⟨mem_of_find?, fun listed => ?_⟩
  induction entries with
  | nil => cases listed
  | cons first rest inductionHypothesis =>
      rcases List.nodup_cons.mp distinct with ⟨fresh, restDistinct⟩
      rw [find?]
      rcases List.mem_cons.mp listed with rfl | later
      · exact if_pos rfl
      · have other : first.1 ≠ name := fun same =>
          fresh (same ▸ List.mem_map.mpr ⟨(name, inner), later, rfl⟩)
        rw [if_neg other]
        exact inductionHypothesis restDistinct later

/-! ## Locations -/

theorem at?_nil (entry : Entry) : entry.at? [] = some entry := by
  rw [at?]

theorem at?_cons (entry : Entry) (name : Name) (below : Location) :
    entry.at? (name :: below) =
      (find? name entry.entries).bind fun inner => inner.at? below := by
  rw [at?]

theorem at?_append (entry : Entry) (front back : Location) :
    entry.at? (front ++ back) = (entry.at? front).bind fun inner => inner.at? back := by
  induction front generalizing entry with
  | nil => rw [at?_nil]; rfl
  | cons name rest inductionHypothesis =>
      rw [List.cons_append, at?_cons, at?_cons, Option.bind_assoc]
      exact Option.bind_congr fun inner _ => inductionHypothesis inner

theorem bind_find?_eq_at? (root : Entry) (folder : Location) (name : Name) :
    ((root.at? folder).map entries).bind (find? name) = root.at? (folder ++ [name]) := by
  rw [at?_append]
  cases root.at? folder with
  | none => rfl
  | some outer =>
      rw [Option.map_some, Option.bind_some, Option.bind_some, at?_cons]
      cases find? name outer.entries with
      | none => rfl
      | some inner => rw [Option.bind_some, at?_nil]

/-- Only a folder has something below it. -/
theorem exists_folder_of_at? {root inner : Entry} {folder below : Location} {name : Name}
    (located : root.at? (folder ++ name :: below) = some inner) :
    Exists fun entries => root.at? folder = some (.folder entries) := by
  rw [at?_append] at located
  rcases Option.bind_eq_some_iff.mp located with ⟨outer, isOuter, onward⟩
  cases outer with
  | folder entries => exact ⟨entries, isOuter⟩
  | _ => cases onward

/-- With different names, the first name on the way is one of the folder, and the
way goes on below it. -/
theorem at?_cons_eq_some_iff {entry found : Entry}
    (distinct : (entry.entries.map Prod.fst).Nodup) {name : Name} {below : Location} :
    entry.at? (name :: below) = some found ↔
      Exists fun inner => (name, inner) ∈ entry.entries ∧ inner.at? below = some found := by
  rw [at?_cons, Option.bind_eq_some_iff]
  simp only [find?_eq_some_iff distinct]

namespace IsTree

/-- Whatever is located in a tree is a tree, and the names on the way can be names. -/
theorem located {entry inner : Entry} (tree : entry.IsTree) {location : Location}
    (located : entry.at? location = some inner) :
    inner.IsTree ∧ forall name, name ∈ location -> Path.IsName name := by
  induction location generalizing entry with
  | nil =>
      rw [at?_nil] at located
      cases located
      exact ⟨tree, fun _ listed => nomatch listed⟩
  | cons first rest inductionHypothesis =>
      rcases (at?_cons_eq_some_iff tree.distinct).mp located with ⟨next, listed, onward⟩
      rcases inductionHypothesis (tree.inside listed) onward with ⟨innerTree, areNames⟩
      exact ⟨innerTree, List.forall_mem_cons.mpr ⟨tree.named listed, areNames⟩⟩

end IsTree

end Entry

namespace Storage

variable {storage : Storage}

/-! ## Entering a name -/

/-- What there is under a name that a walk enters, and where the walk ends then. -/
inductive Enters (storage : Storage) (followLast : Bool)
    (jump : Location -> List Step -> Except Fault Target) (folder : Location) (name : Name)
    (rest : List Step) : Target -> Prop where
  | vacant (absent : storage.root.at? (folder ++ [name]) = none) (last : rest = []) :
      Enters storage followLast jump folder name rest (.vacant folder name)
  | folder {entries : List (Name × Entry)} {target : Target}
      (located : storage.root.at? (folder ++ [name]) = some (.folder entries))
      (onward : walk storage followLast jump (folder ++ [name]) rest = .ok target) :
      Enters storage followLast jump folder name rest target
  | file {content : Bytes}
      (located : storage.root.at? (folder ++ [name]) = some (.file content)) (last : rest = []) :
      Enters storage followLast jump folder name rest (.found (folder ++ [name]) (.file content))
  | link {link : Path} (located : storage.root.at? (folder ++ [name]) = some (.link link))
      (last : rest = []) (stays : followLast = false) :
      Enters storage followLast jump folder name rest (.found (folder ++ [name]) (.link link))
  | jump {link : Path} {target : Target}
      (located : storage.root.at? (folder ++ [name]) = some (.link link))
      (further : rest ≠ [] ∨ followLast = true)
      (jumped : jump (if link.isAbsolute then [] else folder) (steps link ++ rest) = .ok target) :
      Enters storage followLast jump folder name rest target

section Enters

variable {followLast : Bool} {jump : Location -> List Step -> Except Fault Target}
  {folder : Location} {name : Name} {rest : List Step} {target : Target}

theorem enters_of_walk
    (walked : walk storage followLast jump folder (.enter name :: rest) = .ok target) :
    name.length < nameBound ∧ Enters storage followLast jump folder name rest target := by
  rw [walk, Entry.bind_find?_eq_at?] at walked
  split at walked
  · cases walked
  · next short =>
      refine ⟨Nat.lt_of_not_le short, ?_⟩
      split at walked
      · next absent =>
          split at walked
          · next last =>
              cases walked
              exact .vacant absent (List.isEmpty_iff.mp last)
          · cases walked
      · next located => exact .folder located walked
      · next located =>
          split at walked
          · next last =>
              cases walked
              exact .file located (List.isEmpty_iff.mp last)
          · cases walked
      · next located =>
          split at walked
          · next last =>
              cases walked
              rw [Bool.and_eq_true, List.isEmpty_iff, Bool.not_eq_true'] at last
              exact .link located last.1 last.2
          · next further =>
              refine .jump located ?_ walked
              simpa [or_iff_not_imp_left] using further

theorem walk_of_enters (short : name.length < nameBound)
    (enters : Enters storage followLast jump folder name rest target) :
    walk storage followLast jump folder (.enter name :: rest) = .ok target := by
  rw [walk, Entry.bind_find?_eq_at?, if_neg (Nat.not_le_of_lt short)]
  cases enters with
  | vacant absent last => simp [absent, last]
  | folder located onward => simp [located, onward]
  | file located last => simp [located, last]
  | link located last stays => simp [located, last, stays]
  | jump located further jumped =>
      have goesOn : (rest.isEmpty && !followLast) = false := by
        rcases further with further | follows
        · simp [further]
        · simp [follows]
      simp [located, goesOn, jumped]

theorem walk_enter_eq_ok_iff :
    walk storage followLast jump folder (.enter name :: rest) = .ok target ↔
      name.length < nameBound ∧ Enters storage followLast jump folder name rest target :=
  ⟨enters_of_walk, fun both => walk_of_enters both.1 both.2⟩

end Enters

/-! ## Where paths lead -/

/-- A target that is found is where its location says. -/
def Target.IsLocated (storage : Storage) : Target -> Prop
  | .found location entry => storage.root.at? location = some entry
  | .vacant _ _ => True

/-- A walk ends where its last step says, or where the jump behind a link ends. -/
theorem walk_isLocated {storage : Storage} {followLast : Bool}
    {jump : Location -> List Step -> Except Fault Target}
    (jumped : forall {folder steps target}, jump folder steps = .ok target ->
      target.IsLocated storage)
    {folder : Location} {steps : List Step} {target : Target}
    (walked : walk storage followLast jump folder steps = .ok target) :
    target.IsLocated storage := by
  induction steps generalizing folder with
  | nil =>
      rw [walk] at walked
      split at walked
      · next entry located =>
          cases walked
          exact located
      · cases walked
  | cons step rest inductionHypothesis =>
      cases step with
      | stay =>
          rw [walk] at walked
          exact inductionHypothesis walked
      | up =>
          rw [walk] at walked
          exact inductionHypothesis walked
      | enter name =>
          cases (walk_enter_eq_ok_iff.mp walked).2 with
          | vacant absent last => trivial
          | folder located onward => exact inductionHypothesis onward
          | file located last => exact located
          | link located last stays => exact located
          | jump located further onward => exact jumped onward

theorem follow_isLocated {storage : Storage} {followLast : Bool} (links : Nat)
    {folder : Location} {steps : List Step} {target : Target}
    (followed : follow storage followLast links folder steps = .ok target) :
    target.IsLocated storage := by
  -- Each jump leaves one link less to follow, and without any left a jump fails.
  induction links generalizing folder steps target with
  | zero => exact walk_isLocated (fun tooMany => by cases tooMany) followed
  | succ links inductionHypothesis => exact walk_isLocated inductionHypothesis followed

theorem resolve_of_entry {storage : Storage} {path : Path} {location : Location} {entry : Entry}
    (found : storage.entry? path = .ok (location, entry)) :
    storage.resolve true path = .ok (.found location entry) := by
  unfold entry? at found
  split at found
  · next place located resolved =>
      cases found
      exact resolved
  · cases found
  · cases found

/-- A path that is resolved was fit to be followed. -/
theorem follow_of_resolveSteps {storage : Storage} {followLast : Bool} {path : Path}
    {steps : List Step} {target : Target}
    (resolved : storage.resolveSteps followLast path steps = .ok target) :
    path.bytes.contains 0 = false ∧ path.bytes ≠ [] ∧ path.bytes.length < pathBound ∧
      storage.follow followLast linkLimit (if path.isAbsolute then [] else storage.here) steps =
        .ok target := by
  rw [resolveSteps] at resolved
  split at resolved
  · cases resolved
  · next noZero =>
      split at resolved
      · cases resolved
      · next nonempty =>
          split at resolved
          · cases resolved
          · next short =>
              exact ⟨Bool.eq_false_iff.mpr noZero, fun empty => nonempty (List.isEmpty_iff.mpr empty),
                Nat.lt_of_not_le short, resolved⟩

theorem at?_of_entry {storage : Storage} {path : Path} {location : Location} {entry : Entry}
    (found : storage.entry? path = .ok (location, entry)) :
    storage.root.at? location = some entry :=
  follow_isLocated linkLimit (follow_of_resolveSteps (resolve_of_entry found)).2.2.2

end Storage
end Guidebook
