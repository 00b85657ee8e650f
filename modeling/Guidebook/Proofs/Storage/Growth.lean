import Guidebook.Proofs.Storage.Content
import Guidebook.Proofs.Storage.Vacancy

namespace Guidebook

/-!
# Growth of what is stored

To put an entry where there is none adds to what is stored and takes nothing away: files
and links stay as they are, and folders stay folders.  A path that leads somewhere leads
there ever after.  A path that led nowhere may come to lead somewhere.  Behind a new folder
this can be a place that was there before, since a path may leave a folder again; behind a
new file there is nothing, so the path leads to the file itself.
-/

namespace Entry

/-- What an entry may become when more is stored: a file or a link stays the same, and a
folder stays a folder. -/
inductive Remains : Entry -> Entry -> Prop where
  | same (entry : Entry) : Remains entry entry
  | folder (before after : List (Name × Entry)) : Remains (.folder before) (.folder after)

theorem Remains.trans {first second third : Entry} (front : Remains first second)
    (back : Remains second third) : Remains first third := by
  cases front with
  | same => exact back
  | folder before after =>
      cases back with
      | same => exact .folder before after
      | folder _ later => exact .folder before later

theorem Remains.exists_folder {entries : List (Name × Entry)} {later : Entry}
    (remains : (Entry.folder entries).Remains later) :
    Exists fun entriesLater => later = .folder entriesLater := by
  cases remains with
  | same => exact ⟨entries, rfl⟩
  | folder _ entriesLater => exact ⟨entriesLater, rfl⟩

theorem Remains.exists_old_folder {entries : List (Name × Entry)} {old : Entry}
    (remains : old.Remains (Entry.folder entries)) :
    Exists fun entriesBefore => old = .folder entriesBefore := by
  cases remains with
  | same => exact ⟨entries, rfl⟩
  | folder entriesBefore => exact ⟨entriesBefore, rfl⟩

/-- At some place there is nothing, or what there is remains. -/
theorem rel_remains_refl (found : Option Entry) : Option.Rel Remains found found := by
  cases found with
  | none => exact .none
  | some entry => exact .some (.same entry)

theorem exists_of_rel_some {old : Entry} {found : Option Entry}
    (related : Option.Rel Remains (some old) found) :
    Exists fun later => found = some later ∧ old.Remains later := by
  cases related with
  | some remains => exact ⟨_, rfl, remains⟩

theorem exists_of_some_rel {later : Entry} {found : Option Entry}
    (related : Option.Rel Remains found (some later)) :
    Exists fun old => found = some old ∧ old.Remains later := by
  cases related with
  | some remains => exact ⟨_, rfl, remains⟩

/-! ## Putting an entry into a folder -/

variable {name : Name} {entry : Entry}

/-- Below an entry that is put into a folder there is what is below the entry. -/
theorem at?_change_put_self {root : Entry} {folder : Location} {entries : List (Name × Entry)}
    (isFolder : root.at? folder = some (.folder entries)) (below : Location) :
    (root.change (put name entry) folder).at? (folder ++ name :: below) = entry.at? below := by
  induction folder generalizing root with
  | nil =>
      rw [at?_nil] at isFolder
      cases isFolder
      rw [change, List.nil_append, at?_cons, Entry.entries, find?_put, if_pos rfl, Option.bind_some]
  | cons first rest inductionHypothesis =>
      rw [at?_cons] at isFolder
      rcases Option.bind_eq_some_iff.mp isFolder with ⟨inner, found, onward⟩
      cases root with
      | folder around =>
          have isFound : find? first around = some inner := found
          simp only [change, isFound]
          rw [List.cons_append, at?_cons, Entry.entries, find?_put, if_pos rfl, Option.bind_some]
          exact inductionHypothesis onward
      | _ => cases found

/-- Beside an entry that is put into a folder everything remains, and nothing is new. -/
theorem at?_change_put (root : Entry) (folder : Location) (name : Name) (entry : Entry)
    (other : Location) :
    (Exists fun below => other = folder ++ name :: below) ∨
      Option.Rel Remains (root.at? other) ((root.change (put name entry) folder).at? other) := by
  induction folder generalizing root other with
  | nil =>
      cases root with
      | folder entries =>
          cases other with
          | nil => exact Or.inr (by rw [at?_nil, at?_nil]; exact .some (.folder ..))
          | cons next later =>
              by_cases same : name = next
              · exact Or.inl ⟨later, same ▸ rfl⟩
              · right
                rw [change, at?_cons, at?_cons, Entry.entries, Entry.entries, find?_put, if_neg same]
                exact rel_remains_refl _
      | _ => exact Or.inr (rel_remains_refl _)
  | cons first rest inductionHypothesis =>
      cases root with
      | folder entries =>
          cases found : find? first entries with
          | none =>
              simp only [change, found]
              exact Or.inr (rel_remains_refl _)
          | some inner =>
              simp only [change, found]
              cases other with
              | nil => exact Or.inr (by rw [at?_nil, at?_nil]; exact .some (.folder ..))
              | cons next later =>
                  rw [at?_cons, at?_cons, Entry.entries, Entry.entries, find?_put]
                  by_cases same : first = next
                  · subst same
                    rw [if_pos rfl, found, Option.bind_some, Option.bind_some]
                    rcases inductionHypothesis inner later with ⟨below, rfl⟩ | related
                    · exact Or.inl ⟨below, rfl⟩
                    · exact Or.inr related
                  · rw [if_neg same]
                    exact Or.inr (rel_remains_refl _)
      | _ => exact Or.inr (rel_remains_refl _)

end Entry

namespace Storage

/-- More is stored: what was there remains, and relative paths start where they did. -/
structure Grows (before after : Storage) : Prop where
  here : after.here = before.here
  remains : forall location entry, before.root.at? location = some entry ->
    Exists fun later => after.root.at? location = some later ∧ entry.Remains later

variable {before after storage : Storage}

namespace Grows

theorem refl (storage : Storage) : Grows storage storage :=
  ⟨rfl, fun _ entry located => ⟨entry, located, .same entry⟩⟩

theorem trans {middle : Storage} (first : Grows before middle) (second : Grows middle after) :
    Grows before after := by
  refine ⟨second.here.trans first.here, fun location entry located => ?_⟩
  rcases first.remains location entry located with ⟨later, isLater, remains⟩
  rcases second.remains location later isLater with ⟨latest, isLatest, remainsToo⟩
  exact ⟨latest, isLatest, remains.trans remainsToo⟩

end Grows

/-! ## Putting an entry where there is none -/

section Put

variable {folder : Location} {name : Name} {entry : Entry}

theorem grows_put (vacant : storage.root.at? (folder ++ [name]) = none) :
    Grows storage (storage.put folder name entry) := by
  refine ⟨rfl, fun location held located => ?_⟩
  rcases Entry.at?_change_put storage.root folder name entry location with
    ⟨below, rfl⟩ | related
  · rw [List.append_cons, Entry.at?_append, vacant] at located
    cases located
  · rw [located] at related
    exact Entry.exists_of_rel_some related

/-- No folder comes to be where an entry is put into it. -/
theorem hasFolder_of_put (isFolder : (storage.put folder name entry).HasFolder folder) :
    storage.HasFolder folder := by
  rcases isFolder with ⟨entries, located⟩
  rcases Entry.at?_change_put storage.root folder name entry folder with
    ⟨below, same⟩ | related
  · exact absurd (congrArg List.length same) (by simp)
  · rw [put] at located
    rw [located] at related
    rcases Entry.exists_of_some_rel related with ⟨old, isOld, remains⟩
    rcases remains.exists_old_folder with ⟨entriesBefore, rfl⟩
    exact ⟨entriesBefore, isOld⟩

/-- What is new is at the entry or below it, and then there is a folder to put it into. -/
theorem fresh_put {location : Location} {found : Entry}
    (absent : storage.root.at? location = none)
    (located : (storage.put folder name entry).root.at? location = some found) :
    storage.HasFolder folder ∧
      Exists fun below => location = folder ++ name :: below ∧ entry.at? below = some found := by
  rcases Entry.at?_change_put storage.root folder name entry location with
    ⟨below, rfl⟩ | related
  · rcases hasFolder_of_put (Entry.exists_folder_of_at? located) with ⟨entries, isFolder⟩
    have onward : (storage.put folder name entry).root.at? (folder ++ name :: below) =
        entry.at? below := Entry.at?_change_put_self isFolder below
    exact ⟨⟨entries, isFolder⟩, below, rfl, onward.symm.trans located⟩
  · rw [put] at located
    rw [absent, located] at related
    cases related

end Put

/-! ## Paths ever after -/

namespace Grows

variable (grows : Grows before after) {location : Location}
include grows

theorem hasFolder (isFolder : before.HasFolder location) : after.HasFolder location := by
  rcases isFolder with ⟨entries, located⟩
  rcases grows.remains _ _ located with ⟨later, isLater, remains⟩
  rcases remains.exists_folder with ⟨entriesLater, rfl⟩
  exact ⟨entriesLater, isLater⟩

theorem file {content : Bytes} (located : before.root.at? location = some (.file content)) :
    after.root.at? location = some (.file content) := by
  rcases grows.remains _ _ located with ⟨later, isLater, remains⟩
  cases remains
  exact isLater

theorem link {target : Path} (located : before.root.at? location = some (.link target)) :
    after.root.at? location = some (.link target) := by
  rcases grows.remains _ _ located with ⟨later, isLater, remains⟩
  cases remains
  exact isLater

end Grows

section Paths

variable {followLast : Bool} {jump jumpAfter : Location -> List Step -> Except Fault Target}
  {place folder : Location} {entry : Entry} {steps : List Step}

theorem walk_nil_eq_ok_iff :
    walk storage followLast jump folder [] = .ok (.found place entry) ↔
      folder = place ∧ storage.root.at? folder = some entry := by
  rw [walk]
  cases storage.root.at? folder with
  | none => simp
  | some held => simp

/-- A walk that finds something finds what remains of it when more is stored. -/
theorem walk_of_grows (grows : Grows before after)
    (jumped : forall {folder steps}, jump folder steps = .ok (.found place entry) ->
      Exists fun later => jumpAfter folder steps = .ok (.found place later) ∧ entry.Remains later)
    (walked : walk before followLast jump folder steps = .ok (.found place entry)) :
    Exists fun later =>
      walk after followLast jumpAfter folder steps = .ok (.found place later) ∧
        entry.Remains later := by
  induction steps generalizing folder with
  | nil =>
      rcases walk_nil_eq_ok_iff.mp walked with ⟨rfl, located⟩
      rcases grows.remains _ _ located with ⟨later, isLater, remains⟩
      exact ⟨later, walk_nil_eq_ok_iff.mpr ⟨rfl, isLater⟩, remains⟩
  | cons step rest inductionHypothesis =>
      cases step with
      | stay => exact inductionHypothesis walked
      | up => exact inductionHypothesis walked
      | enter name =>
          rcases walk_enter_eq_ok_iff.mp walked with ⟨short, enters⟩
          cases enters with
          | folder located onward =>
              rcases grows.hasFolder ⟨_, located⟩ with ⟨entries, isLater⟩
              rcases inductionHypothesis onward with ⟨later, walkedAfter, remains⟩
              exact ⟨later, walk_enter_eq_ok_iff.mpr ⟨short, .folder isLater walkedAfter⟩, remains⟩
          | file located last =>
              exact ⟨_, walk_enter_eq_ok_iff.mpr ⟨short, .file (grows.file located) last⟩, .same _⟩
          | link located last stays =>
              exact ⟨_, walk_enter_eq_ok_iff.mpr ⟨short, .link (grows.link located) last stays⟩,
                .same _⟩
          | jump located further onward =>
              rcases jumped onward with ⟨later, walkedAfter, remains⟩
              exact ⟨later, walk_enter_eq_ok_iff.mpr
                ⟨short, .jump (grows.link located) further walkedAfter⟩, remains⟩

theorem follow_of_grows (grows : Grows before after) (links : Nat)
    (followed : follow before followLast links folder steps = .ok (.found place entry)) :
    Exists fun later =>
      follow after followLast links folder steps = .ok (.found place later) ∧
        entry.Remains later := by
  induction links generalizing folder steps with
  | zero => exact walk_of_grows grows (fun tooMany => by cases tooMany) followed
  | succ links inductionHypothesis => exact walk_of_grows grows inductionHypothesis followed

end Paths

/-- What a path has to be so that it can be followed does not depend on what is stored. -/
theorem resolveSteps_of_follow {followLast followLastToo : Bool} {path : Path}
    {steps stepsToo : List Step} {target targetAfter : Target} (sameStart : after.here = before.here)
    (resolved : before.resolveSteps followLast path steps = .ok target)
    (followed : after.follow followLastToo linkLimit
      (if path.isAbsolute then [] else before.here) stepsToo = .ok targetAfter) :
    after.resolveSteps followLastToo path stepsToo = .ok targetAfter := by
  rcases follow_of_resolveSteps resolved with ⟨noZero, nonempty, short, -⟩
  rw [resolveSteps, noZero, if_neg Bool.false_ne_true, List.isEmpty_eq_false_iff.mpr nonempty,
    if_neg Bool.false_ne_true, if_neg (Nat.not_le_of_lt short), sameStart]
  exact followed

theorem entry?_of_resolve {path : Path} {place : Location} {entry : Entry}
    (resolved : storage.resolve true path = .ok (.found place entry)) :
    storage.entry? path = .ok (place, entry) := by
  unfold entry?
  rw [resolved]

/-- A path that leads somewhere leads there when more is stored. -/
theorem entry?_of_grows (grows : Grows before after) {path : Path} {place : Location}
    {entry : Entry} (leads : before.entry? path = .ok (place, entry)) :
    Exists fun later => after.entry? path = .ok (place, later) ∧ entry.Remains later := by
  have resolved := resolve_of_entry leads
  rcases follow_of_grows grows linkLimit (follow_of_resolveSteps resolved).2.2.2 with
    ⟨later, followed, remains⟩
  exact ⟨later, entry?_of_resolve (resolveSteps_of_follow grows.here resolved followed), remains⟩

theorem entry?_folder_of_grows (grows : Grows before after) {path : Path} {place : Location}
    {entries : List (Name × Entry)} (leads : before.entry? path = .ok (place, .folder entries)) :
    Exists fun entriesLater => after.entry? path = .ok (place, .folder entriesLater) := by
  rcases entry?_of_grows grows leads with ⟨later, leadsToo, remains⟩
  rcases remains.exists_folder with ⟨entriesLater, rfl⟩
  exact ⟨entriesLater, leadsToo⟩

/-! ## Paths to a new file -/

/-- More is stored, and nothing new but one file. -/
structure AddsFile (place : Location) (content : Bytes) (before after : Storage) : Prop
    extends Grows before after where
  fresh : forall location entry, before.root.at? location = none ->
    after.root.at? location = some entry -> location = place ∧ entry = .file content

theorem addsFile_put {folder : Location} {name : Name}
    (vacant : storage.root.at? (folder ++ [name]) = none) (content : Bytes) :
    AddsFile (folder ++ [name]) content storage (storage.put folder name (.file content)) := by
  refine ⟨grows_put vacant, fun location entry absent located => ?_⟩
  rcases fresh_put absent located with ⟨-, below, rfl, onward⟩
  cases below with
  | nil =>
      rw [Entry.at?_nil] at onward
      exact ⟨rfl, (Option.some.inj onward).symm⟩
  | cons next later => cases onward

section New

variable {place : Location} {content : Bytes} (adds : AddsFile place content before after)
include adds

/-- What is there remains of what was there, or it is the new file. -/
theorem AddsFile.cases_at? {location : Location} {entry : Entry}
    (located : after.root.at? location = some entry) :
    (Exists fun old => before.root.at? location = some old ∧ old.Remains entry) ∨
      location = place ∧ entry = .file content := by
  cases isOld : before.root.at? location with
  | none => exact Or.inr (adds.fresh location entry isOld located)
  | some old =>
      rcases adds.remains location old isOld with ⟨later, isLater, remains⟩
      cases located.symm.trans isLater
      exact Or.inl ⟨old, rfl, remains⟩

theorem AddsFile.hasFolder_before {location : Location} (isFolder : after.HasFolder location) :
    before.HasFolder location := by
  rcases isFolder with ⟨entries, located⟩
  rcases adds.cases_at? located with ⟨old, isOld, remains⟩ | ⟨-, isFile⟩
  · rcases remains.exists_old_folder with ⟨entriesBefore, rfl⟩
    exact ⟨entriesBefore, isOld⟩
  · cases isFile

theorem AddsFile.link_before {location : Location} {target : Path}
    (located : after.root.at? location = some (.link target)) :
    before.root.at? location = some (.link target) := by
  rcases adds.cases_at? located with ⟨old, isOld, remains⟩ | ⟨-, isFile⟩
  · cases remains
    exact isOld
  · cases isFile

theorem AddsFile.file_before {location : Location} {bytes : Bytes}
    (located : after.root.at? location = some (.file bytes)) :
    before.root.at? location = some (.file bytes) ∨
      location = place ∧ Entry.file bytes = .file content := by
  rcases adds.cases_at? located with ⟨old, isOld, remains⟩ | isNew
  · cases remains
    exact Or.inl isOld
  · exact Or.inr isNew

variable {followLast : Bool} {jump jumpAfter : Location -> List Step -> Except Fault Target}
  {folder found : Location} {entry : Entry} {steps : List Step}

/-- A walk that finds something found it before, or it finds the new file. -/
theorem walk_of_addsFile
    (jumped : forall {folder steps}, jumpAfter folder steps = .ok (.found found entry) ->
      (Exists fun old => jump folder steps = .ok (.found found old)) ∨
        found = place ∧ entry = .file content)
    (walked : walk after followLast jumpAfter folder steps = .ok (.found found entry)) :
    (Exists fun old => walk before followLast jump folder steps = .ok (.found found old)) ∨
      found = place ∧ entry = .file content := by
  induction steps generalizing folder with
  | nil =>
      rcases walk_nil_eq_ok_iff.mp walked with ⟨rfl, located⟩
      exact (adds.cases_at? located).imp
        (fun ⟨old, isOld, _⟩ => ⟨old, walk_nil_eq_ok_iff.mpr ⟨rfl, isOld⟩⟩) id
  | cons step rest inductionHypothesis =>
      cases step with
      | stay => exact inductionHypothesis walked
      | up => exact inductionHypothesis walked
      | enter name =>
          rcases walk_enter_eq_ok_iff.mp walked with ⟨short, enters⟩
          cases enters with
          | folder located onward =>
              rcases adds.hasFolder_before ⟨_, located⟩ with ⟨entries, isOld⟩
              refine (inductionHypothesis onward).imp_left fun ⟨old, walkedBefore⟩ => ?_
              exact ⟨old, walk_enter_eq_ok_iff.mpr ⟨short, .folder isOld walkedBefore⟩⟩
          | file located last =>
              refine (adds.file_before located).imp_left fun isOld => ?_
              exact ⟨_, walk_enter_eq_ok_iff.mpr ⟨short, .file isOld last⟩⟩
          | link located last stays =>
              have isOld := adds.link_before located
              exact Or.inl ⟨_, walk_enter_eq_ok_iff.mpr ⟨short, .link isOld last stays⟩⟩
          | jump located further onward =>
              have isOld := adds.link_before located
              refine (jumped onward).imp_left fun ⟨old, walkedBefore⟩ => ?_
              exact ⟨old, walk_enter_eq_ok_iff.mpr ⟨short, .jump isOld further walkedBefore⟩⟩

theorem follow_of_addsFile (links : Nat)
    (followed : follow after followLast links folder steps = .ok (.found found entry)) :
    (Exists fun old => follow before followLast links folder steps = .ok (.found found old)) ∨
      found = place ∧ entry = .file content := by
  induction links generalizing folder steps with
  | zero => exact walk_of_addsFile adds (fun tooMany => by cases tooMany) followed
  | succ links inductionHypothesis => exact walk_of_addsFile adds inductionHypothesis followed

/-- A path that leads somewhere led there before, or it leads to the new file. -/
theorem entry?_of_addsFile {path : Path} (leads : after.entry? path = .ok (found, entry)) :
    (Exists fun old => before.entry? path = .ok (found, old)) ∨
      found = place ∧ entry = .file content := by
  have resolved := resolve_of_entry leads
  have followed := (follow_of_resolveSteps resolved).2.2.2
  rw [adds.here] at followed
  refine (follow_of_addsFile adds linkLimit followed).imp_left fun ⟨old, followedBefore⟩ => ?_
  rw [← adds.here] at followedBefore
  exact ⟨old, entry?_of_resolve (resolveSteps_of_follow adds.here.symm resolved followedBefore)⟩

end New

end Storage
end Guidebook
