import Guidebook.Proofs.Storage.Tree
import Guidebook.Storage.Operations

namespace Guidebook

/-!
# Where paths below a folder lead

A path that leads to a folder goes on below it when names are put behind it.  It has
the same steps, with one more for each name, and follows the same links; how many of
them are left is of no matter behind the folder, where the names pass other folders
only.  So a path to a file below a folder leads to the location of the folder with
the names behind it, unless the path or one of the names is too long.
-/

namespace Path

variable {folder : Path} {name : Name}

theorem bytes_join (folder : Path) (isName : IsName name) :
    (folder.join ⟨name⟩).bytes =
      if folder.bytes.isEmpty || folder.isFolderLike then folder.bytes ++ name
      else folder.bytes ++ slash :: name := by
  rw [join, isAbsolute_of_isName isName, if_neg Bool.false_ne_true]
  split <;> rfl

theorem isFolderLike_join (folder : Path) (isName : IsName name) :
    (folder.join ⟨name⟩).isFolderLike = false := by
  have last (front : Bytes) : (front ++ name).getLast? ≠ some slash := by
    intro ends
    rw [List.getLast?_append, List.getLast?_eq_some_getLast isName.nonempty, Option.some_or] at ends
    exact isName.noSlash (Option.some.inj ends ▸ List.getLast_mem isName.nonempty)
  rw [isFolderLike, bytes_join folder isName]
  split
  · simpa using last folder.bytes
  · simpa using last (folder.bytes ++ [slash])

theorem isAbsolute_join (nonempty : folder.bytes ≠ []) (isName : IsName name) :
    (folder.join ⟨name⟩).isAbsolute = folder.isAbsolute := by
  rcases List.exists_cons_of_ne_nil nonempty with ⟨first, rest, bytes⟩
  rw [isAbsolute, isAbsolute, bytes_join folder isName, bytes]
  split <;> rfl

theorem bytes_join_ne_nil (folder : Path) (isName : IsName name) :
    (folder.join ⟨name⟩).bytes ≠ [] := by
  rw [bytes_join folder isName]
  split <;> simp [isName.nonempty]

theorem under_concat (folder : Path) (names : List Name) (name : Name) :
    folder.under (names ++ [name]) = (folder.under names).join ⟨name⟩ := by
  rw [under, List.foldl_append]
  rfl

theorem bytes_under_ne_nil {names : List Name} (nonempty : folder.bytes ≠ [])
    (areNames : forall name, name ∈ names -> IsName name) : (folder.under names).bytes ≠ [] := by
  rcases List.eq_nil_or_concat names with rfl | ⟨front, last, rfl⟩
  · exact nonempty
  · rw [List.concat_eq_append] at areNames ⊢
    rw [under_concat]
    exact bytes_join_ne_nil _ (areNames last (List.mem_append_right front List.mem_cons_self))

end Path

namespace Storage

open Guidebook.Path (IsName)

theorem Step.ofRun?_of_isName {name : Name} (isName : IsName name) :
    Step.ofRun? name = some (.enter name) := by
  rw [ofRun?, if_neg isName.nonempty, if_neg isName.notHere, if_neg isName.notUp]

/-! ## Steps -/

/-- What stands behind a slash adds its own steps. -/
theorem bareSteps_append_slash (before after : Bytes) :
    bareSteps ⟨before ++ Path.slash :: after⟩ = bareSteps ⟨before⟩ ++ bareSteps ⟨after⟩ := by
  rw [bareSteps, Path.runs, Path.splitFrom_append, List.filterMap_append]
  rfl

/-- A name put behind a folder is one more step. -/
theorem bareSteps_join {folder : Path} {name : Name} (nonempty : folder.bytes ≠ [])
    (isName : IsName name) :
    bareSteps (folder.join ⟨name⟩) = bareSteps folder ++ [.enter name] := by
  have own : bareSteps ⟨name⟩ = [.enter name] := by
    rw [bareSteps, Path.runs_of_isName isName,
      List.filterMap_cons_some (Step.ofRun?_of_isName isName), List.filterMap_nil]
  rcases folder with ⟨bytes⟩
  rw [Path.join, Path.isAbsolute_of_isName isName, if_neg Bool.false_ne_true]
  by_cases ended : bytes.getLast? = some Path.slash
  · rcases List.getLast?_eq_some_iff.mp ended with ⟨before, rfl⟩
    have noStep : bareSteps ⟨before ++ [Path.slash]⟩ = bareSteps ⟨before⟩ :=
      (bareSteps_append_slash before []).trans (List.append_nil _)
    simp [Path.isFolderLike, bareSteps_append_slash, own, noStep]
  · have notEmpty : bytes ≠ [] := nonempty
    simp [Path.isFolderLike, notEmpty, ended, bareSteps_append_slash, own]

theorem steps_eq (path : Path) :
    steps path = bareSteps path ++ (if path.isFolderLike then [.stay] else []) := rfl

theorem steps_join {folder : Path} {name : Name} (nonempty : folder.bytes ≠ [])
    (isName : IsName name) :
    steps (folder.join ⟨name⟩) = bareSteps folder ++ [.enter name] := by
  rw [steps_eq, Path.isFolderLike_join folder isName, if_neg Bool.false_ne_true, List.append_nil,
    bareSteps_join nonempty isName]

/-- The steps of a path below a folder, with what else its resolution asks for. -/
theorem steps_under {folder : Path} {names : List Name} (nonempty : folder.bytes ≠ [])
    (areNames : forall name, name ∈ names -> IsName name) (below : names ≠ []) :
    steps (folder.under names) = bareSteps folder ++ names.map .enter ∧
      (folder.under names).isAbsolute = folder.isAbsolute ∧
      (folder.under names).bytes ≠ [] := by
  induction names generalizing folder with
  | nil => exact absurd rfl below
  | cons name rest inductionHypothesis =>
      have isName := areNames name List.mem_cons_self
      have later := fun other listed => areNames other (List.mem_cons_of_mem name listed)
      have joined := Path.bytes_join_ne_nil folder isName
      rw [Path.under_cons]
      cases rest with
      | nil => exact ⟨steps_join nonempty isName, Path.isAbsolute_join nonempty isName, joined⟩
      | cons next others =>
          rcases inductionHypothesis joined later (List.cons_ne_nil _ _) with
            ⟨onward, absolute, written⟩
          refine ⟨?_, absolute.trans (Path.isAbsolute_join nonempty isName), written⟩
          rw [onward, bareSteps_join nonempty isName, List.append_assoc]
          rfl

/-! ## Walking through a folder -/

section Walk

variable {storage : Storage} {base : Location} {entries : List (Name × Entry)}

theorem walk_stay {jump : Location -> List Step -> Except Fault Target} {folder : Location}
    {stays : List Step} (allStay : forall step, step ∈ stays -> step = .stay) {found : Location}
    {entry : Entry}
    (walked : walk storage true jump folder stays = .ok (.found found entry)) :
    folder = found := by
  induction stays with
  | nil =>
      rw [walk] at walked
      split at walked
      · cases walked
        rfl
      · cases walked
  | cons step rest inductionHypothesis =>
      cases allStay step List.mem_cons_self
      exact inductionHypothesis (fun other listed => allStay other (List.mem_cons_of_mem _ listed))
        walked

/-- What leads to a folder goes on from it with whatever steps are put behind. -/
theorem walk_append {jump : Location -> List Step -> Except Fault Target} {stays more : List Step}
    {result : Except Fault Target} (allStay : forall step, step ∈ stays -> step = .stay)
    (someMore : more ≠ []) (onward : walk storage true jump base more = result)
    (jumped : forall folder steps,
      jump folder (steps ++ stays) = .ok (.found base (.folder entries)) ->
        jump folder (steps ++ more) = result)
    {folder : Location} {steps : List Step}
    (walked : walk storage true jump folder (steps ++ stays) =
      .ok (.found base (.folder entries))) :
    walk storage true jump folder (steps ++ more) = result := by
  induction steps generalizing folder with
  | nil =>
      cases walk_stay allStay walked
      exact onward
  | cons step rest inductionHypothesis =>
      cases step with
      | stay => exact inductionHypothesis walked
      | up => exact inductionHypothesis walked
      | enter name =>
          have goesOn : (rest ++ more).isEmpty = false := by simp [someMore]
          rw [List.cons_append, walk] at walked ⊢
          split at walked
          · cases walked
          · next short =>
              rw [if_neg short]
              split at walked
              · split at walked <;> cases walked
              · exact inductionHypothesis walked
              · split at walked <;> cases walked
              · simp only [Bool.not_true, Bool.and_false, Bool.false_eq_true, if_false] at walked ⊢
                rw [← List.append_assoc] at walked ⊢
                exact jumped _ _ walked

/-- Names lead from a folder to a file below it, unless one of them is too long. -/
theorem walk_enter {names : List Name} {content : Bytes}
    (isFile : storage.root.at? (base ++ names) = some (.file content))
    (jump : Location -> List Step -> Except Fault Target) :
    walk storage true jump base (names.map .enter) =
      if names.any fun name => nameBound ≤ name.length then .error .nameTooLong
      else .ok (.found (base ++ names) (.file content)) := by
  induction names generalizing base with
  | nil =>
      rw [List.append_nil] at isFile
      rw [List.map_nil, walk, isFile]
      simp
  | cons name rest inductionHypothesis =>
      have grouped : base ++ name :: rest = (base ++ [name]) ++ rest := by simp
      rw [grouped] at isFile ⊢
      have onward := inductionHypothesis isFile
      rw [Entry.at?_append] at isFile
      rcases Option.bind_eq_some_iff.mp isFile with ⟨inner, located, below⟩
      rw [List.map_cons, walk, Entry.bind_find?_eq_at?, located, List.any_cons]
      by_cases long : nameBound ≤ name.length
      · simp [long]
      · rw [if_neg long]
        cases inner with
        | folder entries => simpa [long] using onward
        | file bytes =>
            cases rest with
            | nil => cases below; simp [long]
            | cons next later => cases below
        | link target =>
            cases rest with
            | nil => cases below
            | cons next later => cases below

end Walk

theorem follow_append {storage : Storage} {base : Location} {entries : List (Name × Entry)}
    {stays : List Step} (allStay : forall step, step ∈ stays -> step = .stay) {names : List Name}
    {content : Bytes} (isFile : storage.root.at? (base ++ names) = some (.file content))
    (below : names ≠ []) (links : Nat) {folder : Location} {steps : List Step}
    (followed : storage.follow true links folder (steps ++ stays) =
      .ok (.found base (.folder entries))) :
    storage.follow true links folder (steps ++ names.map .enter) =
      if names.any fun name => nameBound ≤ name.length then .error .nameTooLong
      else .ok (.found (base ++ names) (.file content)) := by
  have someMore : names.map Step.enter ≠ [] := fun none => below (List.map_eq_nil_iff.mp none)
  induction links generalizing folder steps with
  | zero =>
      refine walk_append allStay someMore (walk_enter isFile _) ?_ followed
      intro _ _ tooMany
      cases tooMany
  | succ links inductionHypothesis =>
      refine walk_append allStay someMore (walk_enter isFile _) ?_ followed
      intro folder steps jumped
      exact inductionHypothesis jumped

/-- What a path has to keep to so that it can be followed: it has no zero byte and is not
too long, and none of the names behind the folder is too long. -/
structure IsWithinBounds (path : Path) (names : List Name) : Prop where
  noZero : path.bytes.contains 0 = false
  short : path.bytes.length < pathBound
  shortNames : forall name, name ∈ names -> name.length < nameBound

/-- A path to a file below a folder leads to the location of the file when it keeps within
the bounds, and nowhere otherwise. -/
theorem resolve_under_cases {storage : Storage} {path : Path} {base : Location}
    {entries : List (Name × Entry)} (isFolder : storage.entry? path = .ok (base, .folder entries))
    {names : List Name} (areNames : forall name, name ∈ names -> IsName name) {content : Bytes}
    (isFile : storage.root.at? (base ++ names) = some (.file content)) :
    IsWithinBounds (path.under names) names ∧
        storage.resolve true (path.under names) = .ok (.found (base ++ names) (.file content)) ∨
      ¬ IsWithinBounds (path.under names) names ∧
        Exists fun fault => storage.resolve true (path.under names) = .error fault := by
  have below : names ≠ [] := by
    rintro rfl
    rw [List.append_nil, at?_of_entry isFolder] at isFile
    cases isFile
  rcases follow_of_resolveSteps (resolve_of_entry isFolder) with ⟨-, nonempty, -, followed⟩
  rw [steps_eq] at followed
  rcases steps_under nonempty areNames below with ⟨onward, absolute, written⟩
  have stays : forall step, step ∈ (if path.isFolderLike then [Step.stay] else []) ->
      step = .stay := by
    intro step listed
    split at listed
    · exact List.mem_singleton.mp listed
    · cases listed
  have continued := follow_append stays isFile below linkLimit followed
  rw [resolve, resolveSteps, onward, absolute, continued,
    List.isEmpty_eq_false_iff.mpr written, if_neg Bool.false_ne_true]
  -- The bounds are looked at one after the other.
  split
  · next hasZero =>
      exact Or.inr ⟨fun bounds => Bool.false_ne_true (bounds.noZero.symm.trans hasZero), _, rfl⟩
  · next noZero =>
      split
      · next long =>
          exact Or.inr ⟨fun bounds => Nat.not_le_of_lt bounds.short long, _, rfl⟩
      · next short =>
          split
          · next longName =>
              rcases List.any_eq_true.mp longName with ⟨name, listed, tooLong⟩
              exact Or.inr ⟨fun bounds => Nat.not_le_of_lt (bounds.shortNames name listed)
                (of_decide_eq_true tooLong), _, rfl⟩
          · next shortNames =>
              refine Or.inl ⟨⟨Bool.eq_false_iff.mpr noZero, Nat.lt_of_not_le short, ?_⟩, rfl⟩
              intro name listed
              have notLong := List.any_eq_false.mp (Bool.eq_false_iff.mpr shortNames) name listed
              exact Nat.lt_of_not_le fun tooLong => notLong (decide_eq_true tooLong)

/-- A path to a file below a folder leads to the location of the file, if anywhere. -/
theorem resolve_under {storage : Storage} {path : Path} {base : Location}
    {entries : List (Name × Entry)} (isFolder : storage.entry? path = .ok (base, .folder entries))
    {names : List Name} (areNames : forall name, name ∈ names -> IsName name) {content : Bytes}
    (isFile : storage.root.at? (base ++ names) = some (.file content)) :
    storage.resolve true (path.under names) = .ok (.found (base ++ names) (.file content)) ∨
      Exists fun fault => storage.resolve true (path.under names) = .error fault :=
  (resolve_under_cases isFolder areNames isFile).imp And.right And.right

theorem entry?_under {storage : Storage} {path : Path} {base : Location}
    {entries : List (Name × Entry)} (isFolder : storage.entry? path = .ok (base, .folder entries))
    {names : List Name} (areNames : forall name, name ∈ names -> IsName name) {content : Bytes}
    (isFile : storage.root.at? (base ++ names) = some (.file content)) :
    storage.entry? (path.under names) = .ok (base ++ names, .file content) ∨
      Exists fun fault => storage.entry? (path.under names) = .error fault := by
  unfold entry?
  rcases resolve_under isFolder areNames isFile with found | ⟨fault, failed⟩
  · rw [found]
    exact Or.inl rfl
  · rw [failed]
    exact Or.inr ⟨fault, rfl⟩

end Storage
end Guidebook
