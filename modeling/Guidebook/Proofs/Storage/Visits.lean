import Guidebook.Proofs.Storage.Tree
import Guidebook.Storage.Visits

namespace Guidebook

/-!
# What a walk comes by

A walk decides name by name, and level by level, whether to go on.  Here its visits
are told without any walk: they belong to the ways that lead to an entry, have no
name on them that is not kept, and are no longer than the limit.  In a tree there is
one way to each entry, and the paths of any two visits differ part by part.
-/

/-- All names on a way are kept, of which the first one is on this level. -/
def KeepsAll (keeps : Nat -> Name -> Bool) : (level : Nat) -> List Name -> Prop
  | _, [] => True
  | level, name :: below => keeps level name = true ∧ KeepsAll keeps (level + 1) below

namespace Entry

theorem visitsIn_eq_flatMap (limit : Option Nat) (keeps : Nat -> Name -> Bool) (level : Nat)
    (folder : Path) (entries : List (Name × Entry)) :
    visitsIn limit keeps level folder entries =
      entries.flatMap fun listed =>
        listed.2.visits limit keeps level listed.1 (folder.join ⟨listed.1⟩) := by
  induction entries with
  | nil => rw [visitsIn, List.flatMap_nil]
  | cons first rest inductionHypothesis =>
      rw [visitsIn, inductionHypothesis, List.flatMap_cons]

theorem mem_visitsIn_iff {limit : Option Nat} {keeps : Nat -> Name -> Bool} {level : Nat}
    {folder : Path} {entries : List (Name × Entry)} {visit : Visit} :
    visit ∈ visitsIn limit keeps level folder entries ↔
      Exists fun name => Exists fun inner => (name, inner) ∈ entries ∧
        visit ∈ inner.visits limit keeps level name (folder.join ⟨name⟩) := by
  rw [visitsIn_eq_flatMap, List.mem_flatMap, Prod.exists]

theorem visits_eq (limit : Option Nat) (keeps : Nat -> Name -> Bool) (level : Nat) (name : Name)
    (path : Path) (entry : Entry) :
    entry.visits limit keeps level name path =
      if keeps level name then
        ⟨path, entry⟩ ::
          (if limit.any (· ≤ level) then []
            else visitsIn limit keeps (level + 1) path entry.entries)
      else [] := by
  cases entry with
  | folder held => rw [visits, entries]
  | file content => simp [visits, visitsIn, entries]
  | link target => simp [visits, visitsIn, entries]

theorem mem_visits_step {limit : Option Nat} {keeps : Nat -> Name -> Bool} {level : Nat}
    {name : Name} {path : Path} {entry : Entry} {visit : Visit} :
    visit ∈ entry.visits limit keeps level name path ↔
      keeps level name = true ∧
        (visit = ⟨path, entry⟩ ∨
          limit.any (· ≤ level) = false ∧
            visit ∈ visitsIn limit keeps (level + 1) path entry.entries) := by
  rw [visits_eq]
  cases keeps level name with
  | false => simp
  | true => cases limit.any (· ≤ level) <;> simp

/-- One level down, one level less is left. -/
theorem fits_cons_iff {limit : Option Nat} {level depth : Nat} :
    (forall bound, limit = some bound -> depth + 1 ≤ bound - level) ↔
      limit.any (· ≤ level) = false ∧
        forall bound, limit = some bound -> depth ≤ bound - (level + 1) := by
  cases limit with
  | none => simp
  | some bound =>
      simp only [Option.some.injEq, forall_eq', Option.any_some, decide_eq_false_iff_not]
      omega

/-- A walk comes by what names lead to, when it keeps them and they fit. -/
theorem mem_visits_iff {entry : Entry} (tree : entry.IsTree) {limit : Option Nat}
    {keeps : Nat -> Name -> Bool} {level : Nat} {name : Name} {path : Path} {visit : Visit} :
    visit ∈ entry.visits limit keeps level name path ↔
      Exists fun names =>
        entry.at? names = some visit.entry ∧ visit.path = path.under names ∧
          KeepsAll keeps level (name :: names) ∧
          forall bound, limit = some bound -> names.length ≤ bound - level := by
  induction tree generalizing level name path with
  | @intro entry distinct named inside inductionHypothesis =>
      rw [mem_visits_step, mem_visitsIn_iff]
      -- One step of the walk goes with the first name of the way, and the rest is induction.
      constructor
      · rintro ⟨kept, rfl | ⟨notEnded, next, inner, listed, found⟩⟩
        · exact ⟨[], at?_nil entry, rfl, ⟨kept, trivial⟩, fun bound _ => Nat.zero_le _⟩
        · rcases (inductionHypothesis next inner listed).mp found with
            ⟨names, located, same, keptBelow, fits⟩
          exact ⟨next :: names,
            (at?_cons_eq_some_iff distinct).mpr ⟨inner, listed, located⟩, same,
            ⟨kept, keptBelow⟩, fits_cons_iff.mpr ⟨notEnded, fits⟩⟩
      · rintro ⟨names, located, same, ⟨kept, keptBelow⟩, fits⟩
        refine ⟨kept, ?_⟩
        cases names with
        | nil =>
            rcases visit with ⟨reached, found⟩
            rw [at?_nil] at located
            cases located
            cases same
            exact Or.inl rfl
        | cons next names =>
            rcases (at?_cons_eq_some_iff distinct).mp located with ⟨inner, listed, onward⟩
            rcases fits_cons_iff.mp fits with ⟨notEnded, fitsBelow⟩
            have found := (inductionHypothesis next inner listed).mpr
              ⟨names, onward, same, keptBelow, fitsBelow⟩
            exact Or.inr ⟨notEnded, next, inner, listed, found⟩

/-- Whatever a walk comes by at or below an entry of a folder has the name of the
entry behind the parts of the folder. -/
theorem exists_parts_of_mem_visits {outer inner : Entry} (tree : outer.IsTree) {name : Name}
    (listed : (name, inner) ∈ outer.entries) {limit : Option Nat} {keeps : Nat -> Name -> Bool}
    {level : Nat} {folder : Path} {visit : Visit}
    (found : visit ∈ inner.visits limit keeps level name (folder.join ⟨name⟩)) :
    Exists fun rest => visit.path.parts = folder.parts ++ Path.Part.name name :: rest := by
  have innerTree := tree.inside listed
  rcases (mem_visits_iff innerTree).mp found with ⟨names, located, same, -, -⟩
  refine ⟨names.map Path.Part.name, ?_⟩
  rw [same, Path.parts_under (innerTree.located located).2,
    Path.parts_join folder (tree.named listed), List.append_assoc, List.singleton_append]

/-- No two visits have paths that are equal part by part. -/
theorem visits_pairwise {entry : Entry} (tree : entry.IsTree) (limit : Option Nat)
    (keeps : Nat -> Name -> Bool) (level : Nat) (name : Name) (path : Path) :
    (entry.visits limit keeps level name path).Pairwise fun left right =>
      left.path.parts ≠ right.path.parts := by
  induction tree generalizing level name path with
  | @intro entry distinct named inside inductionHypothesis =>
      have tree : entry.IsTree := .intro distinct named inside
      -- Below an entry every path is longer than its own.
      have longer : forall visit, visit ∈ visitsIn limit keeps (level + 1) path entry.entries ->
          path.parts ≠ visit.path.parts := by
        intro visit deeper same
        rcases mem_visitsIn_iff.mp deeper with ⟨next, inner, listed, found⟩
        rcases exists_parts_of_mem_visits tree listed found with ⟨rest, parts⟩
        have lengths := congrArg List.length (same.trans parts)
        rw [List.length_append, List.length_cons] at lengths
        omega
      -- Below two entries of a folder the paths part at the names of these.
      have apart : (visitsIn limit keeps (level + 1) path entry.entries).Pairwise
          fun left right => left.path.parts ≠ right.path.parts := by
        rw [visitsIn_eq_flatMap]
        refine List.pairwise_flatMap.mpr ⟨fun listed member =>
          inductionHypothesis listed.1 listed.2 member (level + 1) listed.1 _, ?_⟩
        refine (List.pairwise_map.mp distinct).imp_of_mem ?_
        intro first second inFirst inSecond different left foundLeft right foundRight same
        rcases exists_parts_of_mem_visits tree inFirst foundLeft with ⟨lefts, leftParts⟩
        rcases exists_parts_of_mem_visits tree inSecond foundRight with ⟨rights, rightParts⟩
        rw [leftParts, rightParts] at same
        have heads := (List.cons.inj (List.append_cancel_left same)).1
        exact different (Path.Part.name.inj heads)
      rw [visits_eq]
      split
      · split
        · exact List.pairwise_singleton _ _
        · exact List.pairwise_cons.mpr ⟨longer, apart⟩
      · exact List.Pairwise.nil

end Entry
end Guidebook
