import Guidebook.Proofs.Document.Survey
import Guidebook.Proofs.Text.Bytes

namespace Guidebook
namespace Document

/-!
# Hidden names

A survey passes over hidden names, and a name is looked at as a text.  So a point in
front hides a name that is text, at every level and whatever else stands in the name.
Bytes that are no text have no first character: a survey goes on through a name of
such bytes, and lists it, also when the first of them is a point.
-/

/-- A point hides a name that is text. -/
theorem isHidden_iff {name : Name} :
    isHidden name = true ↔ name.head? = some Path.point ∧ Bytes.text? name ≠ none := by
  rw [isHidden]
  cases read : Bytes.text? name with
  | none => simp
  | some text =>
      have starts : text.toList.head? = some '.' ↔ name.head? = some Path.point :=
        Bytes.head?_toList_iff read (by decide)
      simp [starts]

/-- The names on the way from a folder to a file with a wanted extension that is not too
deep, whether any of them is hidden or not. -/
structure IsWithin (storage : Storage) (settings : Settings) (folder names : Location) :
    Prop where
  below : names ≠ []
  isFile : Exists fun content => storage.root.at? (folder ++ names) = some (.file content)
  depth : forall levels, settings.scanDepth = some levels -> names.length ≤ levels
  kind : Exists fun name =>
    names.getLast? = some name ∧ Path.IsNamedWith settings.extensions name

/-- What is listed has no text on its way that starts with a point. -/
theorem isListed_iff {storage : Storage} {settings : Settings} {folder names : Location} :
    IsListed storage settings folder names ↔
      IsWithin storage settings folder names ∧
        forall name, name ∈ names -> name.head? = some Path.point -> Bytes.text? name = none := by
  have shown (name : Name) :
      (forall text, Bytes.text? name = some text -> text.toList.head? ≠ some '.') ↔
        (name.head? = some Path.point -> Bytes.text? name = none) := by
    rw [← isHidden_eq_false_iff, ← Bool.not_eq_true, isHidden_iff, not_and, not_not]
  constructor
  · intro listed
    exact ⟨⟨listed.below, listed.isFile, listed.depth, listed.kind⟩,
      fun name member => (shown name).mp (listed.shown name member)⟩
  · rintro ⟨within, hidden⟩
    exact ⟨within.below, within.isFile, within.depth,
      fun name member => (shown name).mpr (hidden name member), within.kind⟩

/-- A survey lists what is within reach and has no text below its folder that starts
with a point, and nothing else. -/
theorem discover_passes_over_points {storage : Storage} (tree : storage.root.IsTree)
    {settings : Settings} {path : Path} {paths : List Path}
    (found : discover storage settings path = .ok paths) :
    Exists fun location => Exists fun entries =>
      storage.entry? path = .ok (location, .folder entries) ∧
      forall document, document ∈ paths ↔
        Exists fun names =>
          IsWithin storage settings location names ∧
          document = path.under names ∧
          document.parts = path.parts ++ names.map Path.Part.name ∧
          forall name, name ∈ names -> name.head? = some Path.point ->
            Bytes.text? name = none := by
  rcases exists_folder_mem_iff tree found with ⟨location, entries, isFolder, isExact⟩
  refine ⟨location, entries, isFolder, fun document => (isExact document).trans ?_⟩
  constructor
  · rintro ⟨names, listed, rfl⟩
    rcases isListed_iff.mp listed with ⟨within, shown⟩
    exact ⟨names, within, rfl, Path.parts_under (listed.areNames tree), shown⟩
  · rintro ⟨names, within, rfl, -, shown⟩
    exact ⟨names, isListed_iff.mpr ⟨within, shown⟩, rfl⟩

/-! Two names with a point in front, of which one is no text. -/

def spoiledName : Name := [46, 255, 46, 106, 115, 111, 110]

def pointStorage : Storage :=
  ⟨.folder [(Bytes.ofText "docs", .folder
      [(Bytes.ofText ".x.json", .file []), (spoiledName, .file [])])], []⟩

theorem isTree_pointStorage : pointStorage.root.IsTree := by
  have docs : Entry.IsTree
      (.folder [(Bytes.ofText ".x.json", .file []), (spoiledName, .file [])]) :=
    .cons (by decide) (by decide) (.of_entries_nil rfl) <|
      .cons (by decide) (by decide) (.of_entries_nil rfl) (.of_entries_nil rfl)
  exact .cons (by decide) (by decide) docs (.of_entries_nil rfl)

theorem discover_pointStorage :
    discover pointStorage .default (.ofText "docs") =
      .ok [(Path.ofText "docs").under [spoiledName]] := by
  have leads : pointStorage.entry? (.ofText "docs") = .ok ([Bytes.ofText "docs"],
      .folder [(Bytes.ofText ".x.json", .file []), (spoiledName, .file [])]) := by
    rfl
  have picked : documents .default (.ofText "docs")
      (.folder [(Bytes.ofText ".x.json", .file []), (spoiledName, .file [])]) =
        [(Path.ofText "docs").under [spoiledName]] := by
    rfl
  exact discover_of_documents leads picked (List.pairwise_singleton _ _)

theorem discover_passes_over_points_text :
    pointStorage.root.IsTree ∧
      discover pointStorage .default (.ofText "docs") =
        .ok [(Path.ofText "docs").under [spoiledName]] ∧
      (Path.ofText "docs").under [Bytes.ofText ".x.json"] ∉
        [(Path.ofText "docs").under [spoiledName]] := by
  refine ⟨isTree_pointStorage, discover_pointStorage, fun listed => ?_⟩
  rcases discover_passes_over_points isTree_pointStorage discover_pointStorage with
    ⟨location, entries, -, isExact⟩
  rcases (isExact _).mp listed with ⟨names, -, -, parts, shown⟩
  have alone : [Bytes.ofText ".x.json"] = names := Path.names_of_parts (by decide) parts
  have unread := shown (Bytes.ofText ".x.json") (alone ▸ List.mem_singleton_self _) (by decide)
  cases (Bytes.text?_ofText ".x.json").symm.trans unread

/-- A file is listed whose name starts with a point. -/
theorem discover_lists_point :
    ¬ forall (storage : Storage) (settings : Settings) (path : Path) (paths : List Path),
      storage.root.IsTree -> discover storage settings path = .ok paths ->
        forall document, document ∈ paths ->
          forall names : List Name,
            document.parts = path.parts ++ names.map Path.Part.name ->
              forall name, name ∈ names -> name.head? ≠ some Path.point := by
  intro never
  exact never pointStorage .default (.ofText "docs") _ isTree_pointStorage discover_pointStorage
    _ (List.mem_singleton_self _) [spoiledName] (by decide) spoiledName
    (List.mem_singleton_self _) (by decide)

end Document
end Guidebook
