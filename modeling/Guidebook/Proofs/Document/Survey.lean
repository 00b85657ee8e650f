import Guidebook.Document.Survey
import Guidebook.Proofs.Storage.Visits

namespace Guidebook
namespace Document

/-!
# Surveys are exact

A survey walks over a folder and picks the documents from what it comes by.  What
it lists is said here without the walk: a file belongs to a survey when the names on
the way to it are few enough, when none of them is hidden, and when its own name has
a wanted extension.  Two visits have different paths even part by part, so the list
has no path twice and is in strict order.
-/

/-! ## Hidden names -/

theorem isHidden_eq_false_iff {name : Name} :
    isHidden name = false ↔
      forall text, Bytes.text? name = some text -> text.toList.head? ≠ some '.' := by
  rw [isHidden]
  cases Bytes.text? name with
  | none => simp
  | some text => simp

/-- The folder that a survey starts from may be called anything. -/
theorem keepsAll_isKept_iff {name : Name} {names : List Name} :
    KeepsAll isKept 0 (name :: names) ↔ forall below, below ∈ names -> isHidden below = false := by
  have deeper (level : Nat) :
      KeepsAll isKept (level + 1) names ↔
        forall below, below ∈ names -> isHidden below = false := by
    induction names generalizing level with
    | nil => simp [KeepsAll]
    | cons first rest inductionHypothesis =>
        rw [KeepsAll, inductionHypothesis, List.forall_mem_cons]
        simp [isKept]
  exact ⟨fun kept => (deeper 0).mp kept.2, fun shown => ⟨rfl, (deeper 0).mpr shown⟩⟩

/-! ## What a survey lists -/

/-- The names on the way from a folder to a document that its survey lists: a
regular file below the folder, behind folders only and not behind links, not too
deep, with no hidden name on the way and a wanted extension at the end. -/
structure IsListed (storage : Storage) (settings : Settings) (folder names : Location) :
    Prop where
  below : names ≠ []
  isFile : Exists fun content => storage.root.at? (folder ++ names) = some (.file content)
  depth : forall levels, settings.scanDepth = some levels -> names.length ≤ levels
  shown : forall name, name ∈ names ->
    forall text, Bytes.text? name = some text -> text.toList.head? ≠ some '.'
  kind : Exists fun name =>
    names.getLast? = some name ∧ Path.IsNamedWith settings.extensions name

theorem IsListed.areNames {storage : Storage} (tree : storage.root.IsTree) {settings : Settings}
    {folder names : Location} (listed : IsListed storage settings folder names) :
    forall name, name ∈ names -> Path.IsName name := by
  rcases listed.isFile with ⟨content, isFile⟩
  exact fun name member => (tree.located isFile).2 name (List.mem_append_right folder member)

/-- The walk comes by what a survey lists, and takes nothing else for a document. -/
theorem mem_documents_iff {storage : Storage} (tree : storage.root.IsTree) {settings : Settings}
    {path : Path} {location : Location} {entries : List (Name × Entry)}
    (located : storage.root.at? location = some (.folder entries)) {found : Path} :
    found ∈ documents settings path (.folder entries) ↔
      Exists fun names => IsListed storage settings location names ∧ found = path.under names := by
  have folderTree := (tree.located located).1
  have fromHere (names : Location) :
      storage.root.at? (location ++ names) = (Entry.folder entries).at? names := by
    rw [Entry.at?_append, located, Option.bind_some]
  rw [documents]
  constructor
  · intro member
    rcases List.mem_map.mp member with ⟨visit, picked, rfl⟩
    rcases List.mem_filter.mp picked with ⟨visited, accepted⟩
    rcases (Entry.mem_visits_iff folderTree).mp visited with ⟨names, reached, samePath, kept, fits⟩
    rcases (Bool.and_eq_true _ _).mp accepted with ⟨isFile, extension⟩
    rcases Entry.exists_of_isFile isFile with ⟨content, held⟩
    rw [held] at reached
    have below : names ≠ [] := by
      rintro rfl
      rw [Entry.at?_nil] at reached
      cases reached
    have last := List.getLast?_eq_some_getLast below
    rw [samePath] at extension
    refine ⟨names, ⟨below, ⟨content, (fromHere names).trans reached⟩, fits, ?_, _, last, ?_⟩,
      samePath⟩
    · intro name listed
      exact isHidden_eq_false_iff.mp (keepsAll_isKept_iff.mp kept name listed)
    · exact (Path.hasExtension_under_iff path (folderTree.located reached).2 last _).mp extension
  · rintro ⟨names, ⟨below, ⟨content, isFile⟩, depth, shown, name, last, kind⟩, rfl⟩
    rw [fromHere] at isFile
    have areNames := (folderTree.located isFile).2
    have extension := (Path.hasExtension_under_iff path areNames last _).mpr kind
    have visited : (⟨path.under names, .file content⟩ : Visit) ∈ (Entry.folder entries).visits
        settings.scanDepth isKept 0 (path.fileName?.getD path.bytes) path := by
      refine (Entry.mem_visits_iff folderTree).mpr ⟨names, isFile, rfl, ?_, depth⟩
      exact keepsAll_isKept_iff.mpr
        fun name listed => isHidden_eq_false_iff.mpr (shown name listed)
    have accepted : isDocument settings ⟨path.under names, .file content⟩ = true := extension
    exact List.mem_map.mpr ⟨_, List.mem_filter.mpr ⟨visited, accepted⟩, rfl⟩

/-- A survey lists documents only where its path leads to a folder. -/
theorem exists_folder_of_discover {storage : Storage} {settings : Settings} {path : Path}
    {paths : List Path} (found : discover storage settings path = .ok paths) :
    Exists fun location => Exists fun entries =>
      storage.entry? path = .ok (location, .folder entries) ∧
        paths = (documents settings path (.folder entries)).mergeSort Path.isOrdered := by
  rw [discover] at found
  split at found
  · cases found
  · next location entries leads =>
      cases found
      exact ⟨location, entries, leads, rfl⟩
  · cases found

/-- A survey lists the documents of a walk as they come, if they come in order. -/
theorem discover_of_documents {storage : Storage} {settings : Settings} {path : Path}
    {location : Location} {entries : List (Name × Entry)} {paths : List Path}
    (leads : storage.entry? path = .ok (location, .folder entries))
    (picked : documents settings path (.folder entries) = paths)
    (sorted : paths.Pairwise fun left right => left.isOrdered right = true) :
    discover storage settings path = .ok paths := by
  rw [discover, leads]
  simp only [picked, List.mergeSort_of_pairwise sorted]

theorem mem_reports_iff {Place : Type} [Readable Place] {place : Place} {settings : Settings}
    {paths : List Path} {report : Report} :
    report ∈ reports place settings paths ↔
      report.path ∈ paths ∧ report.result = compile place settings report.path := by
  rw [reports, List.mem_map]
  constructor
  · rintro ⟨document, listed, rfl⟩
    exact ⟨listed, rfl⟩
  · rintro ⟨listed, same⟩
    exact ⟨report.path, listed, congrArg (Report.mk report.path) same.symm⟩

/-- A survey has a report on each document that is found. -/
theorem survey_of_discover {storage : Storage} {settings : Settings} {path : Path}
    {paths : List Path} (found : discover storage settings path = .ok paths) :
    survey storage settings path = .ok (reports storage settings paths) := by
  rw [survey, found]

/-- The reports of a survey are on the documents that are found. -/
theorem exists_discover_of_survey {storage : Storage} {settings : Settings} {path : Path}
    {all : List Report} (surveyed : survey storage settings path = .ok all) :
    Exists fun paths => discover storage settings path = .ok paths ∧
      all = reports storage settings paths := by
  rw [survey] at surveyed
  split at surveyed
  · cases surveyed
  · next paths found =>
      cases surveyed
      exact ⟨paths, found, rfl⟩

/-- The paths of a survey, each with its way from the folder. -/
theorem exists_folder_mem_iff {storage : Storage} (tree : storage.root.IsTree)
    {settings : Settings} {path : Path} {paths : List Path}
    (found : discover storage settings path = .ok paths) :
    Exists fun location => Exists fun entries =>
      storage.entry? path = .ok (location, .folder entries) ∧
        forall document, document ∈ paths ↔
          Exists fun names =>
            IsListed storage settings location names ∧ document = path.under names := by
  rcases exists_folder_of_discover found with ⟨location, entries, isFolder, rfl⟩
  refine ⟨location, entries, isFolder, fun document => ?_⟩
  rw [(List.mergeSort_perm _ Path.isOrdered).mem_iff]
  exact mem_documents_iff tree (Storage.at?_of_entry isFolder)

theorem documents_pairwise (settings : Settings) (path : Path) {folder : Entry}
    (tree : folder.IsTree) :
    (documents settings path folder).Pairwise fun left right => left.parts ≠ right.parts := by
  rw [documents]
  exact List.pairwise_map.mpr ((Entry.visits_pairwise tree ..).filter _)

/-- A folder that is there has a survey.  It lists every document that belongs to
it, and nothing else, each of them once and in strict order of their parts. -/
theorem discover_exact {storage : Storage} (tree : storage.root.IsTree) (settings : Settings)
    {path : Path} {location : Location} {entries : List (Name × Entry)}
    (isFolder : storage.entry? path = .ok (location, .folder entries)) :
    Exists fun paths =>
      discover storage settings path = .ok paths ∧
      paths.Nodup ∧
      (paths.Pairwise fun left right => Path.orderParts left.parts right.parts = .lt) ∧
      forall found, found ∈ paths ↔
        Exists fun names =>
          IsListed storage settings location names ∧
          found = path.under names ∧
          found.parts = path.parts ++ names.map Path.Part.name := by
  have located := Storage.at?_of_entry isFolder
  have folderTree := (tree.located located).1
  let found := documents settings path (.folder entries)
  have sorted : (found.mergeSort Path.isOrdered).Pairwise fun left right =>
      left.isOrdered right = true := by
    refine List.pairwise_mergeSort ?_ Path.isOrdered_total found
    exact fun _ _ _ front back => Path.isOrdered_trans front back
  -- Paths that differ part by part before the sorting do so after it, in whatever order.
  have arranged := List.mergeSort_perm found Path.isOrdered
  have different : (found.mergeSort Path.isOrdered).Pairwise fun left right =>
      left.parts ≠ right.parts :=
    (arranged.pairwise_iff Ne.symm).mpr (documents_pairwise settings path folderTree)
  refine ⟨found.mergeSort Path.isOrdered, ?_, ?_, ?_, ?_⟩
  · rw [discover, isFolder]
  · exact different.imp fun apart same => apart (congrArg Path.parts same)
  · exact (sorted.and different).imp fun both => Path.order_eq_lt both.1 both.2
  · intro document
    rw [arranged.mem_iff, mem_documents_iff tree located]
    constructor
    · rintro ⟨names, listed, rfl⟩
      rcases listed.isFile with ⟨content, isFile⟩
      have areNames := fun name member =>
        (tree.located isFile).2 name (List.mem_append_right location member)
      exact ⟨names, listed, rfl, Path.parts_under areNames⟩
    · rintro ⟨names, listed, rfl, -⟩
      exact ⟨names, listed, rfl⟩

/-! A folder with a hidden name that a link leads to. -/

def docsEntries : List (Name × Entry) :=
  [(Bytes.ofText "a-b", .folder [(Bytes.ofText "x.json", .file [])]),
   (Bytes.ofText "a", .folder [(Bytes.ofText "x.JSON", .file [])]),
   (Bytes.ofText ".x.json", .file []),
   (Bytes.ofText "link.json", .link (.ofText "a/x.JSON"))]

def docsStorage : Storage :=
  ⟨.folder
    [(Bytes.ofText ".docs", .folder docsEntries), (Bytes.ofText "docs", .link (.ofText ".docs"))],
   []⟩

theorem isTree_docsStorage : docsStorage.root.IsTree := by
  have first : Entry.IsTree (.folder [(Bytes.ofText "x.json", .file [])]) :=
    .cons (by decide) (by decide) (.of_entries_nil rfl) (.of_entries_nil rfl)
  have second : Entry.IsTree (.folder [(Bytes.ofText "x.JSON", .file [])]) :=
    .cons (by decide) (by decide) (.of_entries_nil rfl) (.of_entries_nil rfl)
  have docs : Entry.IsTree (.folder docsEntries) :=
    .cons (by decide) (by decide) first <| .cons (by decide) (by decide) second <|
      .cons (by decide) (by decide) (.of_entries_nil rfl) <|
        .cons (by decide) (by decide) (.of_entries_nil rfl) (.of_entries_nil rfl)
  exact .cons (by decide) (by decide) docs <|
    .cons (by decide) (by decide) (.of_entries_nil rfl) (.of_entries_nil rfl)

theorem entry_docs :
    docsStorage.entry? (.ofText "docs/") = .ok ([Bytes.ofText ".docs"], .folder docsEntries) := by
  rfl

/-- One level below the folder a document is found, in whatever case its extension
is written.  On the first level, a hidden name and a link are passed over. -/
theorem discover_exact_docs :
    docsStorage.root.IsTree ∧
      docsStorage.entry? (.ofText "docs/") =
        .ok ([Bytes.ofText ".docs"], .folder docsEntries) ∧
      Exists fun paths =>
        discover docsStorage { Settings.default with scanDepth := some 2 } (.ofText "docs/") =
          .ok paths ∧
        paths.Nodup ∧ .ofText "docs/a/x.JSON" ∈ paths ∧
        .ofText "docs/.x.json" ∉ paths ∧ .ofText "docs/link.json" ∉ paths := by
  refine ⟨isTree_docsStorage, entry_docs, ?_⟩
  rcases discover_exact isTree_docsStorage { Settings.default with scanDepth := some 2 }
    entry_docs with ⟨paths, found, distinct, -, isExact⟩
  refine ⟨paths, found, distinct, ?_, ?_, ?_⟩
  · refine (isExact _).mpr ⟨[Bytes.ofText "a", Bytes.ofText "x.JSON"], ?_, by decide, by decide⟩
    refine ⟨by decide, ⟨[], by rfl⟩, ?_, ?_, Bytes.ofText "x.JSON", by decide, ?_⟩
    · rintro levels ⟨⟩
      decide
    · intro name listed text reads
      rcases List.mem_cons.mp listed with rfl | later
      · cases (Bytes.text?_ofText "a").symm.trans reads
        decide
      · cases List.mem_singleton.mp later
        cases (Bytes.text?_ofText "x.JSON").symm.trans reads
        decide
    · exact ⟨Bytes.ofText "x", Bytes.ofText "JSON", "JSON", "json", by decide, by decide,
        by decide, Bytes.text?_ofText "JSON", by decide, by decide⟩
  · intro listed
    rcases (isExact _).mp listed with ⟨names, isListed, -, parts⟩
    have alone : [Bytes.ofText ".x.json"] = names := Path.names_of_parts (by decide) parts
    exact isListed.shown _ (alone ▸ List.mem_singleton_self _) _
      (Bytes.text?_ofText ".x.json") (by decide)
  · intro listed
    rcases (isExact _).mp listed with ⟨names, isListed, -, parts⟩
    have alone : [Bytes.ofText "link.json"] = names := Path.names_of_parts (by decide) parts
    rcases isListed.isFile with ⟨content, isFile⟩
    have isLink : docsStorage.root.at? ([Bytes.ofText ".docs"] ++ [Bytes.ofText "link.json"]) =
        some (.link (.ofText "a/x.JSON")) := by
      rfl
    rw [← alone, isLink] at isFile
    cases isFile

end Document
end Guidebook
