import Guidebook.Proofs.Document.Load
import Guidebook.Proofs.Document.Survey
import Guidebook.Proofs.Storage.Parent

namespace Guidebook
namespace Document

/-!
# Formats and extensions agree

A survey picks documents by their extensions, and the loader asks again for the format
that the extension stands for.  The two questions are answered apart, with lists of their
own.  They agree for every path: a path has a format when it has one of the extensions of
the formats, in letters of any case.

A survey also knows that a document is a file, since it came by it, while the loader looks
for a file over the path.  To list a folder is not to follow the paths through it, so the
loader may be refused what the survey has listed.  Such a document is reported as missing;
every other failure of a report is one of compilation.  A place may refuse a path for reasons
of its own, such as a folder that may be listed and not searched.  A storage refuses one
only for its bounds: a path is built by putting names behind the path of the folder, and it
may become too long to be followed.
-/

/-! ## Two ways to know a format -/

theorem isSome_ofName?_iff (text : String) :
    (Format.ofName? text).isSome = true ↔
      Path.lowered text = "json" ∨ Path.lowered text = "toml" := by
  simp only [Option.isSome_iff_exists, ofName?_eq_some_iff]
  constructor
  · rintro ⟨format, named⟩
    cases format with
    | json => exact Or.inl named
    | toml => exact Or.inr named
  · rintro (named | named)
    · exact ⟨.json, named⟩
    · exact ⟨.toml, named⟩

theorem hasExtension_iff (path : Path) (extensions : List String) :
    path.hasExtension extensions = true ↔
      Exists fun text => path.extension? = some text ∧
        Exists fun wanted => wanted ∈ extensions ∧ Path.lowered wanted = Path.lowered text := by
  simp only [Path.hasExtension, Option.any_eq_true, List.any_eq_true, beq_iff_eq]

/-- A path has a format when it has an extension with the name of a format. -/
theorem isSome_ofPath?_iff (path : Path) :
    (Format.ofPath? path).isSome = true ↔
      Exists fun text => path.extension? = some text ∧
        (Path.lowered text = "json" ∨ Path.lowered text = "toml") := by
  simp only [Format.ofPath?, Option.isSome_bind, Option.any_eq_true, isSome_ofName?_iff]

/-- The extensions of some settings when they stand for formats only, in letters of any case. -/
def AreFormats (extensions : List String) : Prop :=
  forall wanted, wanted ∈ extensions -> Path.lowered wanted = "json" ∨ Path.lowered wanted = "toml"

theorem isSome_ofPath?_of_hasExtension {path : Path} {extensions : List String}
    (areFormats : AreFormats extensions) (picked : path.hasExtension extensions = true) :
    (Format.ofPath? path).isSome = true := by
  rcases (hasExtension_iff path extensions).mp picked with ⟨text, found, wanted, listed, same⟩
  exact (isSome_ofPath?_iff path).mpr ⟨text, found, same ▸ areFormats wanted listed⟩

theorem isSome_ofPath?_eq_hasExtension (path : Path) :
    (Format.ofPath? path).isSome = path.hasExtension ["json", "toml"] := by
  have json : Path.lowered "json" = "json" := by decide
  have toml : Path.lowered "toml" = "toml" := by decide
  rw [Bool.eq_iff_iff, isSome_ofPath?_iff, hasExtension_iff]
  simp [json, toml, eq_comm]

/-! ## Reports of a survey -/

/-- A report of a document that was compiled, to a plan or to a violation. -/
def Report.IsCompiled (report : Report) : Prop :=
  (Exists fun plan => report.result = .ok plan) ∨
    Exists fun violation => report.result = .error (.violation violation)

/-- A report of a document that was not found. -/
def Report.IsMissing (report : Report) : Prop :=
  report.result = .error (.missing report.path)

section Reports

variable {Place : Type} [Readable Place] {place : Place} {storage : Storage} {settings : Settings}
  {path : Path} {paths : List Path}

/-- A survey lists paths with the wanted extensions only. -/
theorem hasExtension_of_discover (found : discover storage settings path = .ok paths)
    {document : Path} (listed : document ∈ paths) :
    document.hasExtension settings.extensions = true := by
  rcases exists_folder_of_discover found with ⟨base, entries, -, rfl⟩
  rw [(List.mergeSort_perm _ Path.isOrdered).mem_iff, documents] at listed
  rcases List.mem_map.mp listed with ⟨visit, picked, rfl⟩
  exact ((Bool.and_eq_true _ _).mp (List.mem_filter.mp picked).2).2

/-- A document with a format is compiled when the place finds a file over its path, and is
missing otherwise. -/
theorem compiled_or_missing {report : Report}
    (hasFormat : (Format.ofPath? report.path).isSome = true)
    (same : report.result = compile place settings report.path) :
    Readable.isFile place report.path = true ∧ report.IsCompiled ∨
      Readable.isFile place report.path = false ∧ report.IsMissing := by
  rcases Option.isSome_iff_exists.mp hasFormat with ⟨format, known⟩
  rw [Report.IsCompiled, Report.IsMissing, same]
  cases isFile : Readable.isFile place report.path with
  | true =>
      have found : formatOf place report.path = .ok format := by simp [formatOf, known, isFile]
      rw [compile_of_found settings found]
      refine Or.inl ⟨rfl, ?_⟩
      cases planOf settings.maxDepth report.path format
          (Readable.readText place report.path) with
      | error violation => exact Or.inr ⟨violation, rfl⟩
      | ok plan => exact Or.inl ⟨plan, rfl⟩
  | false =>
      have missing : formatOf place report.path = .error (.missing report.path) := by
        simp [formatOf, known, isFile]
      exact Or.inr ⟨rfl, compile_of_refused settings missing⟩

/-- The loader of a storage finds a document that a survey lists when the path of the document
keeps within the bounds. -/
theorem isFile_under_iff (tree : storage.root.IsTree) {base names : Location}
    {entries : List (Name × Entry)} (isFolder : storage.entry? path = .ok (base, .folder entries))
    (listed : IsListed storage settings base names) :
    storage.isFile (path.under names) = true ↔
      Storage.IsWithinBounds (path.under names) names := by
  rcases listed.isFile with ⟨content, isFile⟩
  unfold Storage.isFile Storage.entry?
  rcases Storage.resolve_under_cases isFolder (listed.areNames tree) isFile with
    ⟨bounds, leads⟩ | ⟨outside, fault, fails⟩
  · simp [leads, bounds, Entry.isFile]
  · simp [fails, outside]

/-- A report on a document of a survey, by the names on the way to the document. -/
theorem exists_names_of_reports (tree : storage.root.IsTree)
    (areFormats : AreFormats settings.extensions)
    (found : discover storage settings path = .ok paths) {report : Report}
    (member : report ∈ reports place settings paths) :
    Exists fun names => names ≠ [] ∧ report.path = path.under names ∧
      report.path.parts = path.parts ++ names.map Path.Part.name ∧
      (storage.isFile report.path = true ↔ Storage.IsWithinBounds report.path names) ∧
      (Readable.isFile place report.path = true ∧ report.IsCompiled ∨
        Readable.isFile place report.path = false ∧ report.IsMissing) := by
  rcases mem_reports_iff.mp member with ⟨inPaths, result⟩
  have hasFormat := isSome_ofPath?_of_hasExtension areFormats
    (hasExtension_of_discover found inPaths)
  rcases exists_folder_mem_iff tree found with ⟨base, entries, isFolder, isExact⟩
  rcases (isExact report.path).mp inPaths with ⟨names, listed, isPath⟩
  refine ⟨names, listed.below, isPath, ?_, ?_, compiled_or_missing hasFormat result⟩
  · rw [isPath, Path.parts_under (listed.areNames tree)]
  · rw [isPath]
    exact isFile_under_iff tree isFolder listed

end Reports

/-- A path has a format when it has one of the extensions of the formats.  So, where the
settings have no other extensions, a report that fails tells of a violation, unless the place
finds no file over the path of the document; then the document is missing.  A storage finds
one over every path that keeps within the bounds of what can be followed. -/
theorem survey_fails_by_violation :
    (forall path : Path, (Format.ofPath? path).isSome = path.hasExtension ["json", "toml"]) ∧
    (forall (Place : Type) [Readable Place] (place : Place) (storage : Storage)
      (settings : Settings) (path : Path) (paths : List Path),
      storage.root.IsTree -> AreFormats settings.extensions ->
        discover storage settings path = .ok paths ->
          forall report, report ∈ reports place settings paths ->
            Exists fun names => names ≠ [] ∧ report.path = path.under names ∧
              report.path.parts = path.parts ++ names.map Path.Part.name ∧
              (storage.isFile report.path = true ↔ Storage.IsWithinBounds report.path names) ∧
              (Readable.isFile place report.path = true ∧ report.IsCompiled ∨
                Readable.isFile place report.path = false ∧ report.IsMissing)) ∧
    forall (storage : Storage) (settings : Settings) (path : Path) (all : List Report),
      storage.root.IsTree -> AreFormats settings.extensions ->
        survey storage settings path = .ok all ->
          forall report, report ∈ all ->
            Exists fun names => names ≠ [] ∧ report.path = path.under names ∧
              report.path.parts = path.parts ++ names.map Path.Part.name ∧
              (Storage.IsWithinBounds report.path names ∧ report.IsCompiled ∨
                ¬ Storage.IsWithinBounds report.path names ∧ report.IsMissing) := by
  refine ⟨isSome_ofPath?_eq_hasExtension, ?anywhere, ?inStorage⟩
  case anywhere =>
    intro Place readable place storage settings path paths tree areFormats found report member
    exact exists_names_of_reports tree areFormats found member
  case inStorage =>
    intro storage settings path all tree areFormats surveyed report member
    rcases exists_discover_of_survey surveyed with ⟨paths, found, rfl⟩
    rcases exists_names_of_reports tree areFormats found member with
      ⟨names, below, isPath, parts, isFound, outcome⟩
    have asked : Readable.isFile storage report.path = storage.isFile report.path := rfl
    rw [asked, ← Bool.not_eq_true, isFound] at outcome
    exact ⟨names, below, isPath, parts, outcome⟩

/-! A folder with one document, over paths that end with any number of slashes. -/

def noteName : Name := Bytes.ofText "a.json"

def noteEntries : List (Name × Entry) := [(noteName, .file [255])]

def noteFolder : Storage := ⟨.folder [(Bytes.ofText "docs", .folder noteEntries)], []⟩

/-- The folder with so many slashes behind its name. -/
def slashed (count : Nat) : Path := ⟨Bytes.ofText "docs" ++ List.replicate count Path.slash⟩

theorem isTree_noteFolder : noteFolder.root.IsTree := by
  have docs : Entry.IsTree (.folder noteEntries) :=
    .cons (by decide) (by decide) (.of_entries_nil rfl) (.of_entries_nil rfl)
  exact .cons (by decide) (by decide) docs (.of_entries_nil rfl)

theorem length_slashed (count : Nat) : (slashed count).bytes.length = 4 + count := by
  rw [slashed, List.length_append, List.length_replicate]
  rfl

/-- Slashes at the end are no steps. -/
theorem bareSteps_slashed (count : Nat) :
    Storage.bareSteps (slashed count) = [.enter (Bytes.ofText "docs")] := by
  induction count with
  | zero => rfl
  | succ count inductionHypothesis =>
      rw [slashed, List.replicate_succ', ← List.append_assoc, Storage.bareSteps_append_slash]
      exact congrArg (· ++ []) inductionHypothesis

theorem entry_slashed {count : Nat} (short : 4 + count < Storage.pathBound) :
    noteFolder.entry? (slashed count) = .ok ([Bytes.ofText "docs"], .folder noteEntries) := by
  have noZero : (slashed count).bytes.contains 0 = false := by
    rw [slashed, List.contains_append, Bool.or_eq_false_iff]
    refine ⟨by decide, Bool.eq_false_iff.mpr fun listed => ?_⟩
    exact absurd (List.eq_of_mem_replicate (List.contains_iff_mem.mp listed)) (by decide)
  have notLong : ¬ Storage.pathBound ≤ (slashed count).bytes.length := by
    rw [length_slashed]
    omega
  have relative : (slashed count).isAbsolute = false := rfl
  have nonempty : (slashed count).bytes.isEmpty = false := rfl
  have resolved : noteFolder.resolve true (slashed count) =
      .ok (.found [Bytes.ofText "docs"] (.folder noteEntries)) := by
    rw [Storage.resolve, Storage.resolveSteps, noZero, nonempty, if_neg Bool.false_ne_true,
      if_neg Bool.false_ne_true, if_neg notLong, relative, if_neg Bool.false_ne_true,
      Storage.steps_eq, bareSteps_slashed]
    cases (slashed count).isFolderLike <;> rfl
  unfold Storage.entry?
  rw [resolved]

theorem isListed_note : IsListed noteFolder .default [Bytes.ofText "docs"] [noteName] := by
  refine ⟨by decide, ⟨[255], by rfl⟩, nofun, ?_, noteName, rfl, ?_⟩
  · intro name listed text reads
    cases List.mem_singleton.mp listed
    cases (Bytes.text?_ofText "a.json").symm.trans reads
    decide
  · exact ⟨Bytes.ofText "a", Bytes.ofText "json", "json", "json", by decide, by decide,
      by decide, Bytes.text?_ofText "json", by decide, rfl⟩

theorem areFormats_default : AreFormats Settings.default.extensions := by
  unfold AreFormats
  decide

/-- The survey of the folder lists the document. -/
theorem exists_discover_slashed {count : Nat} (short : 4 + count < Storage.pathBound) :
    Exists fun paths => discover noteFolder .default (slashed count) = .ok paths ∧
      (slashed count).under [noteName] ∈ paths := by
  have isFolder := entry_slashed short
  have member : (slashed count).under [noteName] ∈
      documents .default (slashed count) (.folder noteEntries) :=
    (mem_documents_iff isTree_noteFolder (Storage.at?_of_entry isFolder)).mpr
      ⟨_, isListed_note, rfl⟩
  refine ⟨_, ?_, (List.mergeSort_perm _ Path.isOrdered).mem_iff.mpr member⟩
  rw [discover, isFolder]

theorem mem_reports_slashed {Place : Type} [Readable Place] (place : Place) {count : Nat}
    {paths : List Path} (listed : (slashed count).under [noteName] ∈ paths) :
    Report.mk ((slashed count).under [noteName])
      (compile place .default ((slashed count).under [noteName])) ∈
        reports place .default paths :=
  mem_reports_iff.mpr ⟨listed, rfl⟩

theorem isFile_slashed_iff {count : Nat} (short : 4 + count < Storage.pathBound) :
    noteFolder.isFile ((slashed count).under [noteName]) = true ↔
      Storage.IsWithinBounds ((slashed count).under [noteName]) [noteName] :=
  isFile_under_iff isTree_noteFolder (entry_slashed short) isListed_note

/-- A place where no path may be followed, as below a folder that may be listed and not
searched. -/
structure Unsearchable where

instance : Readable Unsearchable where
  isFile _ _ := false
  readText _ _ := .error "Permission denied (os error 13)"

/-- The document is compiled where its path may be followed, and missing where it may not. -/
theorem survey_fails_by_violation_note :
    noteFolder.root.IsTree ∧ AreFormats Settings.default.extensions ∧
      Exists fun paths => discover noteFolder .default (slashed 1) = .ok paths ∧
        survey noteFolder .default (slashed 1) = .ok (reports noteFolder .default paths) ∧
        (Exists fun report => report ∈ reports noteFolder .default paths ∧ report.IsCompiled) ∧
        Exists fun report => report ∈ reports Unsearchable.mk .default paths ∧
          noteFolder.isFile report.path = true ∧ report.IsMissing := by
  rcases @exists_discover_slashed 1 (by decide) with ⟨paths, found, listed⟩
  have surveyed := survey_of_discover found
  have bounds : Storage.IsWithinBounds ((slashed 1).under [noteName]) [noteName] :=
    ⟨by decide, by decide, by decide⟩
  have isFile := (isFile_slashed_iff (by decide)).mpr bounds
  refine ⟨isTree_noteFolder, areFormats_default, paths, found, surveyed, ?_, ?_⟩
  · refine ⟨_, mem_reports_slashed noteFolder listed, ?_⟩
    rcases survey_fails_by_violation.2.2 _ _ _ _ isTree_noteFolder areFormats_default surveyed _
      (mem_reports_slashed noteFolder listed) with
      ⟨names, -, -, parts, ⟨-, compiled⟩ | ⟨outside, -⟩⟩
    · exact compiled
    · have alone : [noteName] = names := Path.names_of_parts (by decide) parts
      exact absurd (alone ▸ bounds) outside
  · refine ⟨_, mem_reports_slashed Unsearchable.mk listed, isFile, ?_⟩
    rcases survey_fails_by_violation.2.1 _ Unsearchable.mk _ _ _ _ isTree_noteFolder
      areFormats_default found _ (mem_reports_slashed Unsearchable.mk listed) with
      ⟨-, -, -, -, -, ⟨refused, -⟩ | ⟨-, missing⟩⟩
    · cases refused
    · exact missing

/-- With enough slashes the path of the folder can be followed, and that of the document
cannot. -/
theorem not_isWithinBounds_slashed {count : Nat} (long : Storage.pathBound ≤ 10 + count) :
    ¬ Storage.IsWithinBounds ((slashed count).under [noteName]) [noteName] := by
  intro bounds
  have areNames := isListed_note.areNames isTree_noteFolder
  have longer : (slashed count).bytes.length + noteName.length ≤
      ((slashed count).under [noteName]).bytes.length :=
    (Storage.length_join (areNames noteName List.mem_cons_self)).1
  have nameLength : noteName.length = 6 := rfl
  have short := bounds.short
  rw [length_slashed, nameLength] at longer
  omega

/-- A document whose path is too long to be followed is reported as missing, though the
survey came by it. -/
theorem survey_misses_distant :
    ¬ forall (storage : Storage) (settings : Settings) (path : Path) (all : List Report),
      storage.root.IsTree -> AreFormats settings.extensions ->
        survey storage settings path = .ok all ->
          forall report, report ∈ all -> forall failure, report.result = .error failure ->
            Exists fun violation => failure = .violation violation := by
  intro always
  have suits : Exists fun count =>
      4 + count < Storage.pathBound ∧ Storage.pathBound ≤ 10 + count :=
    ⟨4088, by decide, by decide⟩
  rcases suits with ⟨count, short, long⟩
  rcases exists_discover_slashed short with ⟨paths, found, listed⟩
  have member := mem_reports_slashed noteFolder listed
  rcases exists_names_of_reports isTree_noteFolder areFormats_default found member with
    ⟨-, -, -, -, -, ⟨isFile, -⟩ | ⟨-, missing⟩⟩
  · exact not_isWithinBounds_slashed long ((isFile_slashed_iff short).mp isFile)
  · rcases always _ _ _ _ isTree_noteFolder areFormats_default (survey_of_discover found)
      _ member _ missing with ⟨violation, same⟩
    cases same

end Document
end Guidebook
