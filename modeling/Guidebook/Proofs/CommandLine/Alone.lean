import Guidebook.Proofs.CommandLine.Surveys
import Guidebook.Proofs.Document.Json
import Guidebook.Proofs.Plan.Decompilation
import Guidebook.Proofs.Settings.Layers
import Guidebook.Proofs.Storage.Parent

namespace Guidebook

/-!
# Documents checked alone

A check of a folder compiles every document below it with the settings of this folder.  A
check of one of the documents alone takes the settings of the folder around the document.
The depth of the plan is all that the settings have a say in: so the two agree where both
settings have the same limit, and always for a document right in the folder.  Further
below, a document can pass one check and fail the other.
-/

/-! ## Plans under some limit -/

namespace Document

/-- A document that loads as this forest and has a plan unless it is too deep. -/
def HasPlan (place : Storage) (path : Path) (forest : Forest) : Prop :=
  load place path = .ok forest ∧
    Exists fun limit => Exists fun step => forest.compile limit path.shown = .ok step

/-- Whether a document has a plan depends on its depth and nothing else in the settings. -/
theorem exists_compile_iff {place : Storage} {settings : Settings} {path : Path} :
    (Exists fun plan => compile place settings path = .ok plan) ↔
      Exists fun forest => HasPlan place path forest ∧ forest.depth ≤ settings.maxDepth := by
  constructor
  · rintro ⟨plan, compiled⟩
    rcases exists_load_of_compile compiled with ⟨forest, root, loaded, made, -⟩
    have within := ((Forest.compile_eq_ok_iff ..).mp made).2.2.2
    exact ⟨forest, ⟨loaded, settings.maxDepth, root, made⟩,
      (Forest.depth_le_iff forest _).mpr within⟩
  · rintro ⟨forest, ⟨loaded, limit, step, made⟩, within⟩
    rcases (Forest.compile_eq_ok_iff ..).mp made with ⟨nonempty, wellFormed, read, -⟩
    have compiled : forest.compile settings.maxDepth path.shown = .ok step :=
      (Forest.compile_eq_ok_iff ..).mpr
        ⟨nonempty, wellFormed, read, (Forest.depth_le_iff forest _).mp within⟩
    refine ⟨⟨path.shown, step⟩, ?_⟩
    rw [compile_of_load settings loaded, compiled]
    rfl

end Document

/-! ## Settings of a folder -/

theorem mapError_eq_ok_iff {Fault Other Value : Type} {result : Except Fault Value}
    {other : Fault -> Other} {value : Value} :
    result.mapError other = .ok value ↔ result = .ok value := by
  cases result <;> simp [Except.mapError]

namespace Settings

variable {environment : Environment} {storage : Storage}

theorem isName_localName : Path.IsName localName.bytes := by
  decide

/-- A file with settings is read alike over two paths that lead to it. -/
theorem readOptional_congr {left right : Path} (same : storage.entry? left = storage.entry? right)
    (overlay : Overlay) :
    readOptional storage (some left) = .ok overlay ↔
      readOptional storage (some right) = .ok overlay := by
  have sameThere : storage.isThere left = storage.isThere right := by
    rw [Storage.isThere, Storage.isThere, same]
  have sameText : storage.readText left = storage.readText right := by
    rw [Storage.readText, Storage.readText, Storage.readBytes, Storage.readBytes, same]
  simp only [readOptional, readOverlay, sameThere, sameText]
  split
  · cases storage.readText right with
    | error fault => simp
    | ok text => exact mapError_eq_ok_iff.trans mapError_eq_ok_iff.symm
  · rfl

/-- The settings of a folder do not depend on how its path ends. -/
theorem load_eq_ok_iff_of_isEnding {kept whole : Path}
    (ending : Path.IsEnding kept.bytes whole.bytes) (nonempty : kept.bytes ≠ [])
    (short : (localPath whole).bytes.length < Storage.pathBound) (settings : Settings) :
    load environment storage (some kept) = .ok settings ↔
      load environment storage (some whole) = .ok settings := by
  have same : storage.entry? (localPath whole) = storage.entry? (localPath kept) :=
    Storage.entry?_join_of_isEnding storage ending nonempty isName_localName short
  simp only [load_eq_ok_iff, Option.map_some, readOptional_congr same]

end Settings

namespace CommandLine

theorem Failure.status_ne_zero (failure : Failure) : failure.status ≠ 0 := by
  cases failure with
  | document cause => cases cause <;> exact Nat.succ_ne_zero _
  | _ => exact Nat.succ_ne_zero _

theorem statusOf_eq_zero_iff {result : Except Failure Unit} :
    statusOf result = 0 ↔ result = .ok () := by
  cases result with
  | error failure => simp [statusOf, failure.status_ne_zero]
  | ok value => exact ⟨fun _ => rfl, fun _ => rfl⟩

namespace Command

open Document (Report HasPlan)

/-! ## A document alone -/

theorem settingsFor_eq_ok_iff {around : Surroundings} {path : Path} {settings : Settings} :
    settingsFor around path = .ok settings ↔
      Settings.load around.environment around.storage
        (some (settingsFolder around.storage path)) = .ok settings :=
  mapError_eq_ok_iff

/-- A check of a document alone goes well when the document has a plan under the limit of
its own settings. -/
theorem status_check_document {around : Surroundings} {file : Path}
    (isDocument : around.storage.isFolder file = false) (debug : Nat) (noColor : Bool)
    (terminal : Terminal) :
    statusOf (run around ⟨debug, noColor, .check (some file)⟩ terminal).result = 0 ↔
      Exists fun own => settingsFor around file = .ok own ∧
        Exists fun forest => HasPlan around.storage file forest ∧ forest.depth ≤ own.maxDepth := by
  have checked : (run around ⟨debug, noColor, .check (some file)⟩ terminal).result =
      (withPlan around noColor file terminal (printTally file)).2 := by
    rw [← check_eq_withPlan isDocument]
    rfl
  simp only [statusOf_eq_zero_iff, checked, ← Document.exists_compile_iff]
  constructor
  · intro passed
    cases planned : planFor around file with
    | error failure =>
        rw [(withPlan_of_error planned noColor terminal _).1] at passed
        cases passed
    | ok found =>
        rcases planFor_eq_ok_iff.mp planned with ⟨loaded, compiled⟩
        exact ⟨found.1, loaded, found.2, compiled⟩
  · rintro ⟨own, loaded, plan, compiled⟩
    rw [withPlan_of_ok (planFor_eq_ok_iff.mpr ⟨loaded, compiled⟩)]

/-! ## Documents of a survey -/

section Survey

variable {around : Surroundings} {folder : Path} {settings : Settings} {all : List Report}

/-- A document of a survey is no folder, and its settings are those of the folder that it is
right in. -/
theorem settingsFor_under (tree : around.storage.root.IsTree) {base names : Location}
    {entries : List (Name × Entry)}
    (isFolder : around.storage.entry? folder = .ok (base, .folder entries))
    (listed : Document.IsListed around.storage settings base names) :
    around.storage.isFolder (folder.under names) = false ∧
      ((Settings.localPath (folder.under names.dropLast)).bytes.length < Storage.pathBound ->
        forall own, settingsFor around (folder.under names) = .ok own ↔
          Settings.load around.environment around.storage
            (some (folder.under names.dropLast)) = .ok own) := by
  rcases listed.isFile with ⟨content, isFile⟩
  have areNames := listed.areNames tree
  have isDocument : around.storage.isFolder (folder.under names) = false := by
    rw [Storage.isFolder]
    rcases Storage.entry?_under isFolder areNames isFile with leads | ⟨fault, fails⟩
    · rw [leads]
      rfl
    · rw [fails]
  -- The parent of the document is the folder that it is right in, less an ending.
  refine ⟨isDocument, fun short own => ?_⟩
  rcases List.eq_nil_or_concat names with rfl | ⟨front, last, rfl⟩
  · exact absurd rfl listed.below
  · rw [List.concat_eq_append] at areNames isDocument short ⊢
    rw [List.dropLast_concat] at short ⊢
    rw [settingsFor_eq_ok_iff, settingsFolder, isDocument, Path.under_concat]
    have isName := areNames last (List.mem_append_right front List.mem_cons_self)
    have outer : (folder.under front).bytes ≠ [] :=
      Path.bytes_under_ne_nil
        (Storage.follow_of_resolveSteps (Storage.resolve_of_entry isFolder)).2.1
        fun name member => areNames name (List.mem_append_left [last] member)
    rcases Path.parent?_join isName outer with ⟨parent, isParent, nonempty, ending⟩
    have notEmpty : parent.bytes.isEmpty = false := List.isEmpty_eq_false_iff.mpr nonempty
    simp only [isParent, notEmpty, Bool.false_eq_true, if_false]
    exact Settings.load_eq_ok_iff_of_isEnding ending nonempty short own

/-- A document has the same report alone: it has a plan in the survey when a check of it
alone ends with status zero. -/
def AgreesAlone (around : Surroundings) (document : Report) : Prop :=
  forall debug noColor terminal,
    (Exists fun plan => document.result = .ok plan) ↔
      statusOf (run around ⟨debug, noColor, .check (some document.path)⟩ terminal).result = 0

/-- Under one limit it does not matter whose settings a document is compiled with. -/
theorem agreesAlone_of_maxDepth {document : Report} {own : Settings}
    (isDocument : around.storage.isFolder document.path = false)
    (compiled : document.result = Document.compile around.storage settings document.path)
    (loaded : settingsFor around document.path = .ok own)
    (same : own.maxDepth = settings.maxDepth) : AgreesAlone around document := by
  intro debug noColor terminal
  rw [compiled, Document.exists_compile_iff, status_check_document isDocument, ← same]
  constructor
  · exact fun found => ⟨own, loaded, found⟩
  · rintro ⟨other, otherLoaded, found⟩
    cases loaded.symm.trans otherLoaded
    exact found

/-- A document of a survey has a plan when it is not too deep for the settings of the folder
that is checked, and alone when it is not too deep for those of the folder that it is right
in.  The two agree where the limits are the same, and so for every document right in the
folder that is checked. -/
theorem check_agrees_up_to_depth (tree : around.storage.root.IsTree)
    (loaded : settingsFor around folder = .ok settings)
    (surveyed : Document.survey around.storage settings folder = .ok all) :
    forall document, document ∈ all ->
      Exists fun names =>
        names ≠ [] ∧ document.path = folder.under names ∧
        document.path.parts = folder.parts ++ names.map Path.Part.name ∧
        ((Settings.localPath (folder.under names.dropLast)).bytes.length < Storage.pathBound ->
          forall own, settingsFor around document.path = .ok own ↔
            Settings.load around.environment around.storage
              (some (folder.under names.dropLast)) = .ok own) ∧
        ((Exists fun plan => document.result = .ok plan) ↔
          Exists fun forest =>
            HasPlan around.storage document.path forest ∧ forest.depth ≤ settings.maxDepth) ∧
        (forall debug noColor terminal,
          statusOf (run around ⟨debug, noColor, .check (some document.path)⟩ terminal).result = 0 ↔
            Exists fun own => settingsFor around document.path = .ok own ∧
              Exists fun forest =>
                HasPlan around.storage document.path forest ∧ forest.depth ≤ own.maxDepth) ∧
        (forall own, settingsFor around document.path = .ok own ->
          own.maxDepth = settings.maxDepth -> AgreesAlone around document) ∧
        (names.length = 1 -> (Settings.localPath folder).bytes.length < Storage.pathBound ->
          AgreesAlone around document) := by
  rcases Document.exists_discover_of_survey surveyed with ⟨paths, found, rfl⟩
  rcases Document.exists_folder_mem_iff tree found with ⟨base, entries, leads, isExact⟩
  intro document member
  rcases List.mem_map.mp member with ⟨path, inPaths, rfl⟩
  rcases (isExact path).mp inPaths with ⟨names, listed, rfl⟩
  rcases settingsFor_under tree leads listed with ⟨isDocument, near⟩
  have alike {own : Settings} (ownLoaded : settingsFor around (folder.under names) = .ok own)
      (same : own.maxDepth = settings.maxDepth) : AgreesAlone around
        ⟨folder.under names, Document.compile around.storage settings (folder.under names)⟩ :=
    agreesAlone_of_maxDepth isDocument rfl ownLoaded same
  refine ⟨names, listed.below, rfl, Path.parts_under (listed.areNames tree), near,
    Document.exists_compile_iff, status_check_document isDocument, fun _ => alike,
    fun single short => ?_⟩
  have outermost : names.dropLast = [] := List.eq_nil_of_length_eq_zero (by simp [single])
  have here : settingsFolder around.storage folder = folder := by
    rw [settingsFolder, Storage.isFolder, leads]
    rfl
  rw [outermost] at near
  rw [settingsFor_eq_ok_iff, here] at loaded
  exact alike ((near short settings).mpr loaded) rfl

end Survey

/-! A folder with settings of its own below the folder that is checked. -/

def nestedForest : Forest := [⟨"S", [.command "x"]⟩]

def innerFolder : Entry :=
  .folder [(Bytes.ofText "b.json", .file (Bytes.ofText (Document.bareValue nestedForest).compact)),
    (Bytes.ofText ".guideplan.toml", .file (Bytes.ofText "max_depth = 1\n"))]

def outerFolder : Entry :=
  .folder [(Bytes.ofText "a.json", .file (Bytes.ofText "[\x7b\"name\":\"x\"\x7d]")),
    (Bytes.ofText "sub", innerFolder)]

def nested : Surroundings :=
  ⟨⟨[], none⟩, ⟨.folder [(Bytes.ofText "docs", outerFolder)], []⟩⟩

def nestedPaths : List Path := [.ofText "docs/a.json", .ofText "docs/sub/b.json"]

theorem isTree_nested : nested.storage.root.IsTree := by
  have inner : innerFolder.IsTree :=
    .cons (by decide) (by decide) (.of_entries_nil rfl) <|
      .cons (by decide) (by decide) (.of_entries_nil rfl) (.of_entries_nil rfl)
  have outer : outerFolder.IsTree :=
    .cons (by decide) (by decide) (.of_entries_nil rfl) <|
      .cons (by decide) (by decide) inner (.of_entries_nil rfl)
  exact .cons (by decide) (by decide) outer (.of_entries_nil rfl)

theorem settingsFor_nested : settingsFor nested (.ofText "docs") = .ok .default := by
  rfl

theorem settingsFor_nested_b : settingsFor nested (.ofText "docs/sub/b.json") =
    .ok { Settings.default with maxDepth := 1 } := by
  have folder : settingsFolder nested.storage (.ofText "docs/sub/b.json") = .ofText "docs/sub" :=
    rfl
  have leads : nested.storage.entry? (Settings.localPath (.ofText "docs/sub")) =
      .ok ([Bytes.ofText "docs", Bytes.ofText "sub", Bytes.ofText ".guideplan.toml"],
        .file (Bytes.ofText "max_depth = 1\n")) := rfl
  have parsed : Overlay.ofToml "max_depth = 1\n" =
      .ok { Overlay.empty with maxDepth := some 1 } := by
    decide +kernel
  have near : Settings.readOptional nested.storage ((some (.ofText "docs/sub")).map
      Settings.localPath) = .ok { Overlay.empty with maxDepth := some 1 } :=
    Settings.readOptional_of_specified (.written (Storage.readText_of_entry leads) parsed)
  rw [settingsFor, folder, Settings.load, near]
  rfl

theorem discover_nested :
    Document.discover nested.storage .default (.ofText "docs") = .ok nestedPaths := by
  have leads : nested.storage.entry? (.ofText "docs") =
      .ok ([Bytes.ofText "docs"], outerFolder) := by
    rfl
  have picked : Document.documents .default (.ofText "docs") outerFolder = nestedPaths := by
    rfl
  exact Document.discover_of_documents leads picked (by decide)

theorem load_nested :
    Document.load nested.storage (.ofText "docs/sub/b.json") = .ok nestedForest := by
  have extension : Path.extension? (.ofText "docs/sub/b.json") = some "json" := rfl
  have known : Document.formatOf nested.storage (.ofText "docs/sub/b.json") = .ok .json :=
    Document.formatOf_eq_ok extension rfl rfl
  have leads : nested.storage.entry? (.ofText "docs/sub/b.json") =
      .ok ([Bytes.ofText "docs", Bytes.ofText "sub", Bytes.ofText "b.json"],
        .file (Bytes.ofText (Document.bareValue nestedForest).compact)) := rfl
  have read : Document.Format.json.read (Document.bareValue nestedForest).compact =
      .ok nestedForest :=
    Document.read_json_eq_ok ((Document.ofJson_bareValue nestedForest).1 (by decide))
  rw [Document.load, known]
  simp only [Document.readText_of_entry leads, read]
  rfl

theorem hasPlan_nested {forest : Forest} :
    HasPlan nested.storage (.ofText "docs/sub/b.json") forest ↔
      forest = nestedForest := by
  constructor
  · rintro ⟨loaded, -⟩
    exact Except.ok.inj (loaded.symm.trans load_nested)
  · rintro rfl
    exact ⟨load_nested, 2, .sequence "S" [.task "x"], rfl⟩

/-- The reports on the two documents. -/
def nestedReports : List Report :=
  Document.reports nested.storage .default nestedPaths

theorem survey_nested :
    Document.survey nested.storage .default (.ofText "docs") = .ok nestedReports :=
  Document.survey_of_discover discover_nested

/-- The document right in the folder has the same report alone. -/
theorem check_agrees_up_to_depth_nested :
    nested.storage.root.IsTree ∧
      settingsFor nested (.ofText "docs") = .ok .default ∧
      Document.survey nested.storage .default (.ofText "docs") = .ok nestedReports ∧
      AgreesAlone nested ⟨.ofText "docs/a.json",
        Document.compile nested.storage .default (.ofText "docs/a.json")⟩ := by
  refine ⟨isTree_nested, settingsFor_nested, survey_nested, ?_⟩
  rcases check_agrees_up_to_depth isTree_nested settingsFor_nested survey_nested _
    List.mem_cons_self with ⟨names, -, -, parts, -, -, -, -, agrees⟩
  have alone : [Bytes.ofText "a.json"] = names := Path.names_of_parts (by decide) parts
  exact agrees (alone ▸ rfl) (by decide)

/-- A document passes the check of a folder and fails alone, where the settings next to it
have a smaller limit. -/
theorem check_disagrees_below :
    ¬ forall (around : Surroundings) (folder : Path) (settings : Settings) (all : List Report),
      around.storage.root.IsTree -> settingsFor around folder = .ok settings ->
        Document.survey around.storage settings folder = .ok all ->
          forall document, document ∈ all -> AgreesAlone around document := by
  intro always
  have agrees := always nested (.ofText "docs") .default _ isTree_nested settingsFor_nested
    survey_nested ⟨.ofText "docs/sub/b.json", _⟩ (List.mem_cons_of_mem _ List.mem_cons_self)
    0 false (.blank false)
  have isDocument : nested.storage.isFolder (.ofText "docs/sub/b.json") = false := by
    rfl
  rw [Document.exists_compile_iff, status_check_document isDocument] at agrees
  rcases agrees.mp ⟨nestedForest, hasPlan_nested.mpr rfl, by decide⟩ with
    ⟨own, loaded, forest, planned, within⟩
  cases loaded.symm.trans settingsFor_nested_b
  cases hasPlan_nested.mp planned
  exact absurd within (by decide)

end Command
end CommandLine
end Guidebook
