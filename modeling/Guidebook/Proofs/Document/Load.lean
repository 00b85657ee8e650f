import Mathlib.Control.Monad.Basic
import Guidebook.Document.Load

namespace Guidebook
namespace Document

/-!
# Documents read at once and documents read late

A document is checked and then read, by the loader itself or by a source that the
compiler asks for its forest.  The checks are the same, and so is the reading; what
differs is who reports a failure.  A document that is not there, or of no known
format, is refused before a source is made.  Everything later is told by the
compiler, which has no word for it but a tree that could not be had.

A source remembers its path and the format that the path stands for.  So the plan
is a function of what the place holds when the source is read, and nothing that it
held before has a part in it.
-/

variable {Place : Type} [Readable Place]

/-! ## What a reading determines -/

/-- The plan that the text of a document gives, or the words in which its reading
failed. -/
def planOf (limit : Nat) (path : Path) (format : Format) :
    Except String String -> Except Violation Plan
  | .error cause =>
    .error (.malformed path.shown .root (.sourceFailed ("read " ++ path.shown ++ ": " ++ cause)))
  | .ok text =>
    match format.read text with
    | .error message =>
      .error (.malformed path.shown .root
        (.sourceFailed ("parse " ++ path.shown ++ ": " ++ message)))
    | .ok forest => (forest.compile limit path.shown).map fun root => ⟨path.shown, root⟩

theorem plan_eq_planOf (place : Place) (limit : Nat) (source : Source) :
    source.plan place limit =
      planOf limit source.path source.format (Readable.readText place source.path) := by
  rw [Source.plan, Source.read]
  cases Readable.readText place source.path with
  | error cause => rfl
  | ok text =>
      simp only [planOf]
      cases source.format.read text with
      | error message => rfl
      | ok forest => rfl

/-! ## What is checked before -/

theorem lowered_eq_map (text : String) : Path.lowered text = text.map Char.toLower := by
  rw [Path.lowered, ← String.toList_map, String.ofList_toList]

theorem ofName?_eq_some_iff {text : String} {format : Format} :
    Format.ofName? text = some format ↔ Path.lowered text = format.name := by
  rw [Format.ofName?, ← lowered_eq_map]
  constructor
  · intro found
    have same := List.find?_some found
    exact (of_decide_eq_true same).symm
  · rintro same
    rw [same]
    cases format <;> decide

/-- A path has the format that its extension names. -/
theorem ofPath?_of_extension {path : Path} {text : String} {format : Format}
    (extension : path.extension? = some text) (named : Path.lowered text = format.name) :
    Format.ofPath? path = some format := by
  rw [Format.ofPath?, extension]
  exact ofName?_eq_some_iff.mpr named

theorem formatOf_eq_ok {place : Place} {path : Path} {text : String} {format : Format}
    (extension : path.extension? = some text) (named : Path.lowered text = format.name)
    (isFile : Readable.isFile place path = true) : formatOf place path = .ok format := by
  rw [formatOf, ofPath?_of_extension extension named]
  exact if_pos isFile

theorem formatOf_eq_error {place : Place} {path : Path} {failure : Failure}
    (refused : formatOf place path = .error failure) :
    failure = .unsupported path ∨ failure = .missing path := by
  rw [formatOf] at refused
  cases known : Format.ofPath? path with
  | none =>
      rw [known] at refused
      cases refused
      exact Or.inl rfl
  | some format =>
      simp only [known] at refused
      split at refused
      · cases refused
      · cases refused
        exact Or.inr rfl

theorem ofPath?_of_formatOf {place : Place} {path : Path} {format : Format}
    (found : formatOf place path = .ok format) : Format.ofPath? path = some format := by
  rw [formatOf] at found
  cases known : Format.ofPath? path with
  | none =>
      rw [known] at found
      cases found
  | some other =>
      simp only [known] at found
      split at found
      · cases found
        rfl
      · cases found

/-- A document of a storage with a text is read as the text. -/
theorem readText_of_entry {storage : Storage} {path : Path} {location : Location} {text : String}
    (leads : storage.entry? path = .ok (location, .file (Bytes.ofText text))) :
    Readable.readText storage path = .ok text :=
  congrArg (Except.mapError Storage.Fault.message) (Storage.readText_of_entry leads)

theorem source_eq_ok_iff (place : Place) (path : Path) (made : Source) :
    source place path = .ok made ↔ made.path = path ∧ formatOf place path = .ok made.format := by
  rw [source]
  cases formatOf place path with
  | error failure => simp [Except.map]
  | ok format =>
      simp only [Except.map, Except.ok.injEq]
      constructor
      · rintro rfl
        exact ⟨rfl, rfl⟩
      · rintro ⟨rfl, rfl⟩
        rfl

theorem compile_of_refused {place : Place} {path : Path} {failure : Failure}
    (settings : Settings) (refused : formatOf place path = .error failure) :
    compile place settings path = .error failure := by
  rw [compile, source, refused]
  rfl

theorem compile_of_found {place : Place} {path : Path} {format : Format} (settings : Settings)
    (found : formatOf place path = .ok format) :
    compile place settings path =
      (planOf settings.maxDepth path format (Readable.readText place path)).mapError
        .violation := by
  have made : source place path = .ok ⟨path, format⟩ :=
    (source_eq_ok_iff place path ⟨path, format⟩).mpr ⟨rfl, found⟩
  rw [compile, made]
  exact congrArg (Except.mapError Failure.violation)
    (plan_eq_planOf place settings.maxDepth ⟨path, format⟩)

theorem text_sourceFailed (action cause : String) (path : Path) :
    (Malformation.sourceFailed (action ++ path.shown ++ ": " ++ cause)).text =
      "tree producer failed: " ++ action ++ path.shown ++ ": " ++ cause := by
  have words (message : String) :
      (Malformation.sourceFailed message).text = "tree producer failed: " ++ message := rfl
  rw [words]
  simp only [String.append_assoc]

/-! ## The two ways compared -/

/-- There are four ways for a document to go, and on each of them loading and
compiling go together. -/
theorem load_compile_cases (place : Place) (settings : Settings) (path : Path) :
    (Exists fun failure => (failure = .unsupported path ∨ failure = .missing path) ∧
      load place path = .error failure ∧ compile place settings path = .error failure) ∨
    (Exists fun cause => Readable.readText place path = .error cause ∧
      load place path = .error (.operation "read tree document" path cause) ∧
      compile place settings path = .error (.violation (.malformed path.shown .root
        (.sourceFailed ("read " ++ path.shown ++ ": " ++ cause))))) ∨
    (Exists fun message => load place path = .error (.invalid path message) ∧
      compile place settings path = .error (.violation (.malformed path.shown .root
        (.sourceFailed ("parse " ++ path.shown ++ ": " ++ message))))) ∨
    Exists fun forest => load place path = .ok forest ∧
      compile place settings path =
        ((forest.compile settings.maxDepth path.shown).map fun root =>
          (⟨path.shown, root⟩ : Plan)).mapError .violation := by
  cases checked : formatOf place path with
  | error failure =>
      refine Or.inl ⟨failure, formatOf_eq_error checked, ?_, compile_of_refused settings checked⟩
      rw [load, checked]
  | ok format =>
      rw [load, checked, compile_of_found settings checked]
      cases content : Readable.readText place path with
      | error cause => exact Or.inr (Or.inl ⟨cause, rfl, rfl, rfl⟩)
      | ok text =>
          simp only [planOf]
          cases parsed : format.read text with
          | error message => exact Or.inr (Or.inr (Or.inl ⟨message, rfl, rfl⟩))
          | ok forest => exact Or.inr (Or.inr (Or.inr ⟨forest, rfl, rfl⟩))

/-- A document that loads is compiled as the forest that it is. -/
theorem compile_of_load {place : Place} {path : Path} {forest : Forest} (settings : Settings)
    (loaded : load place path = .ok forest) :
    compile place settings path =
      ((forest.compile settings.maxDepth path.shown).map fun root =>
        (⟨path.shown, root⟩ : Plan)).mapError .violation := by
  rcases load_compile_cases place settings path with ⟨_, _, failed, _⟩ | ⟨_, _, failed, _⟩ |
      ⟨_, failed, _⟩ | ⟨found, made, compiled⟩
  · cases loaded.symm.trans failed
  · cases loaded.symm.trans failed
  · cases loaded.symm.trans failed
  · cases loaded.symm.trans made
    exact compiled

/-- A document that does not load is refused alike, or its reading is what the
compiler reports. -/
theorem compile_of_load_error {place : Place} {path : Path} {failure : Failure}
    (settings : Settings) (failed : load place path = .error failure) :
    ((failure = .unsupported path ∨ failure = .missing path) ∧
        compile place settings path = .error failure) ∨
      (Exists fun message => failure = .invalid path message ∧
        compile place settings path = .error (.violation (.malformed path.shown .root
          (.sourceFailed ("parse " ++ path.shown ++ ": " ++ message))))) ∨
      (Exists fun cause => Readable.readText place path = .error cause ∧
        failure = .operation "read tree document" path cause ∧
        compile place settings path = .error (.violation (.malformed path.shown .root
          (.sourceFailed ("read " ++ path.shown ++ ": " ++ cause))))) := by
  rcases load_compile_cases place settings path with ⟨other, refused, same, compiled⟩ |
      ⟨cause, unread, same, compiled⟩ | ⟨message, same, compiled⟩ | ⟨forest, loaded, _⟩
  · cases failed.symm.trans same
    exact Or.inl ⟨refused, compiled⟩
  · cases failed.symm.trans same
    exact Or.inr (Or.inr ⟨cause, unread, rfl, compiled⟩)
  · cases failed.symm.trans same
    exact Or.inr (Or.inl ⟨message, rfl, compiled⟩)
  · cases failed.symm.trans loaded

/-- A document that has a plan loads, and the plan is that of its forest. -/
theorem exists_load_of_compile {place : Place} {path : Path} {settings : Settings} {plan : Plan}
    (compiled : compile place settings path = .ok plan) :
    Exists fun forest => Exists fun root =>
      load place path = .ok forest ∧
        forest.compile settings.maxDepth path.shown = .ok root ∧ plan = ⟨path.shown, root⟩ := by
  cases loaded : load place path with
  | error failure =>
      rcases compile_of_load_error settings loaded with ⟨_, failed⟩ | ⟨_, _, failed⟩ |
          ⟨_, _, _, failed⟩ <;>
        rw [failed] at compiled <;> cases compiled
  | ok forest =>
      rw [compile_of_load settings loaded] at compiled
      cases made : forest.compile settings.maxDepth path.shown with
      | error violation =>
          rw [made] at compiled
          cases compiled
      | ok root =>
          rw [made] at compiled
          cases compiled
          exact ⟨forest, root, rfl, made, rfl⟩

/-- Compiling a document is loading it and compiling its forest.  Where loading is
refused, compiling is refused alike; where a document cannot be read or is not
valid, compiling reports a malformed tree of the document's name at the root, with
the failure of the source as its reason.  And a source made in one state gives in
any other state the plan of what its path holds there, in the format of the path. -/
theorem compile_agrees_with_load (path : Path) :
    (forall (place : Place) (settings : Settings),
      (forall forest, load place path = .ok forest ->
        compile place settings path =
          ((forest.compile settings.maxDepth path.shown).map fun root =>
            (⟨path.shown, root⟩ : Plan)).mapError .violation) ∧
      (forall failure, load place path = .error failure ->
        ((failure = .unsupported path ∨ failure = .missing path) ∧
          compile place settings path = .error failure) ∨
        (Exists fun message => Exists fun reason =>
          failure = .invalid path message ∧
          compile place settings path = .error (.violation (.malformed path.shown .root reason)) ∧
          reason.text = "tree producer failed: parse " ++ path.shown ++ ": " ++ message) ∨
        (Exists fun cause => Exists fun reason =>
          Readable.readText place path = .error cause ∧
          failure = .operation "read tree document" path cause ∧
          compile place settings path = .error (.violation (.malformed path.shown .root reason)) ∧
          reason.text = "tree producer failed: read " ++ path.shown ++ ": " ++ cause))) ∧
    forall (before : Place) made, source before path = .ok made ->
      Exists fun format => Format.ofPath? path = some format ∧
        forall (after : Place) limit,
          made.plan after limit = planOf limit path format (Readable.readText after path) := by
  constructor
  · intro place settings
    refine ⟨fun forest loaded => compile_of_load settings loaded, fun failure failed => ?_⟩
    rcases compile_of_load_error settings failed with refused | ⟨message, invalid, reported⟩ |
        ⟨cause, unread, failing, reported⟩
    · exact Or.inl refused
    · have words : "tree producer failed: " ++ "parse " = "tree producer failed: parse " := rfl
      exact Or.inr (Or.inl ⟨message, _, invalid, reported, by rw [text_sourceFailed, words]⟩)
    · have words : "tree producer failed: " ++ "read " = "tree producer failed: read " := rfl
      exact Or.inr (Or.inr ⟨cause, _, unread, failing, reported, by rw [text_sourceFailed, words]⟩)
  · intro before made kept
    rcases (source_eq_ok_iff before path made).mp kept with ⟨samePath, found⟩
    refine ⟨made.format, ofPath?_of_formatOf found, fun after limit => ?_⟩
    rw [plan_eq_planOf, samePath]

def noteStorage (content : Bytes) : Storage :=
  ⟨.folder [(Bytes.ofText "note.json", .file content)], []⟩

def notePath : Path := .ofText "note.json"

theorem shown_notePath : notePath.shown = "note.json" := Bytes.shown_ofText "note.json"

theorem formatOf_note (content : Bytes) : formatOf (noteStorage content) notePath = .ok .json :=
  have extension : notePath.extension? = some "json" := rfl
  formatOf_eq_ok extension rfl rfl

theorem readText_note (text : String) :
    Readable.readText (noteStorage (Bytes.ofText text)) notePath = .ok text := by
  have leads : Storage.entry? (noteStorage (Bytes.ofText text)) notePath =
      .ok ([Bytes.ofText "note.json"], .file (Bytes.ofText text)) := rfl
  exact readText_of_entry leads

theorem read_note : Format.json.read "[\x7b\"name\":\"x\"\x7d]" = .ok [.command "x"] := by
  decide +kernel

theorem load_note :
    load (noteStorage (Bytes.ofText "[\x7b\"name\":\"x\"\x7d]")) notePath = .ok [.command "x"] := by
  rw [load, formatOf_note]
  simp only [readText_note, read_note]
  rfl

theorem load_spoiledNote :
    load (noteStorage [255]) notePath =
      .error (.operation "read tree document" notePath "stream did not contain valid UTF-8") := by
  have unread : Readable.readText (noteStorage [255]) notePath =
      .error "stream did not contain valid UTF-8" := by
    rfl
  rw [load, formatOf_note]
  simp only [unread]

theorem source_note : source (noteStorage [255]) notePath = .ok ⟨notePath, .json⟩ :=
  (source_eq_ok_iff ..).mpr ⟨rfl, formatOf_note [255]⟩

/-- A document that loads, one that is there and cannot be read, and one that is
taken away between the making of its source and the reading. -/
theorem compile_agrees_with_load_note :
    compile (noteStorage (Bytes.ofText "[\x7b\"name\":\"x\"\x7d]")) .default notePath =
        .ok ⟨"note.json", .task "x"⟩ ∧
      (Exists fun reason =>
        compile (noteStorage [255]) .default notePath =
          .error (.violation (.malformed "note.json" .root reason)) ∧
        reason.text = "tree producer failed: read " ++ "note.json" ++ ": " ++
          "stream did not contain valid UTF-8") ∧
      Source.plan (Storage.empty []) 64 ⟨notePath, .json⟩ =
        planOf 64 notePath .json (.error "No such file or directory (os error 2)") := by
  have law := @compile_agrees_with_load Storage _ notePath
  rw [shown_notePath] at law
  refine ⟨(law.1 _ .default).1 _ load_note, ?_, ?_⟩
  · rcases (law.1 _ .default).2 _ load_spoiledNote with ⟨refused, _⟩ | ⟨_, _, invalid, _⟩ |
        ⟨cause, reason, _, failing, reported, words⟩
    · rcases refused with impossible | impossible <;> cases impossible
    · cases invalid
    · cases failing
      exact ⟨reason, reported, words⟩
  · rcases law.2 _ _ source_note with ⟨format, known, planned⟩
    have json : format = .json := by
      rw [ofPath?_of_formatOf ((source_eq_ok_iff _ _ _).mp source_note).2] at known
      exact (Option.some.inj known).symm
    rw [planned (Storage.empty []) 64, json]
    rfl

end Document
end Guidebook
