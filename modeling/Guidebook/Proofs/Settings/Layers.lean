import Guidebook.Proofs.Settings.Variables
import Guidebook.Settings.Load

namespace Guidebook
namespace Settings

/-!
# Precedence of layers

Settings are loaded from a global file, a file in a folder and the environment.
Loading is told field by field: a field that is a single value has the value of the
highest layer that specifies it, and the list of extensions is made with a rule for
each layer.  A file that is not there is a layer that specifies nothing.  The layers
are given by what the files and the variables say, and not by what loading makes of
them; the order in which fields and files are read is not assumed.
-/

variable {environment : Environment} {storage : Storage} {folder : Option Path}

/-! ## The layer of a file -/

/-- What a file that need not be there specifies: nothing where there is none, and
otherwise the overlay that its text is read as. -/
inductive Specified (storage : Storage) : Option Path -> Overlay -> Prop where
  | unnamed : Specified storage none .empty
  | absent {path : Path} (notThere : storage.isThere path = false) :
      Specified storage (some path) .empty
  | written {path : Path} {text : String} {overlay : Overlay}
      (file : storage.readText path = .ok text) (parsed : Overlay.ofToml text = .ok overlay) :
      Specified storage (some path) overlay

theorem isThere_of_readText {path : Path} {text : String}
    (file : storage.readText path = .ok text) : storage.isThere path = true := by
  unfold Storage.readText Storage.readBytes at file
  unfold Storage.isThere
  cases found : storage.entry? path with
  | ok entry => rfl
  | error fault =>
      rw [found] at file
      cases file

theorem readOptional_none (storage : Storage) : readOptional storage none = .ok .empty := rfl

theorem readOptional_of_specified {path : Option Path} {overlay : Overlay}
    (specified : Specified storage path overlay) : readOptional storage path = .ok overlay := by
  cases specified with
  | unnamed => exact readOptional_none storage
  | absent notThere => rw [readOptional, notThere, if_neg Bool.false_ne_true]
  | written file parsed =>
      rw [readOptional, isThere_of_readText file, if_pos rfl, readOverlay, file]
      simp only [parsed]
      rfl

/-! ## Laying three layers over the default -/

/-- What the highest of some layers says on a field, among those that specify it. -/
def topmost {Value : Type} (field : Overlay -> Option Value) (layers : List Overlay) :
    Option Value := layers.findSome? field

theorem topmost_nil {Value : Type} (field : Overlay -> Option Value) : topmost field [] = none := rfl

theorem topmost_cons {Value : Type} (field : Overlay -> Option Value) (layer : Overlay)
    (layers : List Overlay) :
    topmost field (layer :: layers) = (field layer).or (topmost field layers) := by
  unfold topmost
  rw [List.findSome?_cons]
  cases field layer <;> rfl

section Highest

variable {Value : Type} {field : Overlay -> Option Value} {layer : Overlay} {layers : List Overlay}

theorem topmost_of_specified {value : Value} (specified : field layer = some value) :
    topmost field (layer :: layers) = some value := by
  rw [topmost_cons, specified, Option.some_or]

theorem topmost_of_unset (unset : field layer = none) :
    topmost field (layer :: layers) = topmost field layers := by
  rw [topmost_cons, unset, Option.none_or]

end Highest

/-- The extensions of the layers: the global list stands in the place of the default
one, the list in the folder is merged into it, and that of the environment stands in
the place of both. -/
def listed (own near global : Overlay) : List String :=
  let base := global.extensions.getD default.extensions
  own.extensions.getD (match near.extensions with
    | some patterns => mergeList base patterns
    | none => base)

/-- The settings of the layers.  The folder of guidebooks is expanded, whichever layer
it comes from. -/
def layered (environment : Environment) (own near global : Overlay) : Settings where
  format := (topmost Overlay.format [own, near, global]).getD default.format
  color := (topmost Overlay.color [own, near, global]).getD default.color
  maxDepth := (topmost Overlay.maxDepth [own, near, global]).getD default.maxDepth
  scanDepth := topmost Overlay.scanDepth [own, near, global]
  extensions := listed own near global
  guidebookDir := (topmost Overlay.guidebookDir [own, near, global]).map environment.expand

/-- Three overlays laid over the default settings one after the other are the
settings of their layers. -/
theorem overlaid_eq_layered (environment : Environment) (own near global : Overlay) :
    let settings := ((default.replace global).merge near).replace own
    { settings with guidebookDir := settings.guidebookDir.map environment.expand } =
      layered environment own near global := by
  unfold layered listed
  simp only [topmost_cons, topmost_nil, Option.or_none, Option.getD_or, replace, merge, overlaid]
  have noDepth (depth : Option Nat) : depth.or default.scanDepth = depth := Option.or_none
  have noFolder (dir : Option String) : dir.or default.guidebookDir = dir := Option.or_none
  rw [noDepth, noFolder]
  congr 1
  cases own.extensions <;> cases near.extensions <;> cases global.extensions <;> rfl

/-- Loading goes well where the files can be read and the variables have no fault, and
then it gives the settings of the layers. -/
theorem load_eq_ok_iff {settings : Settings} :
    load environment storage folder = .ok settings ↔
      Exists fun own => Exists fun near => Exists fun global =>
        environment.overlay = .ok own ∧ readOptional storage (folder.map localPath) = .ok near ∧
          readOptional storage (globalPath? environment) = .ok global ∧
            layered environment own near global = settings := by
  unfold load
  cases readOptional storage (globalPath? environment) with
  | error fault => simp [bind, Except.bind]
  | ok global =>
    cases readOptional storage (folder.map localPath) with
    | error fault => simp [bind, Except.bind]
    | ok near =>
      cases environment.overlay with
      | error fault => simp [bind, Except.bind, Except.mapError]
      | ok own =>
        simp only [bind, Except.bind, Except.mapError, pure, Except.pure,
          overlaid_eq_layered environment own near global, Except.ok.injEq]
        constructor
        · intro same
          exact ⟨own, near, global, rfl, rfl, rfl, same⟩
        · rintro ⟨_, _, _, rfl, rfl, rfl, same⟩
          exact same

/-- Where the global file, the file in a folder and the variables of the environment
say what three overlays hold, loading succeeds, and the settings are those of the three
layers. -/
theorem load_of_layers {own near global : Overlay} (ownLayer : environment.Specifies own)
    (nearLayer : Specified storage (folder.map localPath) near)
    (globalLayer : Specified storage (globalPath? environment) global) :
    load environment storage folder = .ok (layered environment own near global) :=
  load_eq_ok_iff.mpr ⟨own, near, global, Environment.overlay_of_specifies ownLayer,
    readOptional_of_specified nearLayer, readOptional_of_specified globalLayer, rfl⟩

/-- Variables for a depth and for a folder, beside others that are no settings. -/
def sampleEnvironment : Environment :=
  ⟨[("HOME", "/h"), ("XDG_CONFIG_HOME", "/c"), ("Guideplan__Scan_Depth", "+007"),
    ("GUIDEPLAN__GUIDEBOOK_DIR", "~/g")], none⟩

/-- A global file, and a file in a folder. -/
def sampleStorage : Storage :=
  ⟨.folder
    [(Bytes.ofText "c", .folder [(Bytes.ofText "guideplan", .folder
      [(Bytes.ofText "guideplan.toml",
        .file (Bytes.ofText "scan_depth = 2\nextensions = [\"yml\"]\n"))])]),
      (Bytes.ofText "docs", .folder
        [(Bytes.ofText ".guideplan.toml",
          .file (Bytes.ofText "format = \"json\"\nextensions = [\"md\", \"!yml\"]\n"))])], []⟩

theorem specifies_sample :
    sampleEnvironment.Specifies ⟨none, none, none, some 7, none, some "~/g"⟩ := by
  have home : Environment.setting? "HOME" = none := by rfl
  have config : Environment.setting? "XDG_CONFIG_HOME" = none := by rfl
  have depth : Environment.setting? "Guideplan__Scan_Depth" = some "scan_depth" := by rfl
  have dir : Environment.setting? "GUIDEPLAN__GUIDEBOOK_DIR" = some "guidebook_dir" := by rfl
  refine ⟨?_, ?_, .unset ?_, .unset ?_, .unset ?_, ?_, .unset ?_, ?_⟩
  · simp [sampleEnvironment, home, config, depth, dir]
  · intro first second firstListed secondListed setting named namedToo
    have same := named.trans namedToo.symm
    simp only [sampleEnvironment, List.mem_cons, List.not_mem_nil, or_false] at firstListed secondListed
    rcases firstListed with rfl | rfl | rfl | rfl <;>
      rcases secondListed with rfl | rfl | rfl | rfl <;> simp_all
  · simp [sampleEnvironment, home, config, depth, dir]
  · simp [sampleEnvironment, home, config, depth, dir]
  · simp [sampleEnvironment, home, config, depth, dir]
  · have seven : Environment.WritesSize "+007" 7 :=
      ⟨.positive (by decide) (List.all_eq_true.mp (by decide)), by decide⟩
    exact .given (by simp [sampleEnvironment]) depth seven
  · simp [sampleEnvironment, home, config, depth, dir]
  · have plain : Environment.IsPlain "~/g" := ⟨by decide, by decide, by decide⟩
    exact .given (by simp [sampleEnvironment]) dir ⟨plain, rfl⟩

theorem load_of_layers_sample :
    sampleEnvironment.Specifies ⟨none, none, none, some 7, none, some "~/g"⟩ ∧
      load sampleEnvironment sampleStorage (some (.ofText "docs")) =
        .ok ⟨.json, true, 64, some 7, ["md"], some "/h/g"⟩ := by
  have near : Specified sampleStorage ((some (.ofText "docs")).map localPath)
      ⟨some .json, none, none, none, some ["md", "!yml"], none⟩ := by
    have leads : sampleStorage.entry? (localPath (.ofText "docs")) =
        .ok ([Bytes.ofText "docs", Bytes.ofText ".guideplan.toml"],
          .file (Bytes.ofText "format = \"json\"\nextensions = [\"md\", \"!yml\"]\n")) := by
      rfl
    exact .written (Storage.readText_of_entry leads) (by decide +kernel)
  have global : Specified sampleStorage (globalPath? sampleEnvironment)
      ⟨none, none, none, some 2, some ["yml"], none⟩ := by
    have leads : sampleStorage.entry? (.ofText "/c/guideplan/guideplan.toml") =
        .ok ([Bytes.ofText "c", Bytes.ofText "guideplan", Bytes.ofText "guideplan.toml"],
          .file (Bytes.ofText "scan_depth = 2\nextensions = [\"yml\"]\n")) := by
      rfl
    have path : globalPath? sampleEnvironment = some (.ofText "/c/guideplan/guideplan.toml") := by
      rfl
    rw [path]
    exact .written (Storage.readText_of_entry leads) (by decide +kernel)
  refine ⟨specifies_sample, ?_⟩
  rw [load_of_layers specifies_sample near global]
  rfl

end Settings
end Guidebook
