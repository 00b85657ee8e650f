import Guidebook.CommandLine.Run
import Guidebook.Proofs.Settings.Layers
import Guidebook.Proofs.Settings.Template
import Guidebook.Proofs.Storage.Parent
import Guidebook.Proofs.Storage.Writing

namespace Guidebook

/-!
# Creating a configuration file

A configuration file is created from the file to start from, which leaves everything out.
A file that is there is kept unless it may be overwritten.  Otherwise only this file is
changed, and nothing is new beside it but the folders that it needed.

The settings of the current folder stay as they are when no configuration file was there
before, with one exception.  A folder that is made for the file may itself be what the path
to another configuration file leads to, or may open a way to something that was there.
-/

namespace Settings

variable {environment : Environment} {storage before after : Storage} {path : Path}

/-! ## Files of settings when more is stored -/

theorem readOptional_of_absent (absent : storage.isThere path = false) :
    readOptional storage (some path) = .ok .empty :=
  readOptional_of_specified (.absent absent)

/-- A file of settings that is there is read as before when more is stored. -/
theorem readOptional_of_grows (grows : Storage.Grows before after)
    (isThere : before.isThere path = true) :
    readOptional after (some path) = readOptional before (some path) := by
  cases leads : before.entry? path with
  | error fault =>
      rw [Storage.isThere, leads] at isThere
      cases isThere
  | ok found =>
      rcases found with ⟨place, entry⟩
      rcases Storage.entry?_of_grows grows leads with ⟨later, leadsToo, remains⟩
      have isThereToo : after.isThere path = true := by rw [Storage.isThere, leadsToo]
      have sameBytes : after.readBytes path = before.readBytes path := by
        rw [Storage.readBytes, Storage.readBytes, leads, leadsToo]
        cases remains <;> rfl
      have sameText : after.readText path = before.readText path := by
        rw [Storage.readText, Storage.readText, sameBytes]
      rw [readOptional, readOptional, isThere, isThereToo, readOverlay, readOverlay, sameText]

/-- The file to start from reads as if it were not there. -/
theorem readOptional_of_template {place : Location}
    (leads : storage.entry? path = .ok (place, .file (Bytes.ofText template))) :
    readOptional storage (some path) = .ok .empty :=
  readOptional_of_specified (.written (Storage.readText_of_entry leads) ofToml_template)

/-- Settings depend on the storage by the two files of settings only. -/
theorem load_congr {folder : Option Path}
    (global : readOptional after (globalPath? environment) =
      readOptional before (globalPath? environment))
    (near : readOptional after (folder.map localPath) =
      readOptional before (folder.map localPath)) :
    load environment after folder = load environment before folder := by
  rw [load, load, global, near]

end Settings

namespace CommandLine
namespace Command

open Storage (HasFolder Creates AddsFile AddsFolders)

variable {storage after : Storage} {environment : Environment} {isGlobal : Bool} {path : Path}

/-! ## The paths of the configuration files -/

theorem steps_localConfig :
    Storage.steps localConfig = [.stay] ++ [.enter Settings.localName.bytes] := by
  decide

theorem resolveSteps_point (storage : Storage) (followLast : Bool) :
    storage.resolveSteps followLast (.ofText ".") [.stay] =
      match storage.root.at? storage.here with
      | some entry => .ok (.found storage.here entry)
      | none => .error .notFound := rfl

/-- No folder has to be made for the file in the current folder, which has to be one. -/
theorem makeParent_localConfig (storage : Storage) :
    storage.makeParent localConfig = (storage, .ok ()) ∧ storage.HasFolder storage.here ∨
      Exists fun fault => storage.makeParent localConfig = (storage, .error fault) := by
  have parent : localConfig.parent? = some (.ofText ".") := by decide
  have outer : (Path.ofText ".").parent? = some (.ofText "") := by decide
  have bare : Storage.bareSteps (.ofText ".") = [.stay] := by decide
  have full : Storage.steps (.ofText ".") = [.stay] := by decide
  have made : storage.makeParent localConfig = storage.makeFoldersFrom 2 (.ofText ".") := by
    rw [Storage.makeParent, parent]
    rfl
  have nonempty : (Path.ofText ".").bytes.isEmpty = false := by decide
  have nothing : (Path.ofText "").bytes.isEmpty = true := by decide
  rw [made, Storage.makeFoldersFrom, nonempty, if_neg Bool.false_ne_true, Storage.makeFolder,
    Storage.create, bare, resolveSteps_point]
  cases isHere : storage.root.at? storage.here with
  | none =>
      refine Or.inr ⟨.notFound, ?_⟩
      simp [outer, Storage.makeFoldersFrom, nothing, Storage.orFolder, Storage.makeFolder,
        Storage.create, bare, resolveSteps_point, isHere, Storage.isFolder, Storage.entry?,
        Storage.resolve, full]
  | some entry =>
      have isFolder : storage.isFolder (.ofText ".") = entry.isFolder := by
        simp [Storage.isFolder, Storage.entry?, Storage.resolve, full, resolveSteps_point, isHere]
      simp only [isFolder]
      cases entry with
      | folder entries => exact Or.inl ⟨rfl, entries, isHere⟩
      | _ => exact Or.inr ⟨_, rfl⟩

/-- The global file is in a folder that its path names. -/
theorem steps_globalPath (found : Settings.globalPath? environment = some path) :
    Exists fun front => Storage.steps path =
        front ++ [.enter (Bytes.ofText "guideplan"), .enter (Bytes.ofText "guideplan.toml")] := by
  rcases Option.map_eq_some_iff.mp found with ⟨folder, -, rfl⟩
  have outerName : Path.IsName (Bytes.ofText "guideplan") := by decide
  have ownName : Path.IsName (Bytes.ofText "guideplan.toml") := by decide
  have nonempty := Path.bytes_join_ne_nil folder outerName
  rcases folder with ⟨_ | ⟨first, rest⟩⟩
  · exact ⟨[], by decide⟩
  · refine ⟨Storage.bareSteps ⟨first :: rest⟩, ?_⟩
    have outer : Storage.bareSteps (Path.join ⟨first :: rest⟩ ⟨Bytes.ofText "guideplan"⟩) =
        Storage.bareSteps ⟨first :: rest⟩ ++ [.enter (Bytes.ofText "guideplan")] :=
      Storage.bareSteps_join (List.cons_ne_nil _ _) outerName
    rw [Path.ofText, Path.ofText, Storage.steps_join nonempty ownName, outer, List.append_assoc]
    rfl

theorem configTarget_cases (target : configTarget environment isGlobal = .ok path) :
    isGlobal = true ∧ Settings.globalPath? environment = some path ∨
      isGlobal = false ∧ path = localConfig := by
  cases isGlobal with
  | false =>
      cases target
      exact Or.inr ⟨rfl, rfl⟩
  | true =>
      rw [configTarget, if_pos rfl] at target
      cases found : Settings.globalPath? environment with
      | none =>
          rw [found] at target
          cases target
      | some global =>
          rw [found] at target
          cases target
          exact Or.inl ⟨rfl, rfl⟩

theorem exists_enter_of_target (target : configTarget environment isGlobal = .ok path) :
    Exists fun name => Storage.Step.enter name ∈ Storage.steps path := by
  rcases configTarget_cases target with ⟨-, found⟩ | ⟨-, rfl⟩
  · rcases steps_globalPath found with ⟨front, steps⟩
    exact ⟨Bytes.ofText "guideplan", by simp [steps]⟩
  · exact ⟨Settings.localName.bytes, by simp [steps_localConfig]⟩

/-- When the folders are made, a new configuration file has a folder to be in. -/
theorem hasFolder_of_target (target : configTarget environment isGlobal = .ok path)
    (made : storage.makeParent path = (after, .ok ())) {place : Location} {name : Name}
    (resolved : after.resolve true path = .ok (.vacant place name)) : after.HasFolder place := by
  have followed := (Storage.follow_of_resolveSteps resolved).2.2.2
  rcases configTarget_cases target with ⟨-, found⟩ | ⟨-, rfl⟩
  · rcases steps_globalPath found with ⟨front, steps⟩
    rw [steps, List.append_cons] at followed
    exact Storage.follow_hasFolder_of_enter Storage.linkLimit
      (List.mem_append_right front List.mem_cons_self) followed
  · rcases makeParent_localConfig storage with ⟨same, isFolder⟩ | ⟨fault, failed⟩
    · cases same.symm.trans made
      exact Storage.follow_hasFolder Storage.linkLimit isFolder followed
    · cases failed.symm.trans made

/-! ## Writing the file to start from -/

/-- The folders are made first; then the file is written, or nothing more happens. -/
theorem writeTemplate_cases (storage : Storage) (path : Path) :
    ((writeTemplate storage path).1 = (storage.makeParent path).1 ∧
        (writeTemplate storage path).2 ≠ .ok ()) ∨
      Exists fun made => storage.makeParent path = (made, .ok ()) ∧
        (writeTemplate storage path).2 = .ok () ∧
        made.write path (Bytes.ofText Settings.template) = .ok (writeTemplate storage path).1 := by
  rw [writeTemplate]
  cases made : storage.makeParent path with
  | mk around result =>
      cases result with
      | error fault => exact Or.inl ⟨rfl, nofun⟩
      | ok done =>
          cases written : around.write path (Bytes.ofText Settings.template) with
          | error fault => exact Or.inl (by simp [written])
          | ok after => exact Or.inr ⟨around, rfl, by simp [written]⟩

/-- What is written creates the file over its path, beside folders that the path is in. -/
theorem creates_of_writeTemplate (target : configTarget environment isGlobal = .ok path)
    (written : (writeTemplate storage path).2 = .ok ()) :
    Exists fun place => Creates (Relation.TransGen Path.IsIn path) path
      (Bytes.ofText Settings.template) place storage (writeTemplate storage path).1 := by
  rcases writeTemplate_cases storage path with ⟨-, failed⟩ | ⟨made, isMade, -, result⟩
  · exact absurd written failed
  · have adds := Storage.addsFolders_makeParent storage path
    rw [isMade] at adds
    rcases exists_enter_of_target target with ⟨name, named⟩
    exact Storage.creates_of_write adds named
      (fun place name resolved => hasFolder_of_target target isMade resolved) result

/-- Over a path that leads nowhere when the folders are made, at most a new file is added. -/
theorem addsFile_writeTemplate
    (absent : (storage.makeParent path).1.isThere path = false) :
    (writeTemplate storage path).1 = (storage.makeParent path).1 ∨
      Exists fun place => AddsFile place (Bytes.ofText Settings.template)
        (storage.makeParent path).1 (writeTemplate storage path).1 := by
  rcases writeTemplate_cases storage path with ⟨same, -⟩ | ⟨made, isMade, -, result⟩
  · exact Or.inl same
  · rw [isMade] at absent ⊢
    rcases Storage.write_cases result with ⟨place, name, resolved, isPut⟩ | ⟨place, old, leads, -⟩
    · rw [isPut]
      exact Or.inr ⟨_, Storage.addsFile_put (Storage.follow_vacant Storage.linkLimit
        (Storage.follow_of_resolveSteps resolved).2.2.2) _⟩
    · rw [Storage.isThere, leads] at absent
      cases absent

/-! ## The settings before and after -/

/-- No configuration file comes in sight by the folders alone that are made for a path. -/
def RevealsNothing (around : Surroundings) (path : Path) : Prop :=
  forall isGlobal other, configTarget around.environment isGlobal = .ok other ->
    around.storage.isThere other = false ->
      (around.storage.makeParent path).1.isThere other = false

theorem revealsNothing_localConfig (around : Surroundings) : RevealsNothing around localConfig := by
  intro isGlobal other _ absent
  rcases makeParent_localConfig around.storage with ⟨same, -⟩ | ⟨fault, same⟩ <;> rw [same] <;>
    exact absent

section Load

variable {around : Surroundings} (target : configTarget around.environment isGlobal = .ok path)
  (absent : around.storage.isThere path = false) (reveals : RevealsNothing around path)
include target absent reveals

/-- Each configuration file has the overlay that it had before. -/
theorem readOptional_writeTemplate {isOther : Bool} {other : Path}
    (named : configTarget around.environment isOther = .ok other) :
    Settings.readOptional (writeTemplate around.storage path).1 (some other) =
      Settings.readOptional around.storage (some other) := by
  have folders := (Storage.addsFolders_makeParent around.storage path).toGrows
  have absentToo := reveals isGlobal path target absent
  cases isThere : around.storage.isThere other with
  | true =>
      rcases addsFile_writeTemplate absentToo with same | ⟨place, adds⟩
      · rw [same]
        exact Settings.readOptional_of_grows folders isThere
      · exact Settings.readOptional_of_grows (folders.trans adds.toGrows) isThere
  | false =>
      rw [Settings.readOptional_of_absent isThere]
      have notThere := reveals isOther other named isThere
      rcases addsFile_writeTemplate absentToo with same | ⟨place, adds⟩
      · rw [same]
        exact Settings.readOptional_of_absent notThere
      · cases leads : Storage.entry? (writeTemplate around.storage path).1 other with
        | error fault =>
            exact Settings.readOptional_of_absent (by rw [Storage.isThere, leads])
        | ok found =>
            rcases found with ⟨location, entry⟩
            rcases Storage.entry?_of_addsFile adds leads with ⟨old, leadsBefore⟩ | ⟨-, rfl⟩
            · rw [Storage.isThere, leadsBefore] at notThere
              cases notThere
            · exact Settings.readOptional_of_template leads

theorem load_writeTemplate :
    Settings.load around.environment (writeTemplate around.storage path).1 (some (.ofText ".")) =
      Settings.load around.environment around.storage (some (.ofText ".")) := by
  refine Settings.load_congr ?_ ?_
  · cases found : Settings.globalPath? around.environment with
    | none => rfl
    | some global =>
        have named : configTarget around.environment true = .ok global := by
          rw [configTarget, if_pos rfl, found]
        exact readOptional_writeTemplate target absent reveals named
  · have named : configTarget around.environment false = .ok localConfig := rfl
    exact readOptional_writeTemplate target absent reveals named

end Load

theorem configInit_of_target {around : Surroundings} {isForced : Bool} (terminal : Terminal)
    (target : configTarget around.environment isGlobal = .ok path)
    (written : (around.storage.isThere path && !isForced) = false) :
    (configInit around isGlobal isForced terminal).storage = (writeTemplate around.storage path).1 ∧
      ((configInit around isGlobal isForced terminal).result = .ok () ↔
        (writeTemplate around.storage path).2 = .ok ()) := by
  simp only [configInit, target, written, Bool.false_eq_true, if_false]
  rcases writeTemplate around.storage path with ⟨after, fault | done⟩
  · exact ⟨rfl, nofun, nofun⟩
  · exact ⟨rfl, fun _ => rfl, fun _ => rfl⟩

/-- The current folder holds some entries, and a variable names a folder that may be there. -/
def workplace (folder : String) (inside beside : List (Name × Entry)) : Surroundings :=
  ⟨⟨[("HOME", "/h"), ("XDG_CONFIG_HOME", folder)], none⟩,
    ⟨.folder ((Bytes.ofText "w", .folder inside) :: beside), [Bytes.ofText "w"]⟩⟩

/-- A folder of configuration files under a name. -/
def configFolder (name : String) (files : List (Name × Entry)) : Name × Entry :=
  (Bytes.ofText name, .folder [(Bytes.ofText "guideplan", .folder files)])

/-- The global file of a folder under a name. -/
def configFile (content : Bytes) : Name × Entry := (Bytes.ofText "guideplan.toml", .file content)

theorem makeParent_beside :
    (workplace "/c" [] []).storage.makeParent (.ofText "/c/guideplan/guideplan.toml") =
      ((workplace "/c" [] [configFolder "c" []]).storage, .ok ()) := by
  rfl

theorem write_beside (content : Bytes) :
    (workplace "/c" [] [configFolder "c" []]).storage.write
        (.ofText "/c/guideplan/guideplan.toml") content =
      .ok (workplace "/c" [] [configFolder "c" [configFile content]]).storage := by
  rfl

theorem makeParent_inside :
    (workplace "/w/.guideplan.toml" [] []).storage.makeParent
        (.ofText "/w/.guideplan.toml/guideplan/guideplan.toml") =
      ((workplace "/w/.guideplan.toml" [configFolder ".guideplan.toml" []] []).storage, .ok ()) := by
  rfl

theorem write_inside (content : Bytes) :
    (workplace "/w/.guideplan.toml" [configFolder ".guideplan.toml" []] []).storage.write
        (.ofText "/w/.guideplan.toml/guideplan/guideplan.toml") content =
      .ok (workplace "/w/.guideplan.toml"
        [configFolder ".guideplan.toml" [configFile content]] []).storage := by
  rfl

theorem writeTemplate_eq {made after : Storage} {path : Path}
    (isMade : storage.makeParent path = (made, .ok ()))
    (written : made.write path (Bytes.ofText Settings.template) = .ok after) :
    writeTemplate storage path = (after, .ok ()) := by
  simp only [writeTemplate, isMade, written]

theorem load_inside :
    Settings.load (workplace "/w/.guideplan.toml" [] []).environment
        (workplace "/w/.guideplan.toml" [configFolder ".guideplan.toml"
          [configFile (Bytes.ofText Settings.template)]] []).storage (some (.ofText ".")) =
      .error (.unreadable localConfig .isFolder) := by
  have path : Settings.globalPath? (workplace "/w/.guideplan.toml" [] []).environment =
      some (.ofText "/w/.guideplan.toml/guideplan/guideplan.toml") := by rfl
  have leads (content : Bytes) : Storage.entry? (workplace "/w/.guideplan.toml"
      [configFolder ".guideplan.toml" [configFile content]] []).storage
        (.ofText "/w/.guideplan.toml/guideplan/guideplan.toml") =
      .ok ([Bytes.ofText "w", Bytes.ofText ".guideplan.toml", Bytes.ofText "guideplan",
        Bytes.ofText "guideplan.toml"], .file content) := by rfl
  have near (content : Bytes) : Settings.readOptional (workplace "/w/.guideplan.toml"
      [configFolder ".guideplan.toml" [configFile content]] []).storage
        ((some (.ofText ".")).map Settings.localPath) =
      .error (.unreadable localConfig .isFolder) := by rfl
  rw [Settings.load, path, Settings.readOptional_of_template (leads _), near]
  rfl

end Command
end CommandLine
end Guidebook
