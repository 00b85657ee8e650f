import Guidebook.Proofs.Settings.Overrides

namespace Guidebook

/-!
# Names of variables

The name of a variable has two underscores before the name of its setting.  Under such
a name the text of a variable goes before all files.  With a single underscore, which is
how faults spell these names, a variable is not read at all.
-/

namespace Environment

variable {environment : Environment} {name text : String}

/-- A variable is the only one whose name starts like those of settings, in letters of
any case. -/
def HasOnly (environment : Environment) (name text : String) : Prop :=
  (name, text) ∈ environment.bindings ∧
    forall entry, entry ∈ environment.bindings ->
      "guideplan".toList <+: entry.1.toList.map lower -> entry = (name, text)

/-- The names that faults and instructions spell. -/
def singleNames : List String := ["GUIDEPLAN_MAX_DEPTH", "GUIDEPLAN_SCAN_DEPTH", "GUIDEPLAN_FORMAT"]

theorem isPrefix_of_setting? {setting : String} (named : setting? name = some setting) :
    "guideplan".toList <+: name.toList.map lower := by
  unfold setting? at named
  rcases Option.map_eq_some_iff.mp named with ⟨rest, starts, -⟩
  rw [← List.isPrefixOf?_eq_some_iff_append_eq.mp starts]
  exact ⟨"__".toList ++ rest, rfl⟩

theorem setting?_singleName (single : name ∈ singleNames) : setting? name = none := by
  have unnamed : forall name, name ∈ singleNames -> setting? name = none := by decide
  exact unnamed name single

theorem HasOnly.text?_eq {setting : String} (only : environment.HasOnly name text)
    (named : setting? name = some setting) : environment.text? setting = some text :=
  text?_of_single only.1 named fun other listed also =>
    only.2 other listed (isPrefix_of_setting? also)

/-- A variable that names no setting leaves its layer empty, when it is the only one. -/
theorem HasOnly.overlay_eq (only : environment.HasOnly name text) (unnamed : setting? name = none) :
    environment.overlay = .ok .empty := by
  have absent (setting : String) :
      forall entry, entry ∈ environment.bindings -> setting? entry.1 ≠ some setting := by
    intro entry listed named
    rw [only.2 entry listed (isPrefix_of_setting? named), unnamed] at named
    cases named
  exact overlay_of_specifies {
    known := fun entry listed setting named => absurd named (absent setting entry listed)
    unambiguous := fun first _ listed _ setting named _ => absurd named (absent setting first listed)
    format := .unset (absent _)
    color := .unset (absent _)
    maxDepth := .unset (absent _)
    scanDepth := .unset (absent _)
    extensions := .unset (absent _)
    guidebookDir := .unset (absent _) }

end Environment

namespace Settings

open Environment

variable {environment : Environment} {storage : Storage} {folder : Option Path}
variable {near global : Overlay} {settings : Settings}

/-- When a single variable has a name like those of settings, two underscores make it
set a depth or a format over all files, and with one underscore the settings are those of
the files. -/
theorem load_of_only_variable (nearRead : readOptional storage (folder.map localPath) = .ok near)
    (globalRead : readOptional storage (globalPath? environment) = .ok global)
    (loaded : load environment storage folder = .ok settings) :
    (forall text size, environment.HasOnly "GUIDEPLAN__MAX_DEPTH" text -> WritesSize text size ->
      settings.maxDepth = size) ∧
    (forall text size, environment.HasOnly "GUIDEPLAN__SCAN_DEPTH" text -> WritesSize text size ->
      settings.scanDepth = some size) ∧
    (forall text format, environment.HasOnly "GUIDEPLAN__FORMAT" text -> NamesFormat text format ->
      settings.format = format) ∧
    (forall name text, name ∈ singleNames -> environment.HasOnly name text ->
      settings = layered environment .empty near global) := by
  refine ⟨fun text size only writes => ?_, fun text size only writes => ?_,
    fun text format only names => ?_, fun name text single only => ?_⟩
  · have given : environment.text? "max_depth" = some text := only.text?_eq (by decide)
    exact Int.ofNat.inj (maxDepth_of_load loaded given (.word writes.writesWord))
  · have given : environment.text? "scan_depth" = some text := only.text?_eq (by decide)
    rcases exists_scanDepth_of_load loaded given (.word writes.writesWord) with
      ⟨levels, set, same⟩
    rw [set, Int.ofNat.inj same]
  · have given : environment.text? "format" = some text := only.text?_eq (by decide)
    have found := ofLoose?_eq_some_iff.mpr (format_of_load loaded given)
    exact Option.some.inj (found.symm.trans (ofLoose?_eq_some_iff.mpr names))
  · rcases exists_own_of_load nearRead globalRead loaded with ⟨own, ownRead, layers⟩
    cases ownRead.symm.trans (only.overlay_eq (setting?_singleName single))
    exact layers

/-- One variable and nothing else. -/
def variableAlone (name text : String) : Environment := ⟨[(name, text)], none⟩

theorem hasOnly_variableAlone (name text : String) : (variableAlone name text).HasOnly name text :=
  ⟨List.mem_cons_self, fun _ listed _ => List.mem_singleton.mp listed⟩

theorem writesSize_seven : WritesSize "7" 7 :=
  ⟨.unsigned (by decide) (List.all_eq_true.mp (by decide)), by decide⟩

theorem load_of_only_variable_seven :
    (Exists fun settings =>
      load (variableAlone "GUIDEPLAN__MAX_DEPTH" "7") (Storage.empty []) none = .ok settings ∧
        settings.maxDepth = 7) ∧
      (Exists fun settings =>
        load (variableAlone "GUIDEPLAN_MAX_DEPTH" "7") (Storage.empty []) none = .ok settings ∧
          settings = default) := by
  have doubled : load (variableAlone "GUIDEPLAN__MAX_DEPTH" "7") (Storage.empty []) none =
      .ok ⟨.tree, true, 7, none, ["json", "toml"], none⟩ := by rfl
  have single : load (variableAlone "GUIDEPLAN_MAX_DEPTH" "7") (Storage.empty []) none =
      .ok default := by rfl
  refine ⟨⟨_, doubled, ?_⟩, _, single, ?_⟩
  · exact (load_of_only_variable (readOptional_none _) (readOptional_none _) doubled).1 "7" 7
      (hasOnly_variableAlone _ _) writesSize_seven
  · exact (load_of_only_variable (readOptional_none _) (readOptional_none _) single).2.2.2 _ "7"
      (by decide) (hasOnly_variableAlone _ _)

/-- A size under a name with one underscore is lost, though nothing else is configured. -/
theorem load_ignores_singleName :
    "GUIDEPLAN_MAX_DEPTH" ∈ singleNames ∧
      (variableAlone "GUIDEPLAN_MAX_DEPTH" "7").HasOnly "GUIDEPLAN_MAX_DEPTH" "7" ∧
      WritesSize "7" 7 ∧
      Exists fun settings =>
        load (variableAlone "GUIDEPLAN_MAX_DEPTH" "7") (Storage.empty []) none = .ok settings ∧
          settings.maxDepth ≠ 7 :=
  ⟨by decide, hasOnly_variableAlone _ _, writesSize_seven, default, by rfl, by decide⟩

end Settings
end Guidebook
