import Guidebook.Proofs.Settings.Environment

namespace Guidebook
namespace Environment

/-!
# Variables as a layer

The variables of the settings make an overlay.  Where each setting has one variable
at most, and each variable says something of the kind that its setting wants, the
overlay is what the variables say, and there is nothing else in it.  No order of the
variables is assumed, and nothing about other variables.
-/

variable {environment : Environment} {setting : String}

/-! ## The variable of a setting -/

theorem text?_of_single {name text : String} (given : (name, text) ∈ environment.bindings)
    (named : setting? name = some setting)
    (single : forall other, other ∈ environment.bindings -> setting? other.1 = some setting ->
      other = (name, text)) : environment.text? setting = some text := by
  unfold text?
  cases found : environment.bindings.reverse.find? fun entry => setting? entry.1 = some setting with
  | none =>
      have unnamed := List.find?_eq_none.mp found (name, text) (List.mem_reverse.mpr given)
      exact absurd (decide_eq_true named) unnamed
  | some entry =>
      have member := List.mem_reverse.mp (List.mem_of_find?_eq_some found)
      have named := List.find?_some found
      rw [single entry member (of_decide_eq_true named)]
      rfl

theorem text?_eq_none_iff :
    environment.text? setting = none ↔
      forall entry, entry ∈ environment.bindings -> setting? entry.1 ≠ some setting := by
  rw [text?, Option.map_eq_none_iff, List.find?_eq_none]
  simp

theorem reading?_of_text? {text : String} (given : environment.text? setting = some text) :
    environment.reading? setting = some (Reading.of (setting = "extensions") text) := by
  rw [reading?, given]
  rfl

theorem reading?_of_absent
    (absent : forall entry, entry ∈ environment.bindings -> setting? entry.1 ≠ some setting) :
    environment.reading? setting = none := by
  rw [reading?, text?_eq_none_iff.mpr absent]
  rfl

/-- What the environment says on a setting: nothing where no variable has its name, and
otherwise what the text of the variable writes. -/
inductive Sets {Value : Type} (environment : Environment) (setting : String)
    (writes : String -> Value -> Prop) : Option Value -> Prop where
  | unset (absent : forall entry, entry ∈ environment.bindings -> setting? entry.1 ≠ some setting) :
      Sets environment setting writes none
  | given {name text : String} {value : Value} (member : (name, text) ∈ environment.bindings)
      (named : setting? name = some setting) (written : writes text value) :
      Sets environment setting writes (some value)

/-- No setting has variables of two names. -/
def IsUnambiguous (environment : Environment) : Prop :=
  forall first second, first ∈ environment.bindings -> second ∈ environment.bindings ->
    forall setting, setting? first.1 = some setting -> setting? second.1 = some setting ->
      first = second

/-- Where the text of a variable is read as what it writes, the reading is what the
environment says. -/
theorem bind_reading?_of_sets {Value Result : Type} {writes : String -> Value -> Prop}
    {value : Option Value} (read : Reading -> Option Result) (result : Value -> Result)
    (unambiguous : environment.IsUnambiguous) (sets : Sets environment setting writes value)
    (reads : forall text value, writes text value ->
      read (Reading.of (setting = "extensions") text) = some (result value)) :
    (environment.reading? setting).bind read = value.map result := by
  cases sets with
  | unset absent =>
      rw [reading?_of_absent absent]
      rfl
  | given member named written =>
      have single := text?_of_single member named fun other listed also =>
        unambiguous other _ listed member setting also named
      rw [reading?_of_text? single]
      exact reads _ _ written

/-! ## What the settings want of a text -/

/-- A text writes a size: an integer that is not negative and fits a word. -/
def WritesSize (text : String) (size : Nat) : Prop :=
  WritesInteger text.toList size ∧ (size : Int) ≤ Numeral.wordGreatest

/-- A plain text is the folder that it is. -/
def WritesFolder (text folder : String) : Prop := IsPlain text ∧ folder = text

/-- A plain text lists its parts between commas. -/
def WritesParts (text : String) (parts : List String) : Prop :=
  IsPlain text ∧ HasParts text parts

theorem WritesSize.writesWord {text : String} {size : Nat} (writes : WritesSize text size) :
    WritesWord text size := by
  refine ⟨writes.1, ?_, writes.2⟩
  unfold Numeral.wordLeast
  omega

namespace Reading

theorem asInteger?_of_word {text : String} {number : Int} (writes : WritesWord text number)
    (isList : Bool) : (Reading.of isList text).asInteger? = some number := by
  rw [of_word writes]
  rfl

theorem asBoolean?_of_boolean {text : String} {value : Bool} (writes : WritesBoolean text value)
    (isList : Bool) : (Reading.of isList text).asBoolean? = some value := by
  rw [of_boolean writes]
  rfl

theorem asText?_of_plain {text : String} (plain : IsPlain text) :
    (Reading.of false text).asText? = some text := by
  rw [of_plain plain]
  rfl

theorem asList?_of_parts {text : String} {parts : List String} (writes : WritesParts text parts) :
    (Reading.of true text).asList? = some parts := by
  rw [of_plain writes.1, if_pos rfl, splitCommas_eq writes.2]
  rfl

end Reading

/-! ## The overlay -/

/-- The environment says exactly what an overlay holds, with a variable at most for each
setting and none for anything else. -/
structure Specifies (environment : Environment) (overlay : Overlay) : Prop where
  known : forall entry, entry ∈ environment.bindings -> forall setting,
    setting? entry.1 = some setting ->
      setting ∈ ["format", "color", "max_depth", "scan_depth", "extensions", "guidebook_dir"]
  unambiguous : environment.IsUnambiguous
  format : Sets environment "format" NamesFormat overlay.format
  color : Sets environment "color" WritesBoolean overlay.color
  maxDepth : Sets environment "max_depth" WritesSize overlay.maxDepth
  scanDepth : Sets environment "scan_depth" WritesSize overlay.scanDepth
  extensions : Sets environment "extensions" WritesParts overlay.extensions
  guidebookDir : Sets environment "guidebook_dir" WritesFolder overlay.guidebookDir

theorem format_of_sets {format : Option OutputFormat} (unambiguous : environment.IsUnambiguous)
    (sets : Sets environment "format" NamesFormat format) : environment.format = .ok format := by
  unfold Environment.format
  cases sets with
  | unset absent =>
      rw [reading?_of_absent absent]
      rfl
  | given member named names =>
      have single := text?_of_single member named fun other listed also =>
        unambiguous other _ listed member "format" also named
      have noList : decide ("format" = "extensions") = false := by decide
      rw [reading?_of_text? single, noList, Option.bind_some, Reading.asText?_of_plain names.isPlain]
      simp only [ofLoose?_eq_some_iff.mpr names]

theorem depth_of_sets {depth : Option Nat} {setting : String} (name : String)
    (unambiguous : environment.IsUnambiguous)
    (sets : Sets environment setting WritesSize depth) :
    environment.depth setting name = .ok depth := by
  have read := bind_reading?_of_sets Reading.asInteger? Int.ofNat unambiguous
    sets fun text size writes => Reading.asInteger?_of_word writes.writesWord _
  unfold Environment.depth
  rw [read]
  cases depth with
  | none => rfl
  | some size => rfl

/-- The variables make an overlay field by field; only a format and the two depths can
have a fault. -/
theorem overlay_eq_ok_iff {overlay : Overlay} :
    environment.overlay = .ok overlay ↔
      environment.format = .ok overlay.format ∧
        (environment.reading? "color").bind Reading.asBoolean? = overlay.color ∧
        environment.depth "max_depth" "GUIDEPLAN_MAX_DEPTH" = .ok overlay.maxDepth ∧
        environment.depth "scan_depth" "GUIDEPLAN_SCAN_DEPTH" = .ok overlay.scanDepth ∧
        (environment.reading? "extensions").bind Reading.asList? = overlay.extensions ∧
        (environment.reading? "guidebook_dir").bind Reading.asText? = overlay.guidebookDir := by
  rcases overlay with ⟨format, color, maxDepth, scanDepth, extensions, guidebookDir⟩
  unfold Environment.overlay
  cases environment.format <;> cases environment.depth "max_depth" "GUIDEPLAN_MAX_DEPTH" <;>
    cases environment.depth "scan_depth" "GUIDEPLAN_SCAN_DEPTH" <;>
    simp [bind, Except.bind, pure, Except.pure]

/-- The variables make the overlay that they specify. -/
theorem overlay_of_specifies {overlay : Overlay} (specifies : environment.Specifies overlay) :
    environment.overlay = .ok overlay := by
  rcases specifies with ⟨-, unambiguous, format, color, maxDepth, scanDepth, extensions, guidebookDir⟩
  have colorRead := bind_reading?_of_sets Reading.asBoolean? id unambiguous
    color fun text value writes => Reading.asBoolean?_of_boolean writes _
  have extensionsRead := bind_reading?_of_sets Reading.asList? id unambiguous
    extensions fun text parts writes => Reading.asList?_of_parts writes
  have folderRead := bind_reading?_of_sets Reading.asText? id unambiguous
    guidebookDir fun text folder writes => by
      rw [writes.2]
      exact Reading.asText?_of_plain writes.1
  rw [Option.map_id_fun, id] at colorRead extensionsRead folderRead
  exact overlay_eq_ok_iff.mpr ⟨format_of_sets unambiguous format, colorRead,
    depth_of_sets _ unambiguous maxDepth, depth_of_sets _ unambiguous scanDepth, extensionsRead,
    folderRead⟩

end Environment
end Guidebook
