import Guidebook.Proofs.Settings.Layers
import Guidebook.Proofs.Toml.Table

namespace Guidebook

/-!
# Sizes of loaded settings

A size in loaded settings fits a signed word of sixty-four bits.  What a file says was
read as a word, what a variable says was read as a word or rounded to one, and laying
over only chooses among these.  Nothing is asked of the files and variables but that
they load.
-/

/-! ## Sizes -/

/-- A size that fits a word, where there is one. -/
def Fits (size : Option Nat) : Prop :=
  forall levels : Nat, size = some levels -> (levels : Int) ≤ Numeral.wordGreatest

/-- The sizes of settings fit a word. -/
structure Settings.FitsWords (settings : Settings) : Prop where
  maxDepth : (settings.maxDepth : Int) ≤ Numeral.wordGreatest
  scanDepth : Fits settings.scanDepth

/-- The sizes of an overlay fit a word. -/
structure Overlay.FitsWords (overlay : Overlay) : Prop where
  maxDepth : Fits overlay.maxDepth
  scanDepth : Fits overlay.scanDepth

theorem fits_none : Fits none := fun _ impossible => nomatch impossible

theorem fits_some {size : Nat} (small : (size : Int) ≤ Numeral.wordGreatest) : Fits (some size) := by
  rintro _ ⟨rfl⟩
  exact small

/-! ## Sizes that are read -/

theorem fits_of_asSize {value : Toml.Value} (word : value.FitsWord) {size : Nat}
    (read : value.asSize = .ok size) : (size : Int) ≤ Numeral.wordGreatest := by
  cases value with
  | integer number =>
      rw [Toml.Value.asSize] at read
      split at read
      · next natural =>
          cases read
          rw [Int.toNat_of_nonneg natural]
          exact word.2
      · cases read
  | _ => cases read

namespace Overlay

theorem FitsWords.setEntry {overlay result : Overlay} (fits : overlay.FitsWords) {key : String}
    {value : Toml.Value} (word : value.FitsWord) (set : overlay.setEntry key value = .ok result) :
    result.FitsWords := by
  have sized {size : Nat} (read : value.asSize.mapError Toml.Failure.unfit = .ok size) :
      Fits (some size) := by
    cases found : value.asSize with
    | error mismatch =>
        rw [found] at read
        cases read
    | ok other =>
        rw [found] at read
        cases read
        exact fits_some (fits_of_asSize word found)
  unfold Overlay.setEntry at set
  split at set
  · rcases Toml.exists_of_bind_eq_ok set with ⟨format, -, same⟩
    cases same
    exact ⟨fits.maxDepth, fits.scanDepth⟩
  · rcases Toml.exists_of_bind_eq_ok set with ⟨color, -, same⟩
    cases same
    exact ⟨fits.maxDepth, fits.scanDepth⟩
  · rcases Toml.exists_of_bind_eq_ok set with ⟨levels, read, same⟩
    cases same
    exact ⟨sized read, fits.scanDepth⟩
  · rcases Toml.exists_of_bind_eq_ok set with ⟨levels, read, same⟩
    cases same
    exact ⟨fits.maxDepth, sized read⟩
  · rcases Toml.exists_of_bind_eq_ok set with ⟨extensions, -, same⟩
    cases same
    exact ⟨fits.maxDepth, fits.scanDepth⟩
  · rcases Toml.exists_of_bind_eq_ok set with ⟨dir, -, same⟩
    cases same
    exact ⟨fits.maxDepth, fits.scanDepth⟩
  · cases set
    exact fits

theorem fitsWords_empty : empty.FitsWords := ⟨fits_none, fits_none⟩

theorem FitsWords.ofEntries {overlay result : Overlay} (fits : overlay.FitsWords)
    {entries : List (String × Toml.Value)}
    (words : forall entry, entry ∈ entries -> entry.2.FitsWord)
    (read : overlay.ofEntries entries = .ok result) : result.FitsWords := by
  induction entries generalizing overlay with
  | nil =>
      cases read
      exact fits
  | cons entry entries inductionHypothesis =>
      rw [List.forall_mem_cons] at words
      rcases Toml.exists_of_bind_eq_ok read with ⟨next, set, further⟩
      exact inductionHypothesis (fits.setEntry words.1 set) words.2 further

theorem fitsWords_of_ofToml {text : String} {overlay : Overlay} (read : ofToml text = .ok overlay) :
    overlay.FitsWords := by
  unfold ofToml at read
  split at read
  · cases read
  · next entries document =>
      exact fitsWords_empty.ofEntries (Toml.fitsWord_of_document document) read

end Overlay

namespace Settings

theorem fitsWords_of_readOptional {storage : Storage} {path : Option Path} {overlay : Overlay}
    (read : readOptional storage path = .ok overlay) : overlay.FitsWords := by
  unfold readOptional at read
  split at read
  · cases read
    exact Overlay.fitsWords_empty
  · split at read
    · unfold readOverlay at read
      split at read
      · cases read
      · next text file =>
          cases parsed : Overlay.ofToml text with
          | error failure =>
              rw [parsed] at read
              cases read
          | ok found =>
              rw [parsed] at read
              cases read
              exact Overlay.fitsWords_of_ofToml parsed
    · cases read
      exact Overlay.fitsWords_empty

end Settings

namespace Environment

/-- An integer in a text is read as a signed word. -/
theorem Reading.le_of_of_eq {isList : Bool} {text : String} {number : Int}
    (read : Reading.of isList text = .integer number) : number ≤ Numeral.wordGreatest := by
  rcases Reading.of_cases isList text with
    ⟨_, -, same⟩ | ⟨other, writes, same⟩ | ⟨_, -, same⟩ | ⟨-, same⟩
  · cases same.symm.trans read
  · cases same.symm.trans read
    exact writes.2.2
  · cases same.symm.trans read
  · rw [same] at read
    split at read <;> cases read

/-- What is taken for an integer is a signed word as well: a number with a point is
rounded to one, and a truth value is no more than one. -/
theorem Reading.le_of_asInteger? {reading : Reading}
    (word : forall value, reading = .integer value -> value ≤ Numeral.wordGreatest) {number : Int}
    (read : reading.asInteger? = some number) : number ≤ Numeral.wordGreatest := by
  cases reading with
  | boolean value =>
      cases read
      cases value <;> decide
  | integer value =>
      cases read
      exact word number rfl
  | float value =>
      cases read
      exact Int64.toInt_le _
  | list parts => cases read
  | text value =>
      unfold Reading.asInteger? at read
      dsimp only at read
      split at read
      · cases read
        decide
      · split at read
        · cases read
          decide
        · cases read

theorem fits_of_depth {environment : Environment} {setting name : String} {size : Option Nat}
    (read : environment.depth setting name = .ok size) : Fits size := by
  unfold Environment.depth at read
  split at read
  · cases read
    exact fits_none
  · next number found =>
      split at read
      · cases read
      · next notNegative =>
          cases read
          rcases Option.bind_eq_some_iff.mp found with ⟨reading, given, integer⟩
          rcases Option.map_eq_some_iff.mp given with ⟨text, -, rfl⟩
          have small := Reading.le_of_asInteger? (fun _ => Reading.le_of_of_eq) integer
          rw [← Int.toNat_of_nonneg (Int.not_lt.mp notNegative)] at small
          exact fits_some small

theorem fitsWords_of_overlay {environment : Environment} {overlay : Overlay}
    (read : environment.overlay = .ok overlay) : overlay.FitsWords := by
  rcases overlay_eq_ok_iff.mp read with ⟨-, -, maxDepth, scanDepth, -, -⟩
  exact ⟨fits_of_depth maxDepth, fits_of_depth scanDepth⟩

end Environment

namespace Settings

theorem fits_topmost {field : Overlay -> Option Nat} {layers : List Overlay}
    (fits : forall layer, layer ∈ layers -> Fits (field layer)) : Fits (topmost field layers) := by
  intro levels found
  rcases List.exists_of_findSome?_eq_some found with ⟨layer, member, specified⟩
  exact fits layer member levels specified

/-- The sizes of loaded settings fit a word, whatever files and variables say. -/
theorem fitsWords_of_load {environment : Environment} {storage : Storage} {folder : Option Path}
    {settings : Settings} (loaded : load environment storage folder = .ok settings) :
    settings.FitsWords := by
  rcases load_eq_ok_iff.mp loaded with ⟨own, near, global, ownRead, nearRead, globalRead, rfl⟩
  have layers : forall layer, layer ∈ [own, near, global] -> layer.FitsWords := by
    simp only [List.forall_mem_cons]
    exact ⟨Environment.fitsWords_of_overlay ownRead, fitsWords_of_readOptional nearRead,
      fitsWords_of_readOptional globalRead, List.forall_mem_nil _⟩
  constructor
  · have highest := fits_topmost fun layer member => (layers layer member).maxDepth
    show ((Option.getD _ default.maxDepth : Nat) : Int) ≤ Numeral.wordGreatest
    cases specified : topmost Overlay.maxDepth [own, near, global] with
    | none => decide
    | some levels => exact highest levels specified
  · exact fits_topmost fun layer member => (layers layer member).scanDepth

end Settings
end Guidebook
