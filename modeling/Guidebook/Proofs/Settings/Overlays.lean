import Guidebook.Proofs.Settings.Extensions

namespace Guidebook

/-!
# Overlays in a row

Overlays that are laid over settings one after the other are one overlay.  A field
with a single value is that of the later overlay, where it has one.  The extensions are
patterns and are put behind each other; an overlay without extensions leaves the list as
it is, also where it is not in order, while one with an empty list puts it in order.
Nothing is asked of the settings.
-/

namespace Overlay

/-- The patterns of two overlays, the earlier ones first. -/
def patternsThen (first second : Option (List String)) : Option (List String) :=
  match first, second with
  | some earlier, some later => some (earlier ++ later)
  | some earlier, none => some earlier
  | none, later => later

/-- One overlay and then another one. -/
def followedBy (first second : Overlay) : Overlay where
  format := second.format.or first.format
  color := second.color.or first.color
  maxDepth := second.maxDepth.or first.maxDepth
  scanDepth := second.scanDepth.or first.scanDepth
  extensions := patternsThen first.extensions second.extensions
  guidebookDir := second.guidebookDir.or first.guidebookDir

/-- No field is specified by both overlays. -/
structure Apart (first second : Overlay) : Prop where
  format : first.format = none ∨ second.format = none
  color : first.color = none ∨ second.color = none
  maxDepth : first.maxDepth = none ∨ second.maxDepth = none
  scanDepth : first.scanDepth = none ∨ second.scanDepth = none
  extensions : first.extensions = none ∨ second.extensions = none
  guidebookDir : first.guidebookDir = none ∨ second.guidebookDir = none

theorem or_comm_of_apart {Value : Type} {first second : Option Value}
    (apart : first = none ∨ second = none) : first.or second = second.or first := by
  rcases apart with rfl | rfl
  · exact Option.none_or.trans Option.or_none.symm
  · exact Option.or_none.trans Option.none_or.symm

theorem patternsThen_comm_of_apart {first second : Option (List String)}
    (apart : first = none ∨ second = none) :
    patternsThen first second = patternsThen second first := by
  rcases apart with rfl | rfl
  · cases second <;> rfl
  · cases first <;> rfl

/-- Of overlays that specify different fields either may come first. -/
theorem Apart.followedBy_comm {first second : Overlay} (apart : first.Apart second) :
    first.followedBy second = second.followedBy first := by
  simp only [followedBy, or_comm_of_apart apart.format, or_comm_of_apart apart.color,
    or_comm_of_apart apart.maxDepth, or_comm_of_apart apart.scanDepth,
    patternsThen_comm_of_apart apart.extensions, or_comm_of_apart apart.guidebookDir]

end Overlay

namespace Settings

/-- What the extensions of an overlay make of a list. -/
def mergeExtensions (base : List String) (patterns : Option (List String)) : List String :=
  match patterns with
  | some patterns => mergeList base patterns
  | none => base

theorem mergeExtensions_patternsThen (base : List String)
    (first second : Option (List String)) :
    mergeExtensions (mergeExtensions base first) second =
      mergeExtensions base (Overlay.patternsThen first second) := by
  cases first with
  | none => rfl
  | some earlier =>
      cases second with
      | none => rfl
      | some later => exact mergeList_append base earlier later

theorem mergeExtensions_again (base : List String) (patterns : Option (List String)) :
    mergeExtensions (mergeExtensions base patterns) patterns = mergeExtensions base patterns := by
  cases patterns with
  | none => rfl
  | some patterns => exact mergeList_again base patterns

theorem merge_eq (settings : Settings) (overlay : Overlay) :
    settings.merge overlay =
      { format := overlay.format.getD settings.format
        color := overlay.color.getD settings.color
        maxDepth := overlay.maxDepth.getD settings.maxDepth
        scanDepth := overlay.scanDepth.or settings.scanDepth
        extensions := mergeExtensions settings.extensions overlay.extensions
        guidebookDir := overlay.guidebookDir.or settings.guidebookDir } := by
  unfold merge overlaid mergeExtensions
  cases overlay.extensions <;> rfl

theorem merge_merge (settings : Settings) (first second : Overlay) :
    (settings.merge first).merge second = settings.merge (first.followedBy second) := by
  simp only [merge_eq, Overlay.followedBy, Option.getD_or, Option.or_assoc,
    mergeExtensions_patternsThen]

theorem merge_again (settings : Settings) (overlay : Overlay) :
    (settings.merge overlay).merge overlay = settings.merge overlay := by
  have getD_again {Value : Type} (own : Option Value) (value : Value) :
      own.getD (own.getD value) = own.getD value := by cases own <;> rfl
  simp only [merge_eq, getD_again, ← Option.or_assoc, Option.or_self, mergeExtensions_again]

/-- Overlays laid over settings one after the other are laid over them as one; the same
overlay once more changes nothing, and overlays that specify different fields can be laid
over settings in either order. -/
theorem merge_composes (settings : Settings) (first second : Overlay) :
    (settings.merge first).merge second = settings.merge (first.followedBy second) ∧
      (settings.merge first).merge first = settings.merge first ∧
      (first.Apart second ->
        (settings.merge first).merge second = (settings.merge second).merge first) := by
  refine ⟨merge_merge settings first second, merge_again settings first, fun apart => ?_⟩
  rw [merge_merge, merge_merge, apart.followedBy_comm]

/-- Settings with a list that is not in order and has a repetition. -/
def unordered : Settings := { default with extensions := ["toml", "json", "toml"] }

/-- Only the greatest depth. -/
def depthThree : Overlay := { Overlay.empty with maxDepth := some 3 }

/-- A list of no patterns, which is more than no list. -/
def noPatterns : Overlay := { Overlay.empty with extensions := some [] }

/-- The list is put in order before the depth is set or after that. -/
theorem merge_composes_unordered :
    depthThree.Apart noPatterns ∧
      (unordered.merge depthThree).merge noPatterns = (unordered.merge noPatterns).merge depthThree := by
  have apart : depthThree.Apart noPatterns :=
    ⟨.inl rfl, .inl rfl, .inr rfl, .inl rfl, .inl rfl, .inl rfl⟩
  exact ⟨apart, (merge_composes unordered depthThree noPatterns).2.2 apart⟩

end Settings
end Guidebook
