import Guidebook.Section.Title

namespace Guidebook

/-!
# What an option title reads as

The grammar of option titles leaves the index and the label to two readers of
their own, and each of them refuses more than the grammar does: an index of zero,
and a label of blanks.
-/

/-- What is left of a text without its trailing blanks ends in a character that is
not blank. -/
theorem Blank.exists_not_blank_of_trimEnd {text : List Char} (kept : trimEnd text ≠ []) :
    Exists fun character => character ∈ trimEnd text ∧ isBlank character = false := by
  rw [trimEnd] at kept ⊢
  cases reversed : trimStart text.reverse with
  | nil => exact False.elim (kept (by rw [reversed]; rfl))
  | cons last earlier =>
      have leads : (trimStart text.reverse).head? = some last := by rw [reversed]; rfl
      exact ⟨last, List.mem_reverse.mpr List.mem_cons_self,
        isBlank_of_head_trimStart text.reverse last leads⟩

namespace OptionTitle

theorem pos_of_index? {digits : List Char} {index : UInt32}
    (read : index? digits = some index) : 0 < index := by
  rw [index?] at read
  split at read
  · next number _ =>
      split at read
      · next small =>
          split at read
          · cases read
          · next positive =>
              cases read
              rw [UInt32.lt_iff_toNat_lt, UInt32.toNat_ofNatLT]
              exact Nat.pos_of_ne_zero positive
      · cases read
  · cases read

theorem exists_not_blank_of_label? {text : List Char} {label : String}
    (read : label? text = some label) :
    Exists fun character => character ∈ label.toList ∧ Blank.isBlank character = false := by
  simp only [label?] at read
  split at read
  · cases read
  · split at read
    · cases read
    · next trimmed =>
        cases read
        rw [String.toList_ofList]
        exact Blank.exists_not_blank_of_trimEnd trimmed

/-- What is read as an option title has an index and a label that were read. -/
theorem exists_read_of_parse? {name : String} {title : OptionTitle}
    (read : parse? name = some title) :
    (Exists fun digits => index? digits = some title.index) ∧
      Exists fun text => label? text = some title.label := by
  simp only [parse?, read?, Option.bind_eq_bind, Option.bind_eq_some_iff] at read
  rcases read with ⟨gap, _, numbered, _, index, indexRead, rest⟩
  split at rest
  · next body _ =>
      rcases Option.bind_eq_some_iff.mp rest with ⟨label, labelRead, made⟩
      cases made
      exact ⟨⟨_, indexRead⟩, ⟨_, labelRead⟩⟩
  · cases rest

/-- The index of an option title is positive and its label is not blank. -/
theorem pos_and_not_blank_of_parse? {name : String} {title : OptionTitle}
    (read : parse? name = some title) :
    0 < title.index ∧
      Exists fun character => character ∈ title.label.toList ∧ Blank.isBlank character = false := by
  rcases exists_read_of_parse? read with ⟨⟨digits, indexRead⟩, ⟨text, labelRead⟩⟩
  exact ⟨pos_of_index? indexRead, exists_not_blank_of_label? labelRead⟩

end OptionTitle
end Guidebook
