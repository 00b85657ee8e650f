import Mathlib.Data.List.Basic
import Mathlib.Data.List.TakeWhile
import Guidebook.Proofs.Section.Title
import Guidebook.Proofs.Text.Blank

namespace Guidebook

/-!
# The grammar of option titles

An option title is the keyword, a gap of blanks, the digits of an index, a colon and
a label.  The grammar is stated here on a title that is cut into these pieces, and
asks nothing of the way in which the cuts are found.  The reader looks for them
from left to right, takes as much as it can for every piece and never looks back;
so it has to be shown that it misses no other way to cut a title.  There is none: a
digit is no blank, and a colon is no digit.

A line break is a blank.  It may stand in the gap and in front of the label, but
neither within the label nor behind it.
-/

namespace OptionTitle

/-- A title cut into the pieces of an option title.  The digits write the index, with
any number of zeros in front, and the rest is the label with blanks around it. -/
structure IsCut (name gap digits rest : List Char) (title : OptionTitle) : Prop where
  whole : name = keyword ++ gap ++ digits ++ ':' :: rest
  gap_ne_nil : gap ≠ []
  gap_blank : forall character, character ∈ gap -> Blank.isBlank character = true
  digits_ne_nil : digits ≠ []
  digits_decimal : forall character, character ∈ digits -> Numeral.isDigit character = true
  index : Numeral.value digits = title.index.toNat
  bounds : 1 ≤ Numeral.value digits ∧ Numeral.value digits < UInt32.size
  label : Blank.trim rest = title.label.toList
  label_ne_nil : Blank.trim rest ≠ []
  oneLine : '\n' ∉ Blank.trimStart rest

/-! ## The pieces -/

theorem afterGap?_eq_some_iff {text numbered : List Char} :
    afterGap? text = some numbered ↔
      EndsRun Blank.isBlank numbered ∧
        Exists fun gap => text = gap ++ numbered ∧ gap ≠ [] ∧
          forall character, character ∈ gap -> Blank.isBlank character = true := by
  constructor
  · intro read
    cases text with
    | nil => cases read
    | cons first rest =>
        rw [afterGap?] at read
        split at read
        · next blank =>
            cases read
            refine ⟨Blank.endsRun_trimStart rest, first :: rest.takeWhile Blank.isBlank, ?_,
              List.cons_ne_nil _ _, ?_⟩
            · exact congrArg (first :: ·) List.takeWhile_append_dropWhile.symm
            · intro character listed
              rcases List.mem_cons.mp listed with rfl | later
              · exact blank
              · exact List.mem_takeWhile_imp later
        · cases read
  · rintro ⟨ends, gap, rfl, nonempty, blank⟩
    rcases List.exists_cons_of_ne_nil nonempty with ⟨first, later, rfl⟩
    have onward := fun character listed => blank character (List.mem_cons_of_mem first listed)
    rw [List.cons_append, afterGap?, if_pos (blank first List.mem_cons_self), Blank.trimStart,
      dropWhile_run onward ends]

/-- An index is read from digits of any number, when their value is positive and fits. -/
theorem index?_eq_some_iff {digits : List Char} {index : UInt32} :
    index? digits = some index ↔
      digits ≠ [] ∧ (forall digit, digit ∈ digits -> Numeral.isDigit digit = true) ∧
        Numeral.value digits = index.toNat ∧ 1 ≤ Numeral.value digits := by
  rw [index?]
  cases read : Numeral.natural? digits with
  | none =>
      simp only [reduceCtorEq, false_iff]
      rintro ⟨nonempty, decimal, -⟩
      have found := Numeral.natural?_eq_some_iff.mpr ⟨nonempty, decimal, rfl⟩
      cases read.symm.trans found
  | some number =>
      rcases Numeral.natural?_eq_some_iff.mp read with ⟨nonempty, decimal, rfl⟩
      have fits := index.toNat_lt_size
      simp only [nonempty, ne_eq, not_false_eq_true, true_and]
      constructor
      · intro found
        split at found
        · split at found
          · cases found
          · next positive =>
              cases found
              exact ⟨decimal, UInt32.toNat_ofNatLT.symm, Nat.pos_of_ne_zero positive⟩
        · cases found
      · rintro ⟨-, same, positive⟩
        rw [dif_pos (same ▸ fits), if_neg (Nat.ne_of_gt positive)]
        exact congrArg some (UInt32.toNat_inj.mp (UInt32.toNat_ofNatLT.trans same))

/-- A label is read from one line that is not blank, behind any blanks. -/
theorem label?_eq_some_iff {rest : List Char} {label : String} :
    label? rest = some label ↔
      Blank.trim rest = label.toList ∧ Blank.trim rest ≠ [] ∧ '\n' ∉ Blank.trimStart rest := by
  simp only [label?, Blank.trim, List.contains_iff_mem]
  split
  · next broken => simp [broken]
  · next oneLine =>
      cases Blank.trimEnd (Blank.trimStart rest) with
      | nil => simp
      | cons first later =>
          simp only [Option.some.injEq, ne_eq, reduceCtorEq, not_false_eq_true, oneLine, and_true]
          exact ⟨fun same => same ▸ String.toList_ofList.symm,
            fun same => same ▸ String.ofList_toList⟩

/-! ## The whole title -/

theorem read?_eq_some_iff {name : List Char} {title : OptionTitle} :
    read? name = some title ↔
      Exists fun gap => Exists fun digits => Exists fun rest =>
        IsCut name gap digits rest title := by
  simp only [read?, Option.bind_eq_bind, Option.bind_eq_some_iff,
    List.isPrefixOf?_eq_some_iff_append_eq]
  constructor
  · rintro ⟨behind, rfl, numbered, gapRead, index, indexRead, found⟩
    split at found
    · next rest colon =>
        rcases Option.bind_eq_some_iff.mp found with ⟨label, labelRead, made⟩
        cases made
        rcases afterGap?_eq_some_iff.mp gapRead with ⟨-, gap, rfl, gapNonempty, blank⟩
        rcases index?_eq_some_iff.mp indexRead with ⟨nonempty, decimal, value, positive⟩
        rcases label?_eq_some_iff.mp labelRead with ⟨trimmed, notBlank, oneLine⟩
        have cut : numbered = numbered.takeWhile Numeral.isDigit ++ ':' :: rest := by
          rw [← colon, List.takeWhile_append_dropWhile]
        refine ⟨gap, numbered.takeWhile Numeral.isDigit, rest, ?_, gapNonempty, blank, nonempty,
          decimal, value, ⟨positive, ?_⟩, trimmed, notBlank, oneLine⟩
        · rw [List.append_assoc, List.append_assoc, ← cut]
        · rw [value]
          exact index.toNat_lt_size
    · cases found
  · rintro ⟨gap, digits, rest, cut⟩
    -- Each piece ends where the next one starts, so none can be taken longer.
    have colonEnds : EndsRun Numeral.isDigit (':' :: rest) := endsRun_cons (by decide)
    have gapEnds : EndsRun Blank.isBlank (digits ++ ':' :: rest) :=
      endsRun_append
        (fun digit listed => Blank.not_isBlank_of_isDigit (cut.digits_decimal digit listed))
        (endsRun_cons (by decide))
    refine ⟨gap ++ (digits ++ ':' :: rest), ?_, digits ++ ':' :: rest,
      afterGap?_eq_some_iff.mpr ⟨gapEnds, gap, rfl, cut.gap_ne_nil, cut.gap_blank⟩, title.index,
      ?_, ?_⟩
    · rw [cut.whole, List.append_assoc, List.append_assoc]
    · rw [takeWhile_run cut.digits_decimal colonEnds]
      exact index?_eq_some_iff.mpr
        ⟨cut.digits_ne_nil, cut.digits_decimal, cut.index, cut.bounds.1⟩
    · have labelRead : label? rest = some title.label :=
        label?_eq_some_iff.mpr ⟨cut.label, cut.label_ne_nil, cut.oneLine⟩
      rw [dropWhile_run cut.digits_decimal colonEnds]
      exact Option.bind_eq_some_iff.mpr ⟨title.label, labelRead, rfl⟩

/-- A text is read as an option title exactly when it can be cut into the pieces of
one, and what is read is the index that the digits write and the trimmed label.  No
other text is an option title. -/
theorem parse?_accepts_grammar (name : String) :
    (forall title, parse? name = some title ↔
      Exists fun gap => Exists fun digits => Exists fun rest =>
        IsCut name.toList gap digits rest title) ∧
      (parse? name = none ↔
        forall title gap digits rest, ¬ IsCut name.toList gap digits rest title) := by
  have accepts (title : OptionTitle) : parse? name = some title ↔
      Exists fun gap => Exists fun digits => Exists fun rest =>
        IsCut name.toList gap digits rest title :=
    read?_eq_some_iff
  refine ⟨accepts, ?_⟩
  rw [Option.eq_none_iff_forall_ne_some]
  constructor
  · intro refused title gap digits rest cut
    exact refused title ((accepts title).mpr ⟨gap, digits, rest, cut⟩)
  · intro uncut title read
    rcases (accepts title).mp read with ⟨gap, digits, rest, cut⟩
    exact uncut title gap digits rest cut

-- Zeros may stand in front and a line may break in the gap, but no other digits are read.
example : parse? "Option\n0012:  x " = some ⟨12, "x"⟩ := by cbv

example : parse? "Option ٣: x" = none := by cbv

end OptionTitle
end Guidebook
