import Guidebook.Text.Numeral

namespace Guidebook

/-!
# Runs and numerals

A reader of a text takes a run of characters of one kind, so what was written is
found again where the run is followed by something of another kind, or by
nothing.  This is all that is asked of what stands behind a run.

A number is written as the run of its decimal digits, which is never empty and
has the value of the number.
-/

/-! ## Where a run ends -/

/-- What follows a run starts with something that the run does not take, or is
empty. -/
def EndsRun {Item : Type} (inRun : Item -> Bool) (rest : List Item) : Prop :=
  forall item, rest.head? = some item -> inRun item = false

section Run

variable {Item : Type} {inRun : Item -> Bool} {run rest : List Item}

theorem endsRun_nil : EndsRun inRun [] := by
  intro item impossible
  cases impossible

theorem endsRun_cons {first : Item} (outside : inRun first = false) :
    EndsRun inRun (first :: rest) := by
  intro item leads
  cases leads
  exact outside

theorem endsRun_append {front : List Item}
    (outside : forall item, item ∈ front -> inRun item = false) (ends : EndsRun inRun rest) :
    EndsRun inRun (front ++ rest) := by
  cases front with
  | nil => exact ends
  | cons first later => exact endsRun_cons (outside first List.mem_cons_self)

theorem endsRun_of_forall (outside : forall item, item ∈ rest -> inRun item = false) :
    EndsRun inRun rest :=
  fun item leads => outside item (List.mem_of_mem_head? leads)

theorem takeWhile_of_endsRun (ends : EndsRun inRun rest) : rest.takeWhile inRun = [] := by
  cases rest with
  | nil => rfl
  | cons first later => rw [List.takeWhile_cons, ends first rfl, if_neg Bool.false_ne_true]

theorem dropWhile_of_endsRun (ends : EndsRun inRun rest) : rest.dropWhile inRun = rest := by
  cases rest with
  | nil => rfl
  | cons first later => rw [List.dropWhile_cons, ends first rfl, if_neg Bool.false_ne_true]

theorem takeWhile_run (inside : forall item, item ∈ run -> inRun item = true)
    (ends : EndsRun inRun rest) : (run ++ rest).takeWhile inRun = run := by
  rw [List.takeWhile_append_of_pos inside, takeWhile_of_endsRun ends, List.append_nil]

theorem dropWhile_run (inside : forall item, item ∈ run -> inRun item = true)
    (ends : EndsRun inRun rest) : (run ++ rest).dropWhile inRun = rest := by
  rw [List.dropWhile_append_of_pos inside, dropWhile_of_endsRun ends]

/-- A run and what follows it are known from the two together. -/
theorem run_inj {other otherRest : List Item}
    (inside : forall item, item ∈ run -> inRun item = true) (ends : EndsRun inRun rest)
    (otherInside : forall item, item ∈ other -> inRun item = true)
    (otherEnds : EndsRun inRun otherRest) (same : run ++ rest = other ++ otherRest) :
    run = other ∧ rest = otherRest := by
  have runs := congrArg (List.takeWhile inRun) same
  have rests := congrArg (List.dropWhile inRun) same
  rw [takeWhile_run inside ends, takeWhile_run otherInside otherEnds] at runs
  rw [dropWhile_run inside ends, dropWhile_run otherInside otherEnds] at rests
  exact ⟨runs, rests⟩

end Run

/-! ## Decimal numerals -/

namespace Numeral

theorem isDigit_iff (character : Char) :
    isDigit character = true ↔ 48 ≤ character.toNat ∧ character.toNat ≤ 57 := by
  simp only [isDigit, Bool.and_eq_true, decide_eq_true_eq, Char.le_def, UInt32.le_iff_toNat_le]
  rfl

theorem toList_toString (number : Nat) : (toString number).toList = Nat.toDigits 10 number := by
  rw [Nat.toString_eq_ofList_toDigits, String.toList_ofList]

theorem ne_of_isDigit {digit other : Char} (decimal : isDigit digit = true)
    (outside : isDigit other = false) : digit ≠ other := by
  intro same
  rw [same, outside] at decimal
  cases decimal

theorem natural?_eq_some_iff {text : List Char} {number : Nat} :
    natural? text = some number ↔
      text ≠ [] ∧ (forall digit, digit ∈ text -> isDigit digit = true) ∧
        number = value text := by
  unfold natural?
  split
  · next refused =>
      simp only [Bool.or_eq_true, List.isEmpty_iff, Bool.not_eq_true', List.all_eq_false] at refused
      constructor
      · intro impossible
        cases impossible
      · rintro ⟨nonempty, decimal, -⟩
        rcases refused with empty | ⟨digit, member, other⟩
        · exact absurd empty nonempty
        · exact absurd (decimal digit member) other
  · next accepted =>
      simp only [Bool.or_eq_true, List.isEmpty_iff, Bool.not_eq_true', not_or,
        List.all_eq_false, not_exists, not_and, Decidable.not_not] at accepted
      rw [Option.some.injEq]
      exact ⟨fun same => ⟨accepted.1, accepted.2, same.symm⟩, fun parts => parts.2.2.symm⟩

theorem isDigit_of_mem_toString {number : Nat} {digit : Char}
    (written : digit ∈ (toString number).toList) : isDigit digit = true := by
  rw [toList_toString] at written
  have decimal := Nat.isDigit_of_mem_toDigits (by decide) (by decide) written
  simp only [Char.isDigit, Bool.and_eq_true, decide_eq_true_eq, ge_iff_le,
    UInt32.le_iff_toNat_le] at decimal
  exact (isDigit_iff digit).mpr decimal

theorem exists_first_toString (number : Nat) :
    Exists fun first => Exists fun later =>
      (toString number).toList = first :: later ∧ isDigit first = true := by
  have nonempty : (toString number).toList ≠ [] := by
    rw [toList_toString]
    exact Nat.toDigits_ne_nil
  rcases List.exists_cons_of_ne_nil nonempty with ⟨first, later, digits⟩
  refine ⟨first, later, digits, ?_⟩
  have written : first ∈ (toString number).toList := digits ▸ List.mem_cons_self
  exact isDigit_of_mem_toString written

theorem value_toString (number : Nat) : value (toString number).toList = number := by
  have written := Nat.ofDigitChars_ten_toDigits (n := number)
  rw [Nat.ofDigitChars_eq_foldl] at written
  rw [toList_toString, value]
  simp only [digitValue, Nat.mul_comm _ 10]
  exact written

/-- A number is known from its digits. -/
theorem toString_injective {left right : Nat}
    (same : (toString left).toList = (toString right).toList) : left = right := by
  rw [← value_toString left, same, value_toString]

/-- Only the number zero is written with a zero in front. -/
theorem head_toString_ne_zero {number : Nat} (positive : number ≠ 0) :
    (toString number).toList.head? ≠ some '0' := by
  rw [toList_toString]
  induction number using Nat.strongRecOn with
  | ind number inductionHypothesis =>
      rw [Nat.toDigits_eq_if (by decide)]
      split
      · next small =>
          intro zero
          have digit : Nat.digitChar number = '0' := Option.some.inj zero
          exact positive (Nat.digitChar_eq_zero.mp digit)
      · next large =>
          have shorter := inductionHypothesis (number / 10) (by omega) (by omega)
          rcases List.exists_cons_of_ne_nil (Nat.toDigits_ne_nil (b := 10) (n := number / 10))
            with ⟨first, later, split⟩
          rw [split] at shorter ⊢
          exact shorter

end Numeral
end Guidebook
