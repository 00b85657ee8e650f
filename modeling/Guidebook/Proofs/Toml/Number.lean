import Guidebook.Proofs.Text.Numeral
import Guidebook.Toml.Moment
import Guidebook.Toml.Number

namespace Guidebook
namespace Toml

/-!
# Integers

An integer is read as a signed word of sixty-four bits or not at all.  So what is
read as an integer is within the bounds of a word, in whatever base it is written,
and the decimal of a number within the bounds is read back.  Digits may also begin a
date, a time or a number of another kind; all that is asked of what follows them is
that it does not go on with one of these.
-/

/-- An integer is a signed word of sixty-four bits.  Nothing is asked of a value of
another kind. -/
def Value.FitsWord : Value -> Prop
  | .integer number => Numeral.wordLeast ≤ number ∧ number ≤ Numeral.wordGreatest
  | _ => True

/-- The characters that may go on with a number, a date or a time behind a digit. -/
def continuesNumber (character : Char) : Bool :=
  Numeral.isDigit character || ['_', '.', 'e', 'E', '-', ':', 'x', 'o', 'b'].contains character

theorem endsRun_isDigit {left : List Char} (ends : EndsRun continuesNumber left) :
    EndsRun Numeral.isDigit left := by
  intro character leads
  have outside := ends character leads
  rw [continuesNumber, Bool.or_eq_false_iff] at outside
  exact outside.1

theorem ne_cons_of_continues {left later : List Char} {mark : Char}
    (ends : EndsRun continuesNumber left) (continues : continuesNumber mark = true) :
    left ≠ mark :: later := by
  rintro rfl
  cases (ends mark rfl).symm.trans continues

/-! ## No date and no time -/

namespace Moment

variable {run left : List Char}

/-- A number of so many digits is taken from the front of a run of digits. -/
theorem exists_of_digits? {count least greatest number : Nat} {rest : List Char}
    (ends : EndsRun Numeral.isDigit left)
    (read : digits? count least greatest (run ++ left) = some (number, rest)) :
    Exists fun later => rest = later ++ left ∧ forall digit, digit ∈ later -> digit ∈ run := by
  unfold digits? at read
  dsimp only at read
  split at read
  · next taken =>
      simp only [Bool.and_eq_true, decide_eq_true_eq, List.all_eq_true] at taken
      rcases taken with ⟨⟨⟨long, decimal⟩, -⟩, -⟩
      cases read
      -- If the digits went on behind the run, then what follows it would start with one.
      have inside : count ≤ run.length := by
        by_cases inside : count ≤ run.length
        · exact inside
        · cases left with
          | nil =>
              rw [List.append_nil, List.length_take] at long
              omega
          | cons first later =>
              have member : first ∈ (run ++ first :: later).take count := by
                rw [List.take_append, List.mem_append]
                obtain ⟨more, enough⟩ : Exists fun more => count - run.length = more + 1 :=
                  ⟨count - run.length - 1, by omega⟩
                rw [enough]
                exact Or.inr List.mem_cons_self
              have outside := ends first rfl
              rw [decimal first member] at outside
              cases outside
      exact ⟨run.drop count, List.drop_append_of_le_length inside,
        fun digit member => List.mem_of_mem_drop member⟩
  · cases read

theorem pass?_run (mark : Char) (decimal : forall digit, digit ∈ run -> Numeral.isDigit digit = true)
    (ends : EndsRun continuesNumber left) (continues : continuesNumber mark = true)
    (outside : Numeral.isDigit mark = false) : pass? mark (run ++ left) = none := by
  cases run with
  | nil =>
      cases left with
      | nil => rfl
      | cons first later =>
          have different : first ≠ mark := fun same =>
            ne_cons_of_continues ends continues (congrArg (List.cons · later) same)
          exact if_neg different
  | cons first later =>
      have digit := decimal first List.mem_cons_self
      exact if_neg (Numeral.ne_of_isDigit digit outside)

/-- A run of digits alone is no date and no time. -/
theorem after?_run (decimal : forall digit, digit ∈ run -> Numeral.isDigit digit = true)
    (ends : EndsRun continuesNumber left) : after? (run ++ left) = none := by
  have digitsEnd := endsRun_isDigit ends
  have noDate : afterDate? (run ++ left) = none := by
    unfold afterDate?
    cases year : digits? 4 0 9999 (run ++ left) with
    | none => rfl
    | some found =>
        rcases exists_of_digits? digitsEnd year with ⟨later, rest, inRun⟩
        have noMonth := pass?_run '-' (fun digit member => decimal digit (inRun digit member))
          ends (by decide) (by decide)
        simp only [bind, Option.bind, rest, noMonth]
  have noTime : afterTime? (run ++ left) = none := by
    unfold afterTime?
    cases hour : digits? 2 0 23 (run ++ left) with
    | none => rfl
    | some found =>
        rcases exists_of_digits? digitsEnd hour with ⟨later, rest, inRun⟩
        have noMinute := pass?_run ':'
          (fun digit member => decimal digit (inRun digit member)) ends (by decide) (by decide)
        simp only [bind, Option.bind, rest, noMinute]
  rw [after?, noDate, noTime]

end Moment

/-! ## Integers are read back -/

namespace Number

variable {run left : List Char}

theorem digits_run (decimal : forall digit, digit ∈ run -> Numeral.isDigit digit = true)
    (ends : EndsRun continuesNumber left) :
    digits Numeral.isDigit (run ++ left) = (run, left) := by
  induction run with
  | nil =>
      cases left with
      | nil => rfl
      | cons first later =>
          have outside := endsRun_isDigit ends first rfl
          rw [List.nil_append, digits, outside]
          · rfl
          · rintro digit rest rfl rfl
            exact ne_cons_of_continues ends (by decide) rfl
  | cons first later inductionHypothesis =>
      rw [List.forall_mem_cons] at decimal
      rw [List.cons_append, digits, inductionHypothesis decimal.2, if_pos decimal.1]
      rintro digit rest rfl
      cases decimal.1

theorem exponentNext_of_endsRun (ends : EndsRun continuesNumber left) :
    exponentNext left = false := by
  cases left with
  | nil => rfl
  | cons first later =>
      have outside := ends first rfl
      simp [continuesNumber] at outside
      simp [exponentNext, outside]

theorem rest?_of_endsRun (whole : List Char) (ends : EndsRun continuesNumber left) :
    rest? false whole left = (word? (Numeral.value whole)).map fun value => (value, left) := by
  rw [rest?, exponentNext_of_endsRun ends, if_neg Bool.false_ne_true]
  · simp only [Bool.false_eq_true, if_false]
    cases word? (Numeral.value whole) <;> rfl
  · intro text
    exact ne_cons_of_continues ends (by decide)

theorem word?_of_le {number : Nat} (fits : (number : Int) ≤ Numeral.wordGreatest) :
    word? number = some (.integer number) := by
  have least : Numeral.wordLeast ≤ (number : Int) := by
    unfold Numeral.wordLeast
    omega
  rw [word?, decide_eq_true least, decide_eq_true fits]
  rfl

/-- Of the decimal of a number all digits belong to its whole part. -/
theorem whole?_toString (number : Nat) (ends : EndsRun continuesNumber left) :
    whole? ((toString number).toList ++ left) = some ((toString number).toList, left) := by
  have decimal : forall digit, digit ∈ (toString number).toList -> Numeral.isDigit digit = true :=
    fun digit => Numeral.isDigit_of_mem_toString
  by_cases zero : number = 0
  · subst number
    rfl
  · have head := Numeral.head_toString_ne_zero zero
    rcases Numeral.exists_first_toString number with ⟨first, later, digits, firstDecimal⟩
    rw [digits] at decimal head ⊢
    have read := digits_run decimal ends
    rw [List.cons_append] at read ⊢
    rw [whole?, run?, if_pos firstDecimal, read]
    intro rest same
    exact head (congrArg some (List.cons.inj same).1)

end Number

/-- No decimal looks like a number in another base. -/
theorem toString_ne_based (number : Nat) {mark : Char} {left text : List Char}
    (ends : EndsRun continuesNumber left) (continues : continuesNumber mark = true)
    (outside : Numeral.isDigit mark = false) :
    (toString number).toList ++ left ≠ '0' :: mark :: text := by
  intro same
  have decimal : forall digit, digit ∈ (toString number).toList -> Numeral.isDigit digit = true :=
    fun digit => Numeral.isDigit_of_mem_toString
  rcases Numeral.exists_first_toString number with ⟨first, later, digits, -⟩
  rw [digits] at decimal same
  have behind : later ++ left = mark :: text := (List.cons.inj same).2
  cases later with
  | nil => exact ne_cons_of_continues ends continues behind
  | cons second rest =>
      have digit := decimal second (List.mem_cons_of_mem first List.mem_cons_self)
      exact Numeral.ne_of_isDigit digit outside (List.cons.inj behind).1

/-- A number that fits a word is read back. -/
theorem number?_toString {number : Nat} (fits : (number : Int) ≤ Numeral.wordGreatest)
    {left : List Char} (ends : EndsRun continuesNumber left) :
    number? ((toString number).toList ++ left) = some (.integer number, left) := by
  rcases Numeral.exists_first_toString number with ⟨first, later, digits, decimal⟩
  have notFirst {mark : Char} {text : List Char} (outside : Numeral.isDigit mark = false) :
      (toString number).toList ++ left ≠ mark :: text := by
    intro same
    rw [digits] at same
    exact Numeral.ne_of_isDigit decimal outside (List.cons.inj same).1
  rw [number?, Number.unsigned?, Number.whole?_toString number ends]
  · have value := Number.rest?_of_endsRun (toString number).toList ends
    rw [Numeral.value_toString, Number.word?_of_le fits] at value
    exact value
  · exact fun text => notFirst (by decide)
  · exact fun text => notFirst (by decide)
  · exact fun text => toString_ne_based number ends (by decide) (by decide)
  · exact fun text => toString_ne_based number ends (by decide) (by decide)
  · exact fun text => toString_ne_based number ends (by decide) (by decide)
  · exact fun text => notFirst (by decide)
  · exact fun text => notFirst (by decide)

/-! ## What is read as an integer fits a word -/

namespace Number

theorem fitsWord_of_word? {number : Int} {value : Value} (read : word? number = some value) :
    value.FitsWord := by
  unfold word? at read
  split at read
  · next fits =>
      cases read
      exact And.imp of_decide_eq_true of_decide_eq_true ((Bool.and_eq_true _ _).mp fits)
  · cases read

theorem fitsWord_of_float? {characters : List Char} {value : Value}
    (read : float? characters = some value) : value.FitsWord := by
  unfold float? at read
  rcases Option.bind_eq_some_iff.mp read with ⟨number, -, kept⟩
  split at kept
  · cases kept
  · cases kept
    trivial

theorem fitsWord_of_based? {base : Nat} {text left : List Char} {value : Value}
    (read : based? base text = some (value, left)) : value.FitsWord := by
  unfold based? at read
  rcases Option.bind_eq_some_iff.mp read with ⟨⟨digits, rest⟩, -, word⟩
  rcases Option.bind_eq_some_iff.mp word with ⟨number, fits, same⟩
  cases same
  exact fitsWord_of_word? fits

theorem fitsWord_of_float?_pair {characters rest left : List Char} {value : Value}
    (read : ((float? characters).bind fun number => some (number, rest)) = some (value, left)) :
    value.FitsWord := by
  rcases Option.bind_eq_some_iff.mp read with ⟨number, float, same⟩
  cases same
  exact fitsWord_of_float? float

theorem fitsWord_of_rest? {negative : Bool} {whole text left : List Char} {value : Value}
    (read : rest? negative whole text = some (value, left)) : value.FitsWord := by
  unfold rest? at read
  dsimp only at read
  split at read
  · rcases Option.bind_eq_some_iff.mp read with ⟨⟨fraction, rest⟩, -, ended⟩
    split at ended
    · rcases Option.bind_eq_some_iff.mp ended with ⟨exponent, -, float⟩
      exact fitsWord_of_float?_pair float
    · exact fitsWord_of_float?_pair ended
  · split at read
    · rcases Option.bind_eq_some_iff.mp read with ⟨exponent, -, float⟩
      exact fitsWord_of_float?_pair float
    · rcases Option.bind_eq_some_iff.mp read with ⟨number, fits, same⟩
      cases same
      exact fitsWord_of_word? fits

theorem fitsWord_of_unsigned? {negative : Bool} {text left : List Char} {value : Value}
    (read : unsigned? negative text = some (value, left)) : value.FitsWord := by
  unfold unsigned? at read
  split at read
  · cases read
    trivial
  · cases read
    trivial
  · rcases Option.bind_eq_some_iff.mp read with ⟨⟨whole, rest⟩, -, number⟩
    exact fitsWord_of_rest? number

end Number

theorem fitsWord_of_number? {text left : List Char} {value : Value}
    (read : number? text = some (value, left)) : value.FitsWord := by
  unfold number? at read
  split at read
  · exact Number.fitsWord_of_based? read
  · exact Number.fitsWord_of_based? read
  · exact Number.fitsWord_of_based? read
  · exact Number.fitsWord_of_unsigned? read
  · exact Number.fitsWord_of_unsigned? read
  · exact Number.fitsWord_of_unsigned? read

end Toml
end Guidebook
