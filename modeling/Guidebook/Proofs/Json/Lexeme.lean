import Guidebook.Json.Lexeme
import Guidebook.Json.Number
import Guidebook.Json.Printer
import Guidebook.Proofs.Text.Numeral

namespace Guidebook
namespace Json

/-!
# Blanks, texts and numbers that are read back

A quoted text is read back whatever its characters are: each of them is written
as itself or as one escape, and each escape that is written is one that is read.
A number that fits a word is read back where nothing follows that could belong to
it.  What follows a lexeme is otherwise arbitrary.
-/

/-! ## Blanks -/

/-- Only blanks stand in a text. -/
def Blanks (text : List Char) : Prop := forall character, character ∈ text -> isBlank character = true

theorem blanks_nil : Blanks [] := List.forall_mem_nil _

theorem afterBlanks_append {blanks : List Char} (blank : Blanks blanks) (text : List Char) :
    afterBlanks (blanks ++ text) = afterBlanks text :=
  List.dropWhile_append_of_pos blank

theorem afterBlanks_cons {first : Char} (visible : isBlank first = false) (rest : List Char) :
    afterBlanks (first :: rest) = first :: rest :=
  dropWhile_of_endsRun (endsRun_cons visible)

theorem isBlank_of_isDigit {character : Char} (decimal : Numeral.isDigit character = true) :
    isBlank character = false := by
  simp only [isBlank, Bool.or_eq_false_iff, beq_eq_false_iff_ne]
  exact ⟨⟨⟨Numeral.ne_of_isDigit decimal (by decide), Numeral.ne_of_isDigit decimal (by decide)⟩,
    Numeral.ne_of_isDigit decimal (by decide)⟩, Numeral.ne_of_isDigit decimal (by decide)⟩

/-- A text that starts visibly, and not like the end of a list. -/
def StartsValue (text : List Char) : Prop :=
  Exists fun first => Exists fun rest => text = first :: rest ∧
    isBlank first = false ∧ first ≠ ']'

/-! ## Texts -/

theorem hexValue?_hexDigit : forall digit, digit < 16 ->
    Numeral.hexValue? (Numeral.hexDigit digit) = some digit := by
  decide

theorem hexWord_hexDigit {high low : Nat} (highSmall : high < 16) (lowSmall : low < 16)
    (left : List Char) :
    hexWord ('0' :: '0' :: Numeral.hexDigit high :: Numeral.hexDigit low :: left) =
      .ok (high * 16 + low, left) := by
  have zero : Numeral.hexValue? '0' = some 0 := by decide
  simp only [hexWord, zero, hexValue?_hexDigit high highSmall, hexValue?_hexDigit low lowSmall,
    Nat.zero_mul, Nat.zero_add]

theorem numbered_of_control {character : Char} (control : character.toNat < 0x20)
    (left : List Char) :
    numbered ('0' :: '0' :: Numeral.hexDigit (character.toNat / 16) ::
      Numeral.hexDigit (character.toNat % 16) :: left) = .ok (character, left) := by
  have number : character.toNat / 16 * 16 + character.toNat % 16 = character.toNat := by omega
  have notLow : isLowHalf character.toNat = false := by
    simp only [isLowHalf, Bool.and_eq_false_iff, decide_eq_false_iff_not]
    omega
  have notHigh : isHighHalf character.toNat = false := by
    simp only [isHighHalf, Bool.and_eq_false_iff, decide_eq_false_iff_not]
    omega
  simp only [numbered, hexWord_hexDigit (by omega : character.toNat / 16 < 16)
    (by omega : character.toNat % 16 < 16), number, notLow, notHigh, Bool.false_eq_true, if_false,
    Char.ofNat_toNat]

/-- One step of reading takes one character as it is written. -/
theorem charactersFrom_escape (character tick : Char) (clock left : List Char) :
    charactersFrom (tick :: clock) (escape character ++ left) =
      (charactersFrom clock left).map fun (characters, left) =>
        (character :: characters, left) := by
  unfold escape
  split
  case h_8 notQuote notBackslash _ _ _ _ _ =>
    split
    · next control =>
        have read : unescape ('u' :: '0' :: '0' :: Numeral.hexDigit (character.toNat / 16) ::
            Numeral.hexDigit (character.toNat % 16) :: left) = .ok (character, left) :=
          numbered_of_control control left
        simp only [List.cons_append, List.nil_append, charactersFrom, read]
    · next printable =>
        rw [List.singleton_append, charactersFrom, if_neg printable]
        · exact notQuote
        · exact notBackslash
  all_goals rfl

theorem charactersFrom_flatMap_escape (characters : List Char) {clock : List Char}
    (long : characters.length < clock.length) (left : List Char) :
    charactersFrom clock (characters.flatMap escape ++ '"' :: left) = .ok (characters, left) := by
  induction characters generalizing clock with
  | nil =>
      cases clock with
      | nil => cases long
      | cons tick clock => rfl
  | cons first rest inductionHypothesis =>
      cases clock with
      | nil => cases long
      | cons tick clock =>
          have restRead := inductionHypothesis (Nat.lt_of_succ_lt_succ long)
          rw [List.flatMap_cons, List.append_assoc, charactersFrom_escape, restRead]
          rfl

theorem length_le_flatMap_escape (characters : List Char) :
    characters.length ≤ (characters.flatMap escape).length := by
  induction characters with
  | nil => exact Nat.le_refl 0
  | cons first rest inductionHypothesis =>
      have nonempty : 0 < (escape first).length := by
        unfold escape
        split
        case h_8 => split <;> exact Nat.zero_lt_succ _
        all_goals exact Nat.zero_lt_succ _
      rw [List.flatMap_cons, List.length_append, List.length_cons]
      omega

theorem quoted_escape (text : String) (left : List Char) :
    quoted (text.toList.flatMap escape ++ '"' :: left) = .ok (text, left) := by
  have long : text.toList.length < (text.toList.flatMap escape ++ '"' :: left).length := by
    have bounded := length_le_flatMap_escape text.toList
    rw [List.length_append, List.length_cons]
    omega
  rw [quoted, charactersFrom_flatMap_escape text.toList long]
  simp only [Except.map, String.ofList_toList]

theorem quote_append (text : String) (left : List Char) :
    quote text ++ left = '"' :: (text.toList.flatMap escape ++ '"' :: left) := by
  rw [quote, List.cons_append, List.cons_append, List.append_assoc, List.singleton_append]

/-! ## Numbers -/

/-- The characters that may belong to a number behind its first digit. -/
def continuesNumber (character : Char) : Bool :=
  Numeral.isDigit character || character == '.' || character == 'e' || character == 'E'

theorem continuesNumber_of_isBlank {character : Char} (blank : isBlank character = true) :
    continuesNumber character = false := by
  simp only [isBlank, Bool.or_eq_true, beq_iff_eq] at blank
  rcases blank with ((rfl | rfl) | rfl) | rfl <;> rfl

theorem endsRun_blanks {blanks left : List Char} (blank : Blanks blanks)
    (ends : EndsRun continuesNumber left) : EndsRun continuesNumber (blanks ++ left) :=
  endsRun_append (fun character listed => continuesNumber_of_isBlank (blank character listed)) ends

theorem endsRun_listEnd {blanks : List Char} (blank : Blanks blanks) (left : List Char) :
    EndsRun continuesNumber (blanks ++ ']' :: left) :=
  endsRun_blanks blank (endsRun_cons rfl)

theorem endsRun_objectEnd {blanks : List Char} (blank : Blanks blanks) (left : List Char) :
    EndsRun continuesNumber (blanks ++ '\x7d' :: left) :=
  endsRun_blanks blank (endsRun_cons rfl)

namespace Number

theorem le_foldl_digits (digits : List Char) (start : Nat) :
    start ≤ digits.foldl (fun total digit => total * 10 + Numeral.digitValue digit) start := by
  induction digits generalizing start with
  | nil => exact Nat.le_refl start
  | cons first rest inductionHypothesis =>
      have later := inductionHypothesis (start * 10 + Numeral.digitValue first)
      rw [List.foldl_cons]
      omega

/-- Digits are absorbed together where the number that they make is within the
bound. -/
theorem absorb_digits {bound : Nat} {digits left : List Char}
    (decimal : forall digit, digit ∈ digits -> Numeral.isDigit digit = true)
    (ends : EndsRun Numeral.isDigit left) (start : Nat)
    (within : digits.foldl (fun total digit => total * 10 + Numeral.digitValue digit) start ≤ bound) :
    absorb bound start (digits ++ left) =
      (digits.foldl (fun total digit => total * 10 + Numeral.digitValue digit) start, left) := by
  induction digits generalizing start with
  | nil =>
      cases left with
      | nil => rfl
      | cons first rest =>
          have outside := ends first rfl
          simp only [List.nil_append, absorb, outside, Bool.false_eq_true, if_false, List.foldl_nil]
  | cons first rest inductionHypothesis =>
      rw [List.forall_mem_cons] at decimal
      rw [List.foldl_cons] at within ⊢
      have fits := Nat.le_trans (le_foldl_digits rest _) within
      simp only [List.cons_append, absorb, decimal.1, if_true, if_pos fits]
      exact inductionHypothesis decimal.2 _ within

theorem rest_of_endsRun (number : Nat) {left : List Char} (ends : EndsRun continuesNumber left) :
    rest false number 0 left = .ok (.integer number, left) := by
  cases left with
  | nil => rfl
  | cons first later =>
      have outside := ends first rfl
      simp only [continuesNumber, Bool.or_eq_false_iff, beq_eq_false_iff_ne] at outside
      rcases outside with ⟨⟨⟨_, notPoint⟩, notSmall⟩, notLarge⟩
      unfold rest
      split
      · next same => exact False.elim (notPoint (List.cons.inj same).1)
      · have noExponent : exponentNext (first :: later) = false := by
          simp only [exponentNext, Bool.or_eq_false_iff, beq_eq_false_iff_ne]
          exact ⟨notSmall, notLarge⟩
        rw [noExponent]
        rfl

theorem digitNext_of_endsRun {left : List Char} (ends : EndsRun Numeral.isDigit left) :
    digitNext left = false := by
  cases left with
  | nil => rfl
  | cons first later => exact ends first rfl

/-- Digits of which the first is no zero are read together. -/
theorem unsigned_digits {first : Char} {later left : List Char} (nonzero : first ≠ '0')
    (decimal : forall digit, digit ∈ first :: later -> Numeral.isDigit digit = true)
    (fits : Numeral.value (first :: later) ≤ greatest) (ends : EndsRun continuesNumber left)
    (digitsEnd : EndsRun Numeral.isDigit left) :
    unsigned false (first :: (later ++ left)) =
      .ok (.integer (Numeral.value (first :: later)), left) := by
  rw [List.forall_mem_cons] at decimal
  have start : Numeral.value (first :: later) =
      later.foldl (fun total digit => total * 10 + Numeral.digitValue digit)
        (Numeral.digitValue first) := by
    rw [Numeral.value, List.foldl_cons, Nat.zero_mul, Nat.zero_add]
  rw [start] at fits
  have absorbed := absorb_digits decimal.2 digitsEnd (Numeral.digitValue first) fits
  have noDigits : digitCount left = 0 := by
    rw [digitCount, takeWhile_of_endsRun digitsEnd, List.length_nil]
  unfold unsigned
  split
  · next impossible => cases impossible
  · next same => exact False.elim (nonzero (List.cons.inj same).1)
  · next other rest _ same =>
      cases same
      rw [if_pos decimal.1, absorbed, start]
      simp only [noDigits, dropWhile_of_endsRun digitsEnd, rest_of_endsRun _ ends]

end Number

/-- A number that fits an unsigned word is read back. -/
theorem number_toString {value : Nat} (fits : value ≤ Number.greatest) {left : List Char}
    (ends : EndsRun continuesNumber left) :
    number ((toString value).toList ++ left) = .ok (.integer value, left) := by
  have digitsEnd : EndsRun Numeral.isDigit left := by
    intro character leads
    have outside := ends character leads
    simp only [continuesNumber, Bool.or_eq_false_iff] at outside
    exact outside.1.1.1
  by_cases zero : value = 0
  · subst value
    show Number.unsigned false ('0' :: left) = _
    rw [Number.unsigned, Number.digitNext_of_endsRun digitsEnd, if_neg Bool.false_ne_true,
      Number.rest_of_endsRun 0 ends]
  · have decimal : forall digit, digit ∈ (toString value).toList ->
        Numeral.isDigit digit = true := fun digit => Numeral.isDigit_of_mem_toString
    have written := Numeral.value_toString value
    have head := Numeral.head_toString_ne_zero zero
    rcases Numeral.exists_first_toString value with ⟨first, later, digits, firstDecimal⟩
    rw [digits] at decimal written head ⊢
    have nonzero : first ≠ '0' := by
      intro same
      exact head (congrArg some same)
    have unsigned := Number.unsigned_digits nonzero decimal (written ▸ fits) ends digitsEnd
    rw [written] at unsigned
    unfold number
    split
    · next same =>
        have minus : first = '-' := (List.cons.inj same).1
        exact absurd minus (Numeral.ne_of_isDigit firstDecimal (by decide))
    · exact unsigned

end Json
end Guidebook
