import Guidebook.Proofs.Text.Blank
import Guidebook.Settings.Environment

namespace Guidebook

/-!
# What a variable says

The text of a variable is read as whatever it can be before anyone asks what it is
for.  Here it is said without the readers what a text writes: a truth value, an
integer, the name of a format, or the parts between commas.  Where a text writes one
of these and is of no other kind, its reading is what it writes.

A text that is plain, which is neither a truth value nor a number, is the only kind
that is kept as it is.
-/

/-! ## Letters -/

namespace Environment

/-- The sign of the Kelvin is a letter of no word without a k. -/
theorem lower_eq_iff {character letter : Char} (noK : letter ≠ 'k') (noKelvin : letter ≠ '\u212A') :
    lower character = letter ↔ character.toLower = letter := by
  unfold lower
  split
  · next kelvin =>
      subst character
      exact ⟨fun same => absurd same.symm noK, fun same => absurd same.symm noKelvin⟩
  · exact Iff.rfl

theorem toLower_of_isDigit {digit : Char} (decimal : Numeral.isDigit digit = true) :
    digit.toLower = digit := by
  have bounds := (Numeral.isDigit_iff digit).mp decimal
  unfold Char.toLower
  rw [dif_neg]
  rintro ⟨upper, -⟩
  have low : 65 ≤ digit.toNat := upper
  omega

theorem map_lower_eq_iff {letters : List Char} (noK : 'k' ∉ letters) (noKelvin : '\u212A' ∉ letters)
    (text : List Char) : text.map lower = letters ↔ text.map Char.toLower = letters := by
  induction text generalizing letters with
  | nil => exact Iff.rfl
  | cons first rest inductionHypothesis =>
      cases letters with
      | nil => simp
      | cons letter letters =>
          rw [List.mem_cons, not_or] at noK noKelvin
          rw [List.map_cons, List.map_cons, List.cons.injEq, List.cons.injEq,
            lower_eq_iff (Ne.symm noK.1) (Ne.symm noKelvin.1), inductionHypothesis noK.2 noKelvin.2]

/-! ## What a text writes -/

/-- A text writes a truth value: its word, in letters of any case. -/
def WritesBoolean (text : String) (value : Bool) : Prop :=
  text.toList.map Char.toLower = (toString value).toList

instance (text : String) (value : Bool) : Decidable (WritesBoolean text value) :=
  inferInstanceAs (Decidable (_ = _))

/-- A text writes an integer: decimal digits, and in front of them a sign or none. -/
inductive WritesInteger : List Char -> Int -> Prop where
  | unsigned {digits : List Char} (nonempty : digits ≠ [])
      (decimal : forall digit, digit ∈ digits -> Numeral.isDigit digit = true) :
      WritesInteger digits (Numeral.value digits)
  | positive {digits : List Char} (nonempty : digits ≠ [])
      (decimal : forall digit, digit ∈ digits -> Numeral.isDigit digit = true) :
      WritesInteger ('+' :: digits) (Numeral.value digits)
  | negative {digits : List Char} (nonempty : digits ≠ [])
      (decimal : forall digit, digit ∈ digits -> Numeral.isDigit digit = true) :
      WritesInteger ('-' :: digits) (-Numeral.value digits)

/-- A text writes an integer that fits a word. -/
def WritesWord (text : String) (number : Int) : Prop :=
  WritesInteger text.toList number ∧ Numeral.wordLeast ≤ number ∧ number ≤ Numeral.wordGreatest

/-- A text is neither a truth value nor a number. -/
structure IsPlain (text : String) : Prop where
  notBoolean : forall value, ¬ WritesBoolean text value
  notInteger : Numeral.word? text.toList = none
  notNumber : Decimal.float? text.toList = none

/-- A text writes a number that is no integer of a word. -/
structure WritesFloat (text : String) (number : Float) : Prop where
  notBoolean : forall value, ¬ WritesBoolean text value
  notInteger : Numeral.word? text.toList = none
  isNumber : Decimal.float? text.toList = some number

/-- The parts of a text between its commas. -/
structure HasParts (text : String) (parts : List String) : Prop where
  nonempty : parts ≠ []
  noComma : forall part, part ∈ parts -> ',' ∉ part.toList
  joined : String.intercalate "," parts = text

theorem lowered_eq_iff (text : String) (value : Bool) :
    lowered text = toString value ↔ WritesBoolean text value := by
  have letters : 'k' ∉ (toString value).toList ∧ '\u212A' ∉ (toString value).toList := by
    cases value <;> decide
  rw [WritesBoolean, ← map_lower_eq_iff letters.1 letters.2, lowered]
  constructor
  · intro same
    rw [← same, String.toList_ofList]
  · intro same
    rw [same, String.ofList_toList]

/-- An integer is read exactly from the texts that write it. -/
theorem integer?_eq_some_iff {text : List Char} {number : Int} :
    Numeral.integer? text = some number ↔ WritesInteger text number := by
  constructor
  · intro read
    unfold Numeral.integer? at read
    split at read
    · rcases Option.map_eq_some_iff.mp read with ⟨size, digits, rfl⟩
      rcases Numeral.natural?_eq_some_iff.mp digits with ⟨nonempty, decimal, rfl⟩
      exact .positive nonempty decimal
    · rcases Option.map_eq_some_iff.mp read with ⟨size, digits, rfl⟩
      rcases Numeral.natural?_eq_some_iff.mp digits with ⟨nonempty, decimal, rfl⟩
      exact .negative nonempty decimal
    · rcases Option.map_eq_some_iff.mp read with ⟨size, digits, rfl⟩
      rcases Numeral.natural?_eq_some_iff.mp digits with ⟨nonempty, decimal, rfl⟩
      exact .unsigned nonempty decimal
  · intro writes
    cases writes with
    | positive nonempty decimal =>
        exact Option.map_eq_some_iff.mpr
          ⟨_, Numeral.natural?_eq_some_iff.mpr ⟨nonempty, decimal, rfl⟩, rfl⟩
    | negative nonempty decimal =>
        exact Option.map_eq_some_iff.mpr
          ⟨_, Numeral.natural?_eq_some_iff.mpr ⟨nonempty, decimal, rfl⟩, rfl⟩
    | unsigned nonempty decimal =>
        have noSign {sign : Char} (outside : Numeral.isDigit sign = false) (rest : List Char) :
            text ≠ sign :: rest := by
          rintro rfl
          exact Numeral.ne_of_isDigit (decimal sign List.mem_cons_self) outside rfl
        rw [Numeral.integer?]
        · exact Option.map_eq_some_iff.mpr
            ⟨_, Numeral.natural?_eq_some_iff.mpr ⟨nonempty, decimal, rfl⟩, rfl⟩
        · exact noSign (by decide)
        · exact noSign (by decide)

/-- An integer of a word is read from the texts that write it. -/
theorem word?_eq_some_iff {text : List Char} {number : Int} :
    Numeral.word? text = some number ↔
      WritesInteger text number ∧ Numeral.wordLeast ≤ number ∧ number ≤ Numeral.wordGreatest := by
  rw [Numeral.word?, Option.filter_eq_some_iff, integer?_eq_some_iff]
  simp

/-- What writes an integer starts with no letter. -/
theorem exists_head_of_writesInteger {text : List Char} {number : Int}
    (writes : WritesInteger text number) :
    Exists fun first => Exists fun later =>
      text = first :: later ∧ first.toLower = first ∧ first ≠ 't' ∧ first ≠ 'f' := by
  cases writes with
  | positive => exact ⟨'+', _, rfl, by decide, by decide, by decide⟩
  | negative => exact ⟨'-', _, rfl, by decide, by decide, by decide⟩
  | unsigned nonempty decimal =>
      rcases List.exists_cons_of_ne_nil nonempty with ⟨first, later, rfl⟩
      have digit := decimal first List.mem_cons_self
      exact ⟨first, later, rfl, toLower_of_isDigit digit, Numeral.ne_of_isDigit digit (by decide),
        Numeral.ne_of_isDigit digit (by decide)⟩

theorem not_writesBoolean_of_writesInteger {text : String} {number : Int}
    (writes : WritesInteger text.toList number) (value : Bool) : ¬ WritesBoolean text value := by
  rcases exists_head_of_writesInteger writes with ⟨first, later, starts, same, notT, notF⟩
  unfold WritesBoolean
  rw [starts, List.map_cons, same]
  cases value with
  | true => exact fun word => notT (List.cons.inj word).1
  | false => exact fun word => notF (List.cons.inj word).1

/-! ## Readings -/

namespace Reading

theorem of_boolean {text : String} {value : Bool} (writes : WritesBoolean text value)
    (isList : Bool) : Reading.of isList text = .boolean value := by
  have word := (lowered_eq_iff text value).mpr writes
  rw [Reading.of, word]
  cases value <;> rfl

theorem of_notBoolean {text : String} (notBoolean : forall value, ¬ WritesBoolean text value)
    (isList : Bool) :
    Reading.of isList text =
      match Numeral.word? text.toList with
      | some value => .integer value
      | none =>
        match Decimal.float? text.toList with
        | some value => .float value
        | none => if isList then .list (splitCommas text) else .text text := by
  have notTrue : lowered text ≠ "true" := fun same =>
    notBoolean true ((lowered_eq_iff text true).mp same)
  have notFalse : lowered text ≠ "false" := fun same =>
    notBoolean false ((lowered_eq_iff text false).mp same)
  unfold Reading.of
  exact (if_neg notTrue).trans (if_neg notFalse)

theorem of_word {text : String} {number : Int} (writes : WritesWord text number) (isList : Bool) :
    Reading.of isList text = .integer number := by
  rw [of_notBoolean (not_writesBoolean_of_writesInteger writes.1), word?_eq_some_iff.mpr writes]

theorem of_float {text : String} {number : Float} (writes : WritesFloat text number)
    (isList : Bool) : Reading.of isList text = .float number := by
  rw [of_notBoolean writes.notBoolean, writes.notInteger, writes.isNumber]

theorem of_plain {text : String} (plain : IsPlain text) (isList : Bool) :
    Reading.of isList text = if isList then .list (splitCommas text) else .text text := by
  rw [of_notBoolean plain.notBoolean, plain.notInteger, plain.notNumber]

/-- All that a text can be read as. -/
theorem of_cases (isList : Bool) (text : String) :
    (Exists fun value => WritesBoolean text value ∧ Reading.of isList text = .boolean value) ∨
      (Exists fun number => WritesWord text number ∧ Reading.of isList text = .integer number) ∨
      (Exists fun number => WritesFloat text number ∧ Reading.of isList text = .float number) ∨
      (IsPlain text ∧
        Reading.of isList text = if isList then .list (splitCommas text) else .text text) := by
  by_cases notBoolean : forall value, ¬ WritesBoolean text value
  · cases integer : Numeral.word? text.toList with
    | some number =>
        have writes : WritesWord text number := word?_eq_some_iff.mp integer
        exact Or.inr (Or.inl ⟨number, writes, of_word writes isList⟩)
    | none =>
        cases float : Decimal.float? text.toList with
        | some number =>
            have writes : WritesFloat text number := ⟨notBoolean, integer, float⟩
            exact Or.inr (Or.inr (Or.inl ⟨number, writes, of_float writes isList⟩))
        | none =>
            have plain : IsPlain text := ⟨notBoolean, integer, float⟩
            exact Or.inr (Or.inr (Or.inr ⟨plain, of_plain plain isList⟩))
  · rcases Classical.not_forall.mp notBoolean with ⟨value, doubled⟩
    have writes := Classical.not_not.mp doubled
    exact Or.inl ⟨value, writes, of_boolean writes isList⟩

end Reading

/-! ## Formats -/

/-- A text names a format: the name of the format in letters of any case, and blanks
around it. -/
def NamesFormat (text : String) (format : OutputFormat) : Prop :=
  Exists fun before => Exists fun word => Exists fun after =>
    text.toList = before ++ word ++ after ∧
      (forall character, character ∈ before -> Blank.isBlank character = true) ∧
      (forall character, character ∈ after -> Blank.isBlank character = true) ∧
      word.map Char.toLower = format.name.toList

theorem toLower_of_isBlank {character : Char} (blank : Blank.isBlank character = true) :
    character.toLower = character := by
  unfold Char.toLower
  rw [dif_neg]
  rintro ⟨low, high⟩
  have low : 65 ≤ character.toNat := low
  have high : character.toNat ≤ 90 := high
  simp [Blank.isBlank, Blank.ranges] at blank
  omega

theorem ofName?_eq_some_iff {text : String} {format : OutputFormat} :
    OutputFormat.ofName? text = some format ↔ text = format.name := by
  constructor
  · intro found
    unfold OutputFormat.ofName? at found
    have same := List.find?_some found
    exact (of_decide_eq_true same).symm
  · rintro rfl
    cases format <;> decide

theorem not_isBlank_of_mem_name (format : OutputFormat) :
    forall letter, letter ∈ format.name.toList -> Blank.isBlank letter = false := by
  have visible : (format.name.toList.all fun letter => !Blank.isBlank letter) = true := by
    cases format <;> decide
  simpa only [Bool.not_eq_true'] using List.all_eq_true.mp visible

/-- A format is known from the texts that name it, and from no others. -/
theorem ofLoose?_eq_some_iff {text : String} {format : OutputFormat} :
    OutputFormat.ofLoose? text = some format ↔ NamesFormat text format := by
  rw [OutputFormat.ofLoose?, ofName?_eq_some_iff]
  constructor
  · intro name
    rcases Blank.exists_parts_trim text.toList with ⟨before, after, parts, blankBefore, blankAfter⟩
    refine ⟨before, _, after, parts, blankBefore, blankAfter, ?_⟩
    rw [← name, String.toList_ofList]
  · rintro ⟨before, word, after, parts, blankBefore, blankAfter, name⟩
    have visible : forall character, character ∈ word -> Blank.isBlank character = false := by
      intro character member
      cases blank : Blank.isBlank character with
      | false => rfl
      | true =>
          have lowered : character.toLower ∈ format.name.toList := name ▸ List.mem_map_of_mem member
          rw [toLower_of_isBlank blank] at lowered
          exact blank.symm.trans (not_isBlank_of_mem_name format character lowered)
    have nonempty : word ≠ [] := by
      rintro rfl
      cases format <;> cases name
    have leading : EndsRun Blank.isBlank word := endsRun_of_forall visible
    have trailing : EndsRun Blank.isBlank word.reverse :=
      endsRun_of_forall fun character member => visible character (List.mem_reverse.mp member)
    rw [parts, Blank.trim_append blankBefore blankAfter nonempty leading trailing, name,
      String.ofList_toList]

/-! ## Names of formats are plain -/

/-- The characters that a number starts with, if it is not a word. -/
def startsNumber (character : Char) : Bool :=
  Numeral.isDigit character || ['+', '-', '.'].contains character

theorem startsNumber_spec {character : Char} (starts : startsNumber character = true) :
    character.toLower = character ∧ Blank.isBlank character = false ∧ character ≠ 't' ∧
      character ≠ 'j' := by
  simp only [startsNumber, Bool.or_eq_true, List.contains_eq_mem, decide_eq_true_eq,
    List.mem_cons, List.not_mem_nil, or_false] at starts
  rcases starts with digit | rfl | rfl | rfl
  · refine ⟨toLower_of_isDigit digit, ?_, Numeral.ne_of_isDigit digit (by decide),
      Numeral.ne_of_isDigit digit (by decide)⟩
    have bounds := (Numeral.isDigit_iff character).mp digit
    simp [Blank.isBlank, Blank.ranges]
    omega
  all_goals decide

theorem word?_of_head {first : Char} (outside : startsNumber first = false) (later : List Char) :
    Numeral.word? (first :: later) = none := by
  simp [startsNumber] at outside
  rcases outside with ⟨noDigit, noPlus, noMinus, -⟩
  have unread : Numeral.integer? (first :: later) = none := by
    rw [Numeral.integer?]
    · simp [Numeral.natural?, noDigit]
    · rintro rest same
      exact noPlus (List.cons.inj same).1
    · rintro rest same
      exact noMinus (List.cons.inj same).1
  rw [Numeral.word?, unread]
  rfl

/-- The words for numbers. -/
def numberWords : List String := ["inf", "infinity", "nan"]

theorem float?_of_head {first : Char} {later : List Char} (outside : startsNumber first = false)
    (noWord : forall word, word ∈ numberWords ->
      (first :: later).map Char.toLower ≠ word.toList) :
    Decimal.float? (first :: later) = none := by
  simp [startsNumber] at outside
  rcases outside with ⟨noDigit, noPlus, noMinus, noPoint⟩
  have written : Decimal.written? (first :: later) = none := by
    rw [Decimal.written?, List.takeWhile_cons, List.dropWhile_cons, noDigit,
      if_neg Bool.false_ne_true, if_neg Bool.false_ne_true]
    split
    · next same => exact absurd (List.cons.inj same).1 noPoint
    · rfl
  have lowered (word : String) (member : word ∈ numberWords) :
      String.ofList ((first :: later).map Char.toLower) ≠ word := by
    rintro rfl
    exact noWord _ member (String.toList_ofList ..).symm
  have unread : Decimal.unsigned? (first :: later) = none := by
    unfold Decimal.unsigned?
    rw [written]
    generalize String.ofList ((first :: later).map Char.toLower) = lower at lowered
    simp [lowered "inf" (by decide), lowered "infinity" (by decide), lowered "nan" (by decide)]
  rw [Decimal.float?]
  · exact unread
  · rintro rest same
    exact noPlus (List.cons.inj same).1
  · rintro rest same
    exact noMinus (List.cons.inj same).1

/-- A word is plain when it cannot start a number and is not one of the words for truth values
and numbers. -/
theorem isPlain_of_head {text : String} {first : Char} {later : List Char}
    (starts : text.toList = first :: later) (outside : startsNumber first = false)
    (noWord : forall word, word ∈ ["true", "false"] ++ numberWords ->
      text.toList.map Char.toLower ≠ word.toList) : IsPlain text := by
  refine ⟨fun value => ?_, ?_, ?_⟩
  · cases value with
    | true => exact noWord "true" (by decide)
    | false => exact noWord "false" (by decide)
  · rw [starts]
    exact word?_of_head outside later
  · rw [starts] at noWord ⊢
    exact float?_of_head outside fun word member => noWord word (List.mem_append_right _ member)

theorem NamesFormat.exists_head {text : String} {format : OutputFormat}
    (names : NamesFormat text format) :
    Exists fun first => Exists fun later =>
      text.toList = first :: later ∧ startsNumber first = false := by
  rcases names with ⟨before, word, after, parts, blankBefore, -, name⟩
  cases before with
  | cons first before =>
      refine ⟨first, _, parts, ?_⟩
      have blank := blankBefore first List.mem_cons_self
      cases starts : startsNumber first with
      | false => rfl
      | true => cases (startsNumber_spec starts).2.1.symm.trans blank
  | nil =>
      cases word with
      | nil => cases format <;> cases name
      | cons first word =>
          refine ⟨first, _, parts, ?_⟩
          cases starts : startsNumber first with
          | false => rfl
          | true =>
              rcases startsNumber_spec starts with ⟨same, -, notT, notJ⟩
              rw [List.map_cons, same] at name
              cases format with
              | tree => exact absurd (List.cons.inj name).1 notT
              | json => exact absurd (List.cons.inj name).1 notJ

theorem NamesFormat.isInfix {text : String} {format : OutputFormat}
    (names : NamesFormat text format) :
    format.name.toList <:+: text.toList.map Char.toLower := by
  rcases names with ⟨before, word, after, parts, -, -, name⟩
  rw [parts, ← name]
  simp only [List.map_append]
  exact List.infix_append _ _ _

/-- The name of a format is part of no word that could be taken for something else. -/
theorem not_name_isInfix (format : OutputFormat) :
    forall word, word ∈ ["true", "false"] ++ numberWords ->
      ¬ format.name.toList <:+: word.toList := by
  cases format <;> decide +kernel

theorem NamesFormat.isPlain {text : String} {format : OutputFormat}
    (names : NamesFormat text format) : IsPlain text := by
  rcases names.exists_head with ⟨first, later, starts, outside⟩
  refine isPlain_of_head starts outside fun word member same => ?_
  exact not_name_isInfix format word member (same ▸ names.isInfix)

/-! ## Parts between commas -/

theorem splitFrom_append {between : Char} {part : List Char} (absent : between ∉ part)
    (run rest : List Char) :
    splitFrom between run (part ++ between :: rest) =
        String.ofList (run.reverse ++ part) :: splitFrom between [] rest ∧
      splitFrom between run part = [String.ofList (run.reverse ++ part)] := by
  induction part generalizing run with
  | nil => simp [splitFrom]
  | cons first part inductionHypothesis =>
      rw [List.mem_cons, not_or] at absent
      have different : first ≠ between := Ne.symm absent.1
      rcases inductionHypothesis absent.2 (first :: run) with ⟨more, last⟩
      simp only [List.reverse_cons, List.append_assoc, List.singleton_append] at more last
      simp [splitFrom, different, more, last]

/-- The parts of a text are found between its commas. -/
theorem splitCommas_eq {text : String} {parts : List String} (hasParts : HasParts text parts) :
    splitCommas text = parts := by
  rcases hasParts with ⟨nonempty, noComma, rfl⟩
  rw [splitCommas, String.toList_intercalate]
  induction parts with
  | nil => exact absurd rfl nonempty
  | cons part parts inductionHypothesis =>
      rw [List.forall_mem_cons] at noComma
      cases parts with
      | nil =>
          have single := (splitFrom_append noComma.1 [] []).2
          simpa using single
      | cons second parts =>
          have others := inductionHypothesis (List.cons_ne_nil _ _) noComma.2
          have split := (splitFrom_append noComma.1 []
            (",".toList.intercalate ((second :: parts).map String.toList))).1
          rw [others] at split
          rw [List.map_cons, List.map_cons, List.intercalate_cons_cons, ← List.map_cons]
          simpa using split

theorem splitFrom_hasParts {run : List Char} (noComma : ',' ∉ run) (rest : List Char) :
    HasParts (String.ofList (run.reverse ++ rest)) (splitFrom ',' run rest) := by
  induction rest generalizing run with
  | nil =>
      have only : ',' ∉ (String.ofList run.reverse).toList := by
        simpa using noComma
      exact ⟨List.cons_ne_nil _ _, List.forall_mem_singleton.mpr only, by simp [splitFrom]⟩
  | cons first rest inductionHypothesis =>
      unfold splitFrom
      split
      · next comma =>
          subst first
          rcases inductionHypothesis (List.not_mem_nil (a := ',')) with ⟨nonempty, without, joined⟩
          have front : ',' ∉ (String.ofList run.reverse).toList := by
            simpa using noComma
          refine ⟨List.cons_ne_nil _ _, List.forall_mem_cons.mpr ⟨front, without⟩, ?_⟩
          have comma : "," = String.ofList [','] := rfl
          rw [String.intercalate_cons_of_ne_nil nonempty, joined, comma, ← String.ofList_append,
            ← String.ofList_append]
          simp
      · next other =>
          have longer : ',' ∉ first :: run := by
            rw [List.mem_cons, not_or]
            exact ⟨Ne.symm other, noComma⟩
          simpa using inductionHypothesis longer

/-- Every text has parts, and they are those found. -/
theorem hasParts_splitCommas (text : String) : HasParts text (splitCommas text) := by
  have parts := splitFrom_hasParts (List.not_mem_nil (a := ',')) text.toList
  rwa [List.reverse_nil, List.nil_append, String.ofList_toList] at parts

end Environment
end Guidebook
