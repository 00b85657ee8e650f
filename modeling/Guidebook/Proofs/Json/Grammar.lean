import Guidebook.Proofs.Json.Lexeme

namespace Guidebook
namespace Json

/-!
# Well-formed texts

A value is written in many ways: with blanks between its parts, with any escapes, and
with numbers in any form.  What is well formed is told here by how a text is put
together, without a reader and without the value that it stands for.  So a number may be
too great to be read, an escape may name half a character, and a name may stand in an
object twice.

Only the brackets that stand open at once are counted.
-/

/-! ## Words, numbers and texts -/

/-- The words that are values. -/
def words : List (List Char) :=
  [['n', 'u', 'l', 'l'], ['t', 'r', 'u', 'e'], ['f', 'a', 'l', 's', 'e']]

/-- Only digits stand in a text. -/
def AllDigits (text : List Char) : Prop :=
  forall character, character ∈ text -> Numeral.isDigit character = true

/-- The digits before the point: a zero stands in front of no other. -/
inductive IsWhole : List Char -> Prop
  | zero : IsWhole ['0']
  | digits {first : Char} {later : List Char} (decimal : AllDigits (first :: later))
      (nonzero : first ≠ '0') : IsWhole (first :: later)

/-- Nothing, or a point and digits. -/
inductive IsFraction : List Char -> Prop
  | absent : IsFraction []
  | digits {first : Char} {later : List Char} (decimal : AllDigits (first :: later)) :
      IsFraction ('.' :: first :: later)

/-- Nothing, or the letter of an exponent, a sign or none, and digits. -/
inductive IsExponent : List Char -> Prop
  | absent : IsExponent []
  | digits {letter first : Char} {sign later : List Char} (known : letter = 'e' ∨ letter = 'E')
      (signed : sign ∈ [[], ['+'], ['-']]) (decimal : AllDigits (first :: later)) :
      IsExponent (letter :: (sign ++ first :: later))

/-- A number without its sign. -/
inductive IsUnsigned : List Char -> Prop
  | mk {whole fraction exponent : List Char} (isWhole : IsWhole whole)
      (isFraction : IsFraction fraction) (isExponent : IsExponent exponent) :
      IsUnsigned (whole ++ (fraction ++ exponent))

/-- The letters of the escapes that have no number. -/
def escapedLetters : List Char := ['"', '\\', '/', 'b', 'f', 'n', 'r', 't']

/-- The digits of a numbered escape, of either case. -/
def isHexDigit (character : Char) : Bool :=
  Numeral.isDigit character || ('a' ≤ character && character ≤ 'f')
    || ('A' ≤ character && character ≤ 'F')

/-- What may stand between quotes. -/
inductive IsQuoted : List Char -> Prop
  | nil : IsQuoted []
  | plain {character : Char} {rest : List Char} (printable : ¬ character.toNat < 0x20)
      (noQuote : character ≠ '"') (noBackslash : character ≠ '\\') (later : IsQuoted rest) :
      IsQuoted (character :: rest)
  | escaped {letter : Char} {rest : List Char} (known : letter ∈ escapedLetters)
      (later : IsQuoted rest) : IsQuoted ('\\' :: letter :: rest)
  | numbered {first second third fourth : Char} {rest : List Char}
      (hex : forall digit, digit ∈ [first, second, third, fourth] -> isHexDigit digit = true)
      (later : IsQuoted rest) :
      IsQuoted ('\\' :: 'u' :: first :: second :: third :: fourth :: rest)

/-! ## Values -/

/-- Items behind a first one, each behind a comma, with what follows them.  An item is
put in front of what follows it. -/
def following {Item : Type} (onto : Item -> List Char -> List Char) :
    List Item -> List Char -> List Char
  | [], left => left
  | first :: rest, left => ',' :: onto first (following onto rest left)

/-- A value between brackets, with what stands on either side of it. -/
structure Element where
  before : List Char
  value : List Char
  after : List Char

/-- Only blanks stand on either side. -/
structure Element.Spaced (element : Element) : Prop where
  before : Blanks element.before
  after : Blanks element.after

/-- The element in front of what follows it. -/
def Element.onto (element : Element) (left : List Char) : List Char :=
  element.before ++ (element.value ++ (element.after ++ left))

/-- A name with its value, and what stands on either side of the name. -/
structure Field where
  before : List Char
  name : List Char
  behind : List Char
  element : Element

/-- The name may stand between quotes, and only blanks stand around it and the value. -/
structure Field.Spaced (field : Field) : Prop where
  before : Blanks field.before
  name : IsQuoted field.name
  behind : Blanks field.behind
  element : field.element.Spaced

/-- The field in front of what follows it. -/
def Field.onto (field : Field) (left : List Char) : List Char :=
  field.before ++ '"' :: (field.name ++ '"' :: (field.behind ++ ':' :: field.element.onto left))

/-- A well-formed value, with at most so many brackets open at once. -/
inductive WellFormed : (nesting : Nat) -> List Char -> Prop
  | word {nesting : Nat} {letters : List Char} (known : letters ∈ words) :
      WellFormed nesting letters
  | number {nesting : Nat} {sign digits : List Char} (signed : sign ∈ [[], ['-']])
      (unsigned : IsUnsigned digits) : WellFormed nesting (sign ++ digits)
  | text {nesting : Nat} {inside : List Char} (quoted : IsQuoted inside) :
      WellFormed nesting ('"' :: (inside ++ ['"']))
  | emptyList {nesting : Nat} {blanks : List Char} (blank : Blanks blanks) :
      WellFormed (nesting + 1) ('[' :: (blanks ++ [']']))
  | list {nesting : Nat} {first : Element} {rest : List Element}
      (spaced : forall element, element ∈ first :: rest -> element.Spaced)
      (each : forall element, element ∈ first :: rest -> WellFormed nesting element.value) :
      WellFormed (nesting + 1) ('[' :: first.onto (following Element.onto rest [']']))
  | emptyObject {nesting : Nat} {blanks : List Char} (blank : Blanks blanks) :
      WellFormed (nesting + 1) ('\x7b' :: (blanks ++ ['\x7d']))
  | object {nesting : Nat} {first : Field} {rest : List Field}
      (spaced : forall field, field ∈ first :: rest -> field.Spaced)
      (each : forall field, field ∈ first :: rest -> WellFormed nesting field.element.value) :
      WellFormed (nesting + 1) ('\x7b' :: first.onto (following Field.onto rest ['\x7d']))

/-! ## Items with what follows them -/

theorem Element.onto_append (element : Element) (left more : List Char) :
    element.onto left ++ more = element.onto (left ++ more) := by
  simp only [onto, List.append_assoc]

theorem Field.onto_append (field : Field) (left more : List Char) :
    field.onto left ++ more = field.onto (left ++ more) := by
  simp only [onto, List.append_assoc, List.cons_append, Element.onto_append]

section Following

variable {Item : Type} {onto : Item -> List Char -> List Char}

theorem following_append (each : forall item left more, onto item left ++ more =
    onto item (left ++ more)) (items : List Item) (left more : List Char) :
    following onto items left ++ more = following onto items (left ++ more) := by
  induction items with
  | nil => rfl
  | cons first rest inductionHypothesis =>
      rw [following, List.cons_append, each, inductionHypothesis]
      rfl

/-- Every item takes its comma at least. -/
theorem length_le_following (each : forall item left, left.length ≤ (onto item left).length)
    (items : List Item) (left : List Char) :
    items.length + left.length ≤ (following onto items left).length := by
  induction items with
  | nil => exact Nat.le_of_eq (Nat.zero_add _)
  | cons first rest inductionHypothesis =>
      have longer := each first (following onto rest left)
      rw [following, List.length_cons, List.length_cons]
      omega

/-- A number ends where blanks, a comma or a closing bracket follows. -/
theorem endsRun_following {after : List Char} (blank : Blanks after) (items : List Item)
    {closes : Char} (outside : continuesNumber closes = false) (left : List Char) :
    EndsRun continuesNumber (after ++ following onto items (closes :: left)) := by
  cases items with
  | nil => exact endsRun_blanks blank (endsRun_cons outside)
  | cons first rest => exact endsRun_blanks blank (endsRun_cons rfl)

end Following

theorem Element.Spaced.ends {element : Element} (spaced : element.Spaced) (rest : List Element)
    (left : List Char) :
    EndsRun continuesNumber (element.after ++ following Element.onto rest (']' :: left)) :=
  endsRun_following spaced.after rest rfl left

theorem Field.Spaced.ends {field : Field} (spaced : field.Spaced) (rest : List Field)
    (left : List Char) :
    EndsRun continuesNumber (field.element.after ++ following Field.onto rest ('\x7d' :: left)) :=
  endsRun_following spaced.element.after rest rfl left

theorem Element.length_le_onto (element : Element) (left : List Char) :
    left.length ≤ (element.onto left).length := by
  simp only [onto, List.length_append]
  omega

theorem Field.length_element_le (field : Field) (left : List Char) :
    (field.element.onto left).length ≤ (field.onto left).length := by
  simp only [onto, List.length_append, List.length_cons]
  omega

theorem Field.length_le_onto (field : Field) (left : List Char) :
    left.length ≤ (field.onto left).length :=
  Nat.le_trans (field.element.length_le_onto left) (field.length_element_le left)

/-! ## How values start -/

/-- A character that is neither blank nor opens or closes anything. -/
structure StandsAlone (character : Char) : Prop where
  visible : isBlank character = false
  noText : character ≠ '"'
  noList : character ≠ '['
  noObject : character ≠ '\x7b'
  noEnd : character ≠ ']'

theorem standsAlone_of_isDigit {character : Char} (decimal : Numeral.isDigit character = true) :
    StandsAlone character where
  visible := isBlank_of_isDigit decimal
  noText := Numeral.ne_of_isDigit decimal (by decide)
  noList := Numeral.ne_of_isDigit decimal (by decide)
  noObject := Numeral.ne_of_isDigit decimal (by decide)
  noEnd := Numeral.ne_of_isDigit decimal (by decide)

/-- A number starts with a digit, apart from its sign. -/
theorem IsUnsigned.exists_first {digits : List Char} (unsigned : IsUnsigned digits) :
    Exists fun first => Exists fun rest => digits = first :: rest ∧
      Numeral.isDigit first = true := by
  cases unsigned with
  | mk isWhole isFraction isExponent =>
      cases isWhole with
      | zero => exact ⟨'0', _, rfl, rfl⟩
      | digits decimal nonzero => exact ⟨_, _, rfl, decimal _ List.mem_cons_self⟩

theorem exists_first_of_word {letters : List Char} (known : letters ∈ words) :
    Exists fun first => Exists fun rest => letters = first :: rest ∧ StandsAlone first := by
  simp only [words, List.mem_cons, List.not_mem_nil, or_false] at known
  rcases known with rfl | rfl | rfl
  all_goals exact ⟨_, _, rfl, by decide, by decide, by decide, by decide, by decide⟩

theorem exists_first_of_number {sign digits : List Char} (signed : sign ∈ [[], ['-']])
    (unsigned : IsUnsigned digits) :
    Exists fun first => Exists fun rest => sign ++ digits = first :: rest ∧ StandsAlone first := by
  simp only [List.mem_cons, List.not_mem_nil, or_false] at signed
  rcases signed with rfl | rfl
  · rcases unsigned.exists_first with ⟨first, rest, rfl, decimal⟩
    exact ⟨first, rest, rfl, standsAlone_of_isDigit decimal⟩
  · exact ⟨'-', digits, rfl, by decide, by decide, by decide, by decide, by decide⟩

theorem WellFormed.startsValue {nesting : Nat} {text : List Char}
    (wellFormed : WellFormed nesting text) : StartsValue text := by
  cases wellFormed with
  | word known =>
      rcases exists_first_of_word known with ⟨first, rest, starts, alone⟩
      exact ⟨first, rest, starts, alone.visible, alone.noEnd⟩
  | number signed unsigned =>
      rcases exists_first_of_number signed unsigned with ⟨first, rest, starts, alone⟩
      exact ⟨first, rest, starts, alone.visible, alone.noEnd⟩
  | text quoted => exact ⟨'"', _, rfl, by decide, by decide⟩
  | emptyList blank => exact ⟨'[', _, rfl, by decide, by decide⟩
  | list spaced each => exact ⟨'[', _, rfl, by decide, by decide⟩
  | emptyObject blank => exact ⟨'\x7b', _, rfl, by decide, by decide⟩
  | object spaced each => exact ⟨'\x7b', _, rfl, by decide, by decide⟩

end Json
end Guidebook
