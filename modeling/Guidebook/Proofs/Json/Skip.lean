import Guidebook.Json.Skip
import Guidebook.Proofs.Json.Grammar

namespace Guidebook
namespace Json

/-!
# Well-formed values are passed over

Passing over a value keeps nothing but the brackets that stand open, so a well-formed
value is passed over however deep it is nested, and whatever its numbers and escapes
stand for.  It is passed over as such, with what follows it left, as long as that does
not go on with a number.
-/

theorem endsRun_isDigit {left : List Char} (ends : EndsRun continuesNumber left) :
    EndsRun Numeral.isDigit left := by
  intro character leads
  have outside := ends character leads
  simp only [continuesNumber, Bool.or_eq_false_iff] at outside
  exact outside.1.1.1

namespace Skip

/-! ## Numbers -/

section Numbers

variable {first : Char} {sign later exponent fraction whole digits left : List Char}

theorem exponentDigits_append (decimal : AllDigits (first :: later))
    (ends : EndsRun Numeral.isDigit left) :
    exponentDigits (first :: (later ++ left)) = .ok ((), left) := by
  rw [AllDigits, List.forall_mem_cons] at decimal
  rw [exponentDigits, if_pos decimal.1, dropWhile_run decimal.2 ends]

theorem exponent_of_sign (signed : sign ∈ [[], ['+'], ['-']])
    (decimal : Numeral.isDigit first = true) :
    Skip.exponent (sign ++ first :: later) = exponentDigits (first :: later) := by
  simp only [List.mem_cons, List.not_mem_nil, or_false] at signed
  rcases signed with rfl | rfl | rfl
  · rw [List.nil_append, Skip.exponent]
    · rintro text same
      exact Numeral.ne_of_isDigit decimal (by decide) (List.cons.inj same).1
    · rintro text same
      exact Numeral.ne_of_isDigit decimal (by decide) (List.cons.inj same).1
  · rfl
  · rfl

theorem ended_append (isExponent : IsExponent exponent)
    (ends : EndsRun continuesNumber left) : ended (exponent ++ left) = .ok ((), left) := by
  cases isExponent with
  | absent =>
      have noExponent : Number.exponentNext left = false := by
        cases left with
        | nil => rfl
        | cons character rest =>
            have outside := ends character rfl
            simp only [continuesNumber, Bool.or_eq_false_iff] at outside
            rw [Number.exponentNext, outside.1.2, outside.2]
            rfl
      rw [List.nil_append, ended, noExponent, if_neg Bool.false_ne_true]
  | @digits letter first sign later known signed decimal =>
      have next : Number.exponentNext (letter :: (sign ++ first :: (later ++ left))) = true := by
        rcases known with rfl | rfl <;> rfl
      have split : letter :: (sign ++ first :: later) ++ left =
          letter :: (sign ++ first :: (later ++ left)) := by simp
      rw [split, ended, next, if_pos rfl, List.drop_succ_cons, List.drop_zero,
        exponent_of_sign signed (decimal first List.mem_cons_self)]
      exact exponentDigits_append decimal (endsRun_isDigit ends)

/-- What follows the digits of a fraction is neither a digit nor a point. -/
theorem endsRun_exponent {inRun : Char -> Bool} (isExponent : IsExponent exponent)
    (ends : EndsRun inRun left) (small : inRun 'e' = false) (large : inRun 'E' = false) :
    EndsRun inRun (exponent ++ left) := by
  cases isExponent with
  | absent => exact ends
  | digits known _ _ =>
      rcases known with rfl | rfl
      · exact endsRun_cons small
      · exact endsRun_cons large

theorem endsRun_fraction (isFraction : IsFraction fraction)
    (ends : EndsRun Numeral.isDigit left) : EndsRun Numeral.isDigit (fraction ++ left) := by
  cases isFraction with
  | absent => exact ends
  | digits decimal => exact endsRun_cons (by decide)

theorem rest_append (isFraction : IsFraction fraction) (isExponent : IsExponent exponent)
    (ends : EndsRun continuesNumber left) :
    rest (fraction ++ (exponent ++ left)) = .ok ((), left) := by
  cases isFraction with
  | absent =>
      have point : EndsRun (· == '.') left := by
        intro character leads
        have outside := ends character leads
        simp only [continuesNumber, Bool.or_eq_false_iff] at outside
        exact outside.1.1.2
      have noPoint := endsRun_exponent isExponent point (by decide) (by decide)
      rw [List.nil_append, rest, ended_append isExponent ends]
      intro text same
      cases noPoint '.' (congrArg List.head? same)
  | @digits first later decimal =>
      have behind := endsRun_exponent isExponent (endsRun_isDigit ends) (by decide) (by decide)
      have next : Number.digitNext (first :: (later ++ (exponent ++ left))) = true :=
        decimal first List.mem_cons_self
      have split : '.' :: first :: later ++ (exponent ++ left) =
          '.' :: first :: (later ++ (exponent ++ left)) := rfl
      have dropped : (first :: later ++ (exponent ++ left)).dropWhile Numeral.isDigit =
          exponent ++ left := dropWhile_run decimal behind
      rw [List.cons_append] at dropped
      rw [split, rest, next, if_pos rfl, dropped, ended_append isExponent ends]

theorem unsigned_append (isUnsigned : IsUnsigned digits) (ends : EndsRun continuesNumber left) :
    unsigned (digits ++ left) = .ok ((), left) := by
  cases isUnsigned with
  | @mk whole fraction exponent isWhole isFraction isExponent =>
      have behind := endsRun_fraction isFraction
        (endsRun_exponent isExponent (endsRun_isDigit ends) (by decide) (by decide))
      have passed := rest_append isFraction isExponent ends
      rw [List.append_assoc, List.append_assoc]
      cases isWhole with
      | zero =>
          have noDigit : Number.digitNext (fraction ++ (exponent ++ left)) = false := by
            cases following : fraction ++ (exponent ++ left) with
            | nil => rfl
            | cons character rest => exact behind character (by rw [following]; rfl)
          rw [List.singleton_append, unsigned, noDigit, if_neg Bool.false_ne_true, passed]
      | @digits first later decimal nonzero =>
          rw [AllDigits, List.forall_mem_cons] at decimal
          rw [List.cons_append, unsigned, if_pos decimal.1, dropWhile_run decimal.2 behind, passed]
          exact nonzero

end Numbers

/-! ## Texts -/

theorem hexValue?_of_isHexDigit {digit : Char} (hex : isHexDigit digit = true) :
    Exists fun value => Numeral.hexValue? digit = some value := by
  unfold Numeral.hexValue?
  simp only [isHexDigit, Bool.or_eq_true] at hex
  split
  · exact ⟨_, rfl⟩
  · next noDigit =>
      split
      · exact ⟨_, rfl⟩
      · next noSmall =>
          rw [if_pos ((hex.resolve_left (not_or.mpr ⟨noDigit, noSmall⟩)))]
          exact ⟨_, rfl⟩

end Skip

/-- Four hexadecimal digits write a number, whatever follows them. -/
theorem exists_hexWord {first second third fourth : Char}
    (hex : forall digit, digit ∈ [first, second, third, fourth] -> isHexDigit digit = true) :
    Exists fun number => forall left,
      hexWord (first :: second :: third :: fourth :: left) = .ok (number, left) := by
  simp only [List.forall_mem_cons] at hex
  rcases Skip.hexValue?_of_isHexDigit hex.1 with ⟨a, firstValue⟩
  rcases Skip.hexValue?_of_isHexDigit hex.2.1 with ⟨b, secondValue⟩
  rcases Skip.hexValue?_of_isHexDigit hex.2.2.1 with ⟨c, thirdValue⟩
  rcases Skip.hexValue?_of_isHexDigit hex.2.2.2.1 with ⟨d, fourthValue⟩
  exact ⟨_, fun left => by simp only [hexWord, firstValue, secondValue, thirdValue, fourthValue]; rfl⟩

/-- The letter of an escape stands for a character, and is not that of a numbered escape. -/
theorem exists_escaped {letter : Char} (known : letter ∈ escapedLetters) :
    letter ≠ 'u' ∧ Exists fun character => escaped? letter = some character := by
  simp only [escapedLetters, List.mem_cons, List.not_mem_nil, or_false] at known
  rcases known with rfl | rfl | rfl | rfl | rfl | rfl | rfl | rfl
  all_goals exact ⟨by decide, _, rfl⟩

namespace Skip

theorem charactersFrom_append {inside : List Char} (isQuoted : IsQuoted inside)
    {clock : List Char} (long : inside.length < clock.length) (left : List Char) :
    charactersFrom clock (inside ++ '"' :: left) = .ok ((), left) := by
  induction isQuoted generalizing clock with
  | nil =>
      cases clock with
      | nil => cases long
      | cons tick clock => rfl
  | @plain character rest printable noQuote noBackslash _ inductionHypothesis =>
      cases clock with
      | nil => cases long
      | cons tick clock =>
          rw [List.cons_append, charactersFrom, if_neg printable]
          · exact inductionHypothesis (Nat.lt_of_succ_lt_succ long)
          · exact noQuote
          · exact noBackslash
  | @escaped letter rest known _ inductionHypothesis =>
      cases clock with
      | nil => cases long
      | cons tick clock =>
          rcases exists_escaped known with ⟨notNumbered, character, escapes⟩
          have passed : escape (letter :: (rest ++ '"' :: left)) =
              .ok ((), rest ++ '"' :: left) := by
            rw [escape, escapes]
            exact notNumbered
          simp only [List.length_cons] at long
          simp only [List.cons_append, charactersFrom, passed]
          exact inductionHypothesis (by omega)
  | @numbered first second third fourth rest hex _ inductionHypothesis =>
      cases clock with
      | nil => cases long
      | cons tick clock =>
          rcases exists_hexWord hex with ⟨number, read⟩
          have passed : escape ('u' :: first :: second :: third :: fourth ::
              (rest ++ '"' :: left)) = .ok ((), rest ++ '"' :: left) := by
            rw [escape, read]
            rfl
          simp only [List.length_cons] at long
          simp only [List.cons_append, charactersFrom, passed]
          exact inductionHypothesis (by omega)

theorem quoted_append {inside : List Char} (isQuoted : IsQuoted inside) (left : List Char) :
    quoted (inside ++ '"' :: left) = .ok ((), left) := by
  refine charactersFrom_append isQuoted ?_ left
  rw [List.length_append, List.length_cons]
  omega

/-! ## Steps -/

section Steps

variable {text left : List Char} {bracket : Bracket} {brackets : List Bracket}

theorem name_append {field : Field} (spaced : field.Spaced) (left : List Char) :
    name (field.onto left) = .ok ((), field.element.onto left) := by
  rw [name, Field.onto, afterBlanks_append spaced.before, afterBlanks_cons rfl]
  simp only [quoted_append spaced.name]
  rw [afterBlanks_append spaced.behind, afterBlanks_cons rfl]
  rfl

/-- One step passes over a value that is no bracket. -/
theorem value_of_scalar {before : List Char} (blank : Blanks before) (starts : StartsValue text)
    (passed : scalar? (text ++ left) = some (.ok ((), left))) (brackets : List Bracket) :
    value brackets (before ++ (text ++ left)) = .ok ((.separator, brackets), left) := by
  rcases starts with ⟨first, rest, rfl, visible, _⟩
  have dropped : afterBlanks (before ++ (first :: rest ++ left)) = first :: rest ++ left := by
    rw [afterBlanks_append blank, List.cons_append, afterBlanks_cons visible]
  rw [value, dropped]
  simp only [passed]
  rfl

/-- One step opens a bracket. -/
theorem value_of_bracket {before : List Char} (blank : Blanks before) {character : Char}
    (opens : character = '[' ∨ character = '\x7b') (brackets : List Bracket) (left : List Char) :
    value brackets (before ++ character :: left) =
      opening (Bracket.openedBy character) brackets left := by
  have visible : isBlank character = false := by rcases opens with rfl | rfl <;> rfl
  have noScalar : scalar? (character :: left) = none := by rcases opens with rfl | rfl <;> rfl
  rw [value, afterBlanks_append blank, afterBlanks_cons visible]
  simp only [noScalar]
  rfl

theorem opening_end {blanks : List Char} (blank : Blanks blanks) {character : Char}
    (closes : Bracket.closedBy? character = some bracket) (visible : isBlank character = false)
    (brackets : List Bracket) (left : List Char) :
    opening bracket brackets (blanks ++ character :: left) =
      .ok ((.separator, brackets), left) := by
  rw [opening, afterBlanks_append blank, afterBlanks_cons visible]
  simp only [closes, if_true]

theorem separator_end {blanks : List Char} (blank : Blanks blanks) {character : Char}
    (closes : Bracket.closedBy? character = some bracket) (visible : isBlank character = false)
    (brackets : List Bracket) (left : List Char) :
    separator bracket brackets (blanks ++ character :: left) =
      .ok ((.separator, brackets), left) := by
  have noComma : character ≠ ',' := by
    rintro rfl
    cases closes
  rw [separator, afterBlanks_append blank, afterBlanks_cons visible]
  simp only [closes, if_true]

theorem opening_list {first : Element} (spaced : first.Spaced)
    (starts : StartsValue first.value) (brackets : List Bracket) (left : List Char) :
    opening .list brackets (first.onto left) =
      .ok ((.value, .list :: brackets), first.value ++ (first.after ++ left)) := by
  rcases starts with ⟨character, rest, value, visible, notEnd⟩
  have notClosed : Bracket.closedBy? character ≠ some .list := by
    unfold Bracket.closedBy?
    split <;> simp_all
  rw [opening, Element.onto, afterBlanks_append spaced.before, value, List.cons_append,
    afterBlanks_cons visible]
  simp only [if_neg notClosed]
  rfl

theorem opening_object {first : Field} (spaced : first.Spaced) (brackets : List Bracket)
    (left : List Char) :
    opening .object brackets (first.onto left) =
      .ok ((.value, .object :: brackets), first.element.onto left) := by
  have bare : Field.Spaced { first with before := [] } :=
    ⟨blanks_nil, spaced.name, spaced.behind, spaced.element⟩
  have named := name_append bare left
  rw [opening, Field.onto, afterBlanks_append spaced.before, afterBlanks_cons rfl]
  simp only [Bracket.closedBy?, nameIn]
  exact congrArg (Except.map _) named

theorem separator_comma {blanks : List Char} (blank : Blanks blanks)
    (named : nameIn bracket text = .ok ((), left)) (brackets : List Bracket) :
    separator bracket brackets (blanks ++ ',' :: text) =
      .ok ((.value, bracket :: brackets), left) := by
  rw [separator, afterBlanks_append blank, afterBlanks_cons rfl]
  simp only [named]
  rfl

end Steps

/-! ## Runs -/

/-- With a clock that is long enough a value is passed over, with any brackets open. -/
def Passes (text : List Char) : Prop :=
  forall (clock before left : List Char) (brackets : List Bracket),
    Blanks before -> EndsRun continuesNumber left ->
    (before ++ (text ++ left)).length ≤ clock.length ->
    Exists fun further => left.length ≤ further.length ∧
      passFrom clock .value brackets (before ++ (text ++ left)) =
        passFrom further .separator brackets left

theorem passFrom_value {tick : Char} {clock text left : List Char} {due : Due}
    {brackets opened : List Bracket} (step : value brackets text = .ok ((due, opened), left)) :
    passFrom (tick :: clock) .value brackets text = passFrom clock due opened left := by
  rw [passFrom, step]
  · rfl
  all_goals simp

theorem passFrom_separator {tick : Char} {clock text left : List Char} {due : Due}
    {bracket : Bracket} {brackets opened : List Bracket}
    (step : separator bracket brackets text = .ok ((due, opened), left)) :
    passFrom (tick :: clock) .separator (bracket :: brackets) text =
      passFrom clock due opened left := by
  rw [passFrom, step]
  rfl

theorem passes_of_scalar {text : List Char} (starts : StartsValue text)
    (passed : forall left, EndsRun continuesNumber left ->
      scalar? (text ++ left) = some (.ok ((), left))) : Passes text := by
  intro clock before left brackets blank ends long
  have step := value_of_scalar blank starts (passed left ends) brackets
  rcases starts with ⟨first, rest, rfl, _, _⟩
  simp only [List.length_append, List.length_cons] at long
  cases clock with
  | nil => simp at long
  | cons tick clock =>
      rw [List.length_cons] at long
      exact ⟨clock, by omega, passFrom_value step⟩

/-- A bracket with nothing but blanks inside is passed over. -/
theorem passes_of_empty {blanks : List Char} (blank : Blanks blanks) {opens closes : Char}
    (opening : opens = '[' ∨ opens = '\x7b')
    (closing : Bracket.closedBy? closes = some (Bracket.openedBy opens))
    (visible : isBlank closes = false) : Passes (opens :: (blanks ++ [closes])) := by
  intro clock before left brackets blankBefore ends long
  have text : opens :: (blanks ++ [closes]) ++ left = opens :: (blanks ++ closes :: left) := by simp
  rw [text] at long ⊢
  have step := (value_of_bracket blankBefore opening brackets (blanks ++ closes :: left)).trans
    (opening_end blank closing visible brackets left)
  simp only [List.length_append, List.length_cons] at long
  cases clock with
  | nil => simp at long
  | cons tick clock =>
      rw [List.length_cons] at long
      exact ⟨clock, by omega, passFrom_value step⟩

theorem scalar?_word {letters : List Char} (known : letters ∈ words) (left : List Char) :
    scalar? (letters ++ left) = some (.ok ((), left)) := by
  simp only [words, List.mem_cons, List.not_mem_nil, or_false] at known
  rcases known with rfl | rfl | rfl
  all_goals rfl

theorem scalar?_number {sign digits left : List Char} (signed : sign ∈ [[], ['-']])
    (isUnsigned : IsUnsigned digits) (ends : EndsRun continuesNumber left) :
    scalar? (sign ++ digits ++ left) = some (.ok ((), left)) := by
  have passed := unsigned_append isUnsigned ends
  simp only [List.mem_cons, List.not_mem_nil, or_false] at signed
  rcases signed with rfl | rfl
  · rcases isUnsigned.exists_first with ⟨first, rest, rfl, decimal⟩
    have other : forall letter, Numeral.isDigit letter = false -> first ≠ letter :=
      fun letter => Numeral.ne_of_isDigit decimal
    rw [List.cons_append] at passed
    simp [scalar?, decimal, passed, other 'n' (by decide), other 't' (by decide),
      other 'f' (by decide), other '"' (by decide), other '-' (by decide), other '[' (by decide),
      other '\x7b' (by decide)]
  · exact congrArg some passed

theorem scalar?_text {inside : List Char} (isQuoted : IsQuoted inside) (left : List Char) :
    scalar? ('"' :: (inside ++ ['"']) ++ left) = some (.ok ((), left)) := by
  rw [List.cons_append, List.append_assoc]
  exact congrArg some (quoted_append isQuoted left)

/-! ## Brackets with items in them -/

/-- How the items between two brackets are written, and what the steps make of an item:
one step passes over the name that it has, or over none, and leaves its value with the
blanks around it. -/
structure Items (Item : Type) where
  onto : Item -> List Char -> List Char
  element : Item -> Element
  Spaced : Item -> Prop
  opens : Char
  closes : Char
  onto_append : forall item left more, onto item left ++ more = onto item (left ++ more)
  length_le_onto : forall item left, ((element item).onto left).length ≤ (onto item left).length
  opening : opens = '[' ∨ opens = '\x7b'
  closing : Bracket.closedBy? closes = some (Bracket.openedBy opens)
  visible : isBlank closes = false
  outside : continuesNumber closes = false
  spaced : forall item, Spaced item -> (element item).Spaced
  named : forall item left, Spaced item ->
    nameIn (Bracket.openedBy opens) (onto item left) = .ok ((), (element item).onto left)
  /-- The step that opens the bracket may leave fewer blanks in front of the value. -/
  opened : forall item left brackets, Spaced item -> StartsValue (element item).value ->
    Exists fun blanks => Blanks blanks ∧ blanks.length ≤ (element item).before.length ∧
      Skip.opening (Bracket.openedBy opens) brackets (onto item left) =
        .ok ((.value, Bracket.openedBy opens :: brackets),
          blanks ++ ((element item).value ++ ((element item).after ++ left)))

/-- The elements of a list have no names. -/
def Items.list : Items Element where
  onto := Element.onto
  element := id
  Spaced := Element.Spaced
  opens := '['
  closes := ']'
  onto_append := Element.onto_append
  length_le_onto := fun _ _ => Nat.le_refl _
  opening := .inl rfl
  closing := rfl
  visible := rfl
  outside := rfl
  spaced := fun _ spaced => spaced
  named := fun _ _ _ => rfl
  opened := fun _ left brackets spaced starts =>
    ⟨[], blanks_nil, Nat.zero_le _, opening_list spaced starts brackets left⟩

def Items.object : Items Field where
  onto := Field.onto
  element := Field.element
  Spaced := Field.Spaced
  opens := '\x7b'
  closes := '\x7d'
  onto_append := Field.onto_append
  length_le_onto := Field.length_element_le
  opening := .inr rfl
  closing := rfl
  visible := rfl
  outside := rfl
  spaced := fun _ spaced => spaced.element
  named := fun _ left spaced => name_append spaced left
  opened := fun field left brackets spaced _ =>
    ⟨field.element.before, spaced.element.before, Nat.le_refl _,
      opening_object spaced brackets left⟩

section Items

variable {Item : Type} (shape : Items Item)

/-- The items behind a first one are passed over with the bracket that closes them. -/
theorem passFrom_following {items : List Item}
    (spaced : forall item, item ∈ items -> shape.Spaced item)
    (passes : forall item, item ∈ items -> Passes (shape.element item).value)
    {after clock : List Char} (blank : Blanks after) (brackets : List Bracket) (left : List Char)
    (long : (after ++ following shape.onto items (shape.closes :: left)).length ≤ clock.length) :
    Exists fun further => left.length ≤ further.length ∧
      passFrom clock .separator (Bracket.openedBy shape.opens :: brackets)
          (after ++ following shape.onto items (shape.closes :: left)) =
        passFrom further .separator brackets left := by
  induction items generalizing after clock with
  | nil =>
      simp only [following, List.length_append, List.length_cons] at long
      cases clock with
      | nil => simp at long
      | cons tick clock =>
          rw [List.length_cons] at long
          exact ⟨clock, by omega, passFrom_separator
            (separator_end blank shape.closing shape.visible brackets left)⟩
  | cons first rest inductionHypothesis =>
      rw [List.forall_mem_cons] at spaced passes
      have around := shape.spaced first spaced.1
      have step := separator_comma blank
        (shape.named first (following shape.onto rest (shape.closes :: left)) spaced.1) brackets
      have shorter := shape.length_le_onto first (following shape.onto rest (shape.closes :: left))
      cases clock with
      | nil => simp [following] at long
      | cons tick clock =>
          have enough : ((shape.element first).onto
              (following shape.onto rest (shape.closes :: left))).length ≤ clock.length := by
            simp only [following, List.length_append, List.length_cons] at long
            omega
          rw [following, passFrom_separator step]
          rcases passes.1 clock (shape.element first).before _
            (Bracket.openedBy shape.opens :: brackets) around.before
            (endsRun_following around.after rest shape.outside left) enough with
            ⟨further, enough, valuePassed⟩
          rcases inductionHypothesis spaced.2 passes.2 around.after enough with
            ⟨final, enough, restPassed⟩
          exact ⟨final, enough, valuePassed.trans restPassed⟩

/-- A bracket is passed over with the items in it. -/
theorem passes_of_items {first : Item} {rest : List Item}
    (spaced : forall item, item ∈ first :: rest -> shape.Spaced item)
    (starts : StartsValue (shape.element first).value)
    (passes : forall item, item ∈ first :: rest -> Passes (shape.element item).value) :
    Passes (shape.opens :: shape.onto first (following shape.onto rest [shape.closes])) := by
  intro clock before left brackets blank ends long
  have text : shape.opens :: shape.onto first (following shape.onto rest [shape.closes]) ++ left =
      shape.opens :: shape.onto first (following shape.onto rest (shape.closes :: left)) := by
    rw [List.cons_append, shape.onto_append, following_append shape.onto_append,
      List.singleton_append]
  rw [text] at long ⊢
  rw [List.forall_mem_cons] at spaced passes
  have around := shape.spaced first spaced.1
  rcases shape.opened first (following shape.onto rest (shape.closes :: left)) brackets spaced.1
    starts with ⟨blanks, blankInside, fewer, opened⟩
  have valueStep := (value_of_bracket blank shape.opening brackets _).trans opened
  have shorter := shape.length_le_onto first (following shape.onto rest (shape.closes :: left))
  simp only [Element.onto, List.length_append, List.length_cons] at long shorter
  cases clock with
  | nil => simp at long
  | cons tick clock =>
      rw [List.length_cons] at long
      have enough : (blanks ++ ((shape.element first).value ++ ((shape.element first).after ++
          following shape.onto rest (shape.closes :: left)))).length ≤ clock.length := by
        simp only [List.length_append]
        omega
      rcases passes.1 clock blanks _ (Bracket.openedBy shape.opens :: brackets) blankInside
        (endsRun_following around.after rest shape.outside left) enough with
        ⟨further, enough, valuePassed⟩
      rcases passFrom_following shape spaced.2 passes.2 around.after brackets left enough with
        ⟨final, enough, restPassed⟩
      exact ⟨final, enough, (passFrom_value valueStep).trans (valuePassed.trans restPassed)⟩

end Items

theorem passes_of_wellFormed {nesting : Nat} {text : List Char}
    (wellFormed : WellFormed nesting text) : Passes text := by
  induction wellFormed with
  | word known =>
      exact passes_of_scalar (WellFormed.word known : WellFormed 0 _).startsValue
        fun left _ => scalar?_word known left
  | number signed unsigned =>
      exact passes_of_scalar (WellFormed.number signed unsigned : WellFormed 0 _).startsValue
        fun left ends => scalar?_number signed unsigned ends
  | text quoted =>
      exact passes_of_scalar (WellFormed.text quoted : WellFormed 0 _).startsValue
        fun left _ => scalar?_text quoted left
  | emptyList blank => exact passes_of_empty blank (.inl rfl) rfl rfl
  | emptyObject blank => exact passes_of_empty blank (.inr rfl) rfl rfl
  | @list nesting first rest spaced each inductionHypothesis =>
      exact passes_of_items .list spaced (each first List.mem_cons_self).startsValue
        inductionHypothesis
  | @object nesting first rest spaced each inductionHypothesis =>
      exact passes_of_items .object spaced (each first List.mem_cons_self).startsValue
        inductionHypothesis

end Skip

/-- A well-formed value is passed over, with what follows it left. -/
theorem skip_of_wellFormed {nesting : Nat} {text before left : List Char}
    (wellFormed : WellFormed nesting text) (blank : Blanks before)
    (ends : EndsRun continuesNumber left) : skip (before ++ (text ++ left)) = .ok ((), left) := by
  rcases Skip.passes_of_wellFormed wellFormed (before ++ (text ++ left)) before left [] blank ends
    (Nat.le_refl _) with ⟨further, _, passed⟩
  rw [skip, passed]
  cases further <;> rfl

end Json
end Guidebook
