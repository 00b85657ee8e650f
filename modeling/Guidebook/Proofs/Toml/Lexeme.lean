import Guidebook.Proofs.Text.Numeral
import Guidebook.Toml.Lexeme
import Guidebook.Toml.Printer

namespace Guidebook
namespace Toml

/-!
# Texts and keys that are read back

A text is read back from each of its four spellings.  Quoted spellings are for any
text, because whatever could end one is escaped there.  Literal spellings have no
escapes; they are for texts without controls in which no closing run of quotes
occurs.  The spelling that is chosen for a text is always one that is for it.

Quotes that follow a text on many lines would be counted with the closing ones, and
a quote that follows an empty text would open a text on many lines.  So what follows
a text must not start with a quote; otherwise it is arbitrary.
-/

/-- The characters that open or close a text. -/
def isQuote (character : Char) : Bool := character == '"' || character == '\''

theorem ne_quote_cons {left : List Char} (ends : EndsRun isQuote left) (later : List Char) :
    left ≠ '"' :: later := by
  rintro rfl
  cases ends '"' rfl

theorem ne_apostrophe_cons {left : List Char} (ends : EndsRun isQuote left) (later : List Char) :
    left ≠ '\'' :: later := by
  rintro rfl
  cases ends '\'' rfl

/-! ## Characters and escapes -/

theorem isPlain_of_not_isControl {character : Char} (allowed : isControl character = false)
    (unbroken : character ≠ '\n') : isPlain character = true := by
  by_cases tab : character = '\t'
  · subst character
    rfl
  · simp [isControl, tab, unbroken] at allowed
    simp [isPlain, allowed]

theorem ne_break_of_isPlain {character : Char} (plain : isPlain character = true) :
    character ≠ '\n' ∧ character ≠ '\r' := by
  constructor <;>
    · rintro rfl
      cases plain

/-- An escape of a character, behind its backslash: it is read as the character, and
it does not look like the end of a line. -/
structure IsEscape (escape : List Char) (character : Char) : Prop where
  sameLine : forall left, afterBreak? (afterBlanks (escape ++ left)) = none
  unescaped : forall left, unescape? (escape ++ left) = some (character, left)

theorem isEscape_quote : IsEscape ['"'] '"' := ⟨fun _ => rfl, fun _ => rfl⟩

theorem hexNumber?_append {digits number : Nat} {text : List Char} (long : text.length = digits)
    (read : hexNumber? digits text = some (number, [])) (left : List Char) :
    hexNumber? digits (text ++ left) = some (number, left) := by
  subst digits
  simp only [hexNumber?, List.take_length, List.drop_length, List.take_left, List.drop_left]
    at read ⊢
  cases values : text.mapM Numeral.hexValue? with
  | none =>
      rw [values] at read
      cases read
  | some values' =>
      simp only [values, bind, Option.bind, pure] at read ⊢
      split at read
      · next complete =>
          rw [if_pos complete]
          cases read
          rfl
      · cases read

theorem toList_upperHex (width number : Nat) :
    (Numeral.upperHex width number).toList =
      (List.replicate (width - (Nat.toDigits 16 number).length) '0'
        ++ Nat.toDigits 16 number).map Char.toUpper := by
  rw [Numeral.upperHex, Numeral.hex, String.toList_ofList, String.toList_ofList]

/-- The numbers of the control characters are read back from their digits. -/
theorem hexNumber?_upperHex : forall number, number ∈ 0x7F :: List.range 0x20 ->
    (Numeral.upperHex 4 number).toList.length = 4 ∧
      hexNumber? 4 (Numeral.upperHex 4 number).toList = some (number, []) := by
  simp only [toList_upperHex]
  decide +kernel

theorem isEscape_upperHex {character : Char} (control : isControl character = true) :
    IsEscape ('u' :: (Numeral.upperHex 4 character.toNat).toList) character := by
  refine ⟨fun _ => rfl, fun left => ?_⟩
  have listed : character.toNat ∈ 0x7F :: List.range 0x20 := by
    simp [isControl] at control
    rw [List.mem_cons, List.mem_range]
    omega
  rcases hexNumber?_upperHex character.toNat listed with ⟨long, read⟩
  have valid : character.toNat.isValidChar := character.valid
  simp only [List.cons_append, unescape?, hexNumber?_append long read, bind, Option.bind,
    character?, if_pos valid, Char.ofNat_toNat, pure]

/-- A character other than the quote is written as an escape or as itself. -/
theorem escape_cases (lines : Bool) {character : Char} (inside : character ≠ '"') :
    (Exists fun escaped => escape lines character = '\\' :: escaped ∧
      IsEscape escaped character) ∨
    (escape lines character = [character] ∧ character ≠ '\\' ∧
      (isPlain character = true ∨ lines = true ∧ character = '\n')) := by
  unfold escape
  split
  · exact Or.inl ⟨['b'], rfl, fun _ => rfl, fun _ => rfl⟩
  · exact Or.inl ⟨['t'], rfl, fun _ => rfl, fun _ => rfl⟩
  · cases lines with
    | true => exact Or.inr ⟨rfl, by decide, Or.inr ⟨rfl, rfl⟩⟩
    | false => exact Or.inl ⟨['n'], rfl, fun _ => rfl, fun _ => rfl⟩
  · exact Or.inl ⟨['f'], rfl, fun _ => rfl, fun _ => rfl⟩
  · exact Or.inl ⟨['r'], rfl, fun _ => rfl, fun _ => rfl⟩
  · exact Or.inl ⟨['\\'], rfl, fun _ => rfl, fun _ => rfl⟩
  · next unbroken _ _ noBackslash =>
      cases control : isControl character with
      | true => exact Or.inl ⟨_, rfl, isEscape_upperHex control⟩
      | false =>
          have plain := isPlain_of_not_isControl control unbroken
          exact Or.inr ⟨rfl, noBackslash, Or.inl plain⟩

/-- No more than the quote itself starts with a quote when it is written. -/
theorem exists_head_escape (lines : Bool) {character : Char} (inside : character ≠ '"') :
    Exists fun first => Exists fun later =>
      escape lines character = first :: later ∧ first ≠ '"' := by
  rcases escape_cases lines inside with ⟨escaped, written, -⟩ | ⟨written, -⟩
  · exact ⟨'\\', escaped, written, by decide⟩
  · exact ⟨character, [], written, inside⟩

theorem escapeFrom_quote (lines : Bool) (run : Nat) (rest : List Char) :
    escapeFrom lines run ('"' :: rest) =
      if lines && run < 2 then '"' :: escapeFrom lines (run + 1) rest
      else '\\' :: '"' :: escapeFrom lines 0 rest := rfl

theorem escapeFrom_cons (lines : Bool) (run : Nat) {character : Char} (inside : character ≠ '"')
    (rest : List Char) :
    escapeFrom lines run (character :: rest) =
      escape lines character ++ escapeFrom lines 0 rest := by
  rw [escapeFrom]
  exact inside

/-- On one line no text starts with a quote when it is written, and on many lines none
does where two quotes have been written before. -/
theorem exists_head_escapeFrom {lines : Bool} {run : Nat} {character : Char}
    (stops : (lines && run < 2) = false ∨ character ≠ '"') (rest : List Char) :
    Exists fun first => Exists fun later =>
      escapeFrom lines run (character :: rest) = first :: later ∧ first ≠ '"' := by
  by_cases quote : character = '"'
  · subst character
    rcases stops with full | other
    · refine ⟨'\\', '"' :: escapeFrom lines 0 rest, ?_, by decide⟩
      rw [escapeFrom_quote, full, if_neg Bool.false_ne_true]
    · exact absurd rfl other
  · rcases exists_head_escape lines quote with ⟨first, later, written, different⟩
    refine ⟨first, later ++ escapeFrom lines 0 rest, ?_, different⟩
    rw [escapeFrom_cons lines run quote, written, List.cons_append]

theorem length_le_escapeFrom (lines : Bool) (run : Nat) (text : List Char) :
    text.length ≤ (escapeFrom lines run text).length := by
  induction text generalizing run with
  | nil => exact Nat.zero_le _
  | cons character rest inductionHypothesis =>
      by_cases quote : character = '"'
      · subst character
        rw [escapeFrom_quote]
        split
        · exact Nat.succ_le_succ (inductionHypothesis _)
        · exact Nat.le_succ_of_le (Nat.succ_le_succ (inductionHypothesis _))
      · rcases exists_head_escape lines quote with ⟨first, later, written, -⟩
        have shorter := inductionHypothesis 0
        rw [escapeFrom_cons lines run quote, written, List.length_append]
        simp only [List.length_cons]
        omega

/-! ## Quoted texts on one line -/

section Quoted

variable {escaped left clock text : List Char} {character tick : Char} {run : Nat}

theorem quotedFrom_escape (isEscape : IsEscape escaped character) :
    quotedFrom (tick :: clock) ('\\' :: (escaped ++ left)) =
      prepend character (quotedFrom clock left) := by
  have opened : quotedFrom (tick :: clock) ('\\' :: (escaped ++ left)) =
      (unescape? (escaped ++ left)).bind fun read => prepend read.1 (quotedFrom clock read.2) := rfl
  rw [opened, isEscape.unescaped]
  rfl

theorem quotedFrom_plain (inside : character ≠ '"') (noBackslash : character ≠ '\\')
    (plain : isPlain character = true) :
    quotedFrom (tick :: clock) (character :: left) =
      prepend character (quotedFrom clock left) := by
  rw [quotedFrom, if_pos plain]
  · exact inside
  · exact noBackslash

theorem quotedFrom_escapeFrom (long : text.length < clock.length) :
    quotedFrom clock (escapeFrom false run text ++ '"' :: left) = some (text, left) := by
  induction text generalizing run clock with
  | nil =>
      cases clock with
      | nil => cases long
      | cons tick clock => rfl
  | cons character rest inductionHypothesis =>
      cases clock with
      | nil => cases long
      | cons tick clock =>
          have restRead (run : Nat) : quotedFrom clock (escapeFrom false run rest ++ '"' :: left) =
              some (rest, left) := inductionHypothesis (Nat.lt_of_succ_lt_succ long)
          by_cases quote : character = '"'
          · subst character
            have written : escapeFrom false run ('"' :: rest) =
                '\\' :: '"' :: escapeFrom false 0 rest := rfl
            rw [written]
            exact (quotedFrom_escape isEscape_quote).trans (congrArg (prepend '"') (restRead 0))
          · rw [escapeFrom_cons false run quote, List.append_assoc]
            rcases escape_cases false quote with ⟨escaped, written, isEscape⟩ |
                ⟨written, noBackslash, plain⟩
            · rw [written, List.cons_append, quotedFrom_escape isEscape, restRead]
              rfl
            · have plain : isPlain character = true := by simpa using plain
              rw [written, List.singleton_append, quotedFrom_plain quote noBackslash plain, restRead]
              rfl

theorem quoted?_escapeFrom :
    quoted? (escapeFrom false run text ++ '"' :: left) = some (text, left) := by
  refine quotedFrom_escapeFrom ?_
  have bounded := length_le_escapeFrom false run text
  rw [List.length_append, List.length_cons]
  omega

end Quoted

/-! ## Quoted texts on many lines -/

section QuotedLines

variable {escaped left clock text : List Char} {character tick : Char} {run : Nat}

theorem quotedLinesFrom_escape (isEscape : IsEscape escaped character) :
    quotedLinesFrom (tick :: clock) ('\\' :: (escaped ++ left)) =
      prepend character (quotedLinesFrom clock left) := by
  simp only [quotedLinesFrom, isEscape.sameLine, isEscape.unescaped, bind, Option.bind]

/-- A quote with at most one more behind it belongs to the text. -/
theorem quotedLinesFrom_plain (noBackslash : character ≠ '\\') (plain : isPlain character = true)
    (few : character = '"' -> forall later, left ≠ '"' :: '"' :: later) :
    quotedLinesFrom (tick :: clock) (character :: left) =
      prepend character (quotedLinesFrom clock left) := by
  rcases ne_break_of_isPlain plain with ⟨noNewline, noReturn⟩
  rw [quotedLinesFrom, if_pos plain]
  all_goals simp_all

/-- Up to two quotes may stand before the closing three. -/
theorem quotedLinesFrom_close (ends : EndsRun isQuote left) :
    quotedLinesFrom (tick :: clock) ('"' :: '"' :: '"' :: left) = some ([], left) ∧
      quotedLinesFrom (tick :: clock) ('"' :: '"' :: '"' :: '"' :: left) = some (['"'], left) ∧
      quotedLinesFrom (tick :: clock) ('"' :: '"' :: '"' :: '"' :: '"' :: left) =
        some (['"', '"'], left) := by
  have noQuote := ne_quote_cons ends
  refine ⟨?_, ?_, ?_⟩ <;> rw [quotedLinesFrom]
  all_goals simp_all

/-- A quote that is written without an escape is followed by another one only if
two of them end the text. -/
theorem quote_ends_or_few (fits : run < 2) (rest : List Char) :
    rest = [] ∨ rest = ['"'] ∧ run = 0 ∨
      forall later, escapeFrom true (run + 1) rest ++ '"' :: '"' :: '"' :: left ≠
        '"' :: '"' :: later := by
  cases rest with
  | nil => exact Or.inl rfl
  | cons character rest =>
      refine Or.inr ?_
      by_cases stops : (true && run + 1 < 2) = false ∨ character ≠ '"'
      · right
        intro later same
        rcases exists_head_escapeFrom stops rest with ⟨first, others, written, different⟩
        rw [written] at same
        exact different (List.cons.inj same).1
      · rcases not_or.mp stops with ⟨notSecond, quote⟩
        have first : run = 0 := by
          simp at notSecond
          omega
        have quote : character = '"' := Decidable.not_not.mp quote
        subst first quote
        cases rest with
        | nil => exact Or.inl ⟨rfl, rfl⟩
        | cons third rest =>
            right
            intro later same
            have second : escapeFrom true 1 ('"' :: third :: rest) =
                '"' :: escapeFrom true 2 (third :: rest) := rfl
            have full : (true && decide (2 < 2)) = false ∨ third ≠ '"' := Or.inl rfl
            rcases exists_head_escapeFrom full rest with ⟨first, others, written, different⟩
            rw [second, written] at same
            exact different (List.cons.inj (List.cons.inj same).2).1

theorem quotedLinesFrom_escapeFrom (ends : EndsRun isQuote left)
    (long : text.length < clock.length) :
    quotedLinesFrom clock (escapeFrom true run text ++ '"' :: '"' :: '"' :: left) =
      some (text, left) := by
  induction text generalizing run clock with
  | nil =>
      cases clock with
      | nil => cases long
      | cons tick clock => exact (quotedLinesFrom_close ends).1
  | cons character rest inductionHypothesis =>
      cases clock with
      | nil => cases long
      | cons tick clock =>
          have restRead (run : Nat) :
              quotedLinesFrom clock (escapeFrom true run rest ++ '"' :: '"' :: '"' :: left) =
                some (rest, left) := inductionHypothesis (Nat.lt_of_succ_lt_succ long)
          by_cases quote : character = '"'
          · subst character
            by_cases fits : run < 2
            · have written : escapeFrom true run ('"' :: rest) =
                  '"' :: escapeFrom true (run + 1) rest := by
                rw [escapeFrom_quote, Bool.true_and, if_pos (decide_eq_true fits)]
              rw [written]
              rcases quote_ends_or_few fits rest with rfl | ⟨rfl, rfl⟩ | few
              · exact (quotedLinesFrom_close ends).2.1
              · exact (quotedLinesFrom_close ends).2.2
              · exact (quotedLinesFrom_plain (by decide) (by decide) fun _ => few).trans
                  (congrArg (prepend '"') (restRead _))
            · have written : escapeFrom true run ('"' :: rest) =
                  '\\' :: '"' :: escapeFrom true 0 rest := by
                simp only [escapeFrom_quote, fits, decide_false, Bool.and_false, if_false,
                  Bool.false_eq_true]
              rw [written]
              exact (quotedLinesFrom_escape isEscape_quote).trans
                (congrArg (prepend '"') (restRead 0))
          · rw [escapeFrom_cons true run quote, List.append_assoc]
            rcases escape_cases true quote with ⟨escaped, written, isEscape⟩ |
                ⟨written, noBackslash, plain | ⟨-, rfl⟩⟩
            · rw [written, List.cons_append, quotedLinesFrom_escape isEscape, restRead]
              rfl
            · have few : character = '"' -> forall later, escapeFrom true 0 rest ++
                  '"' :: '"' :: '"' :: left ≠ '"' :: '"' :: later := fun same => absurd same quote
              rw [written, List.singleton_append, quotedLinesFrom_plain noBackslash plain few,
                restRead]
              rfl
            · have newline : quotedLinesFrom (tick :: clock) ('\n' :: (escapeFrom true 0 rest ++
                  '"' :: '"' :: '"' :: left)) = prepend '\n' (quotedLinesFrom clock
                    (escapeFrom true 0 rest ++ '"' :: '"' :: '"' :: left)) := rfl
              rw [written, List.singleton_append, newline, restRead]
              rfl

end QuotedLines

/-! ## Literal texts -/

section Literal

variable {left text : List Char}

theorem literal?_append (plain : forall character, character ∈ text -> isPlain character = true)
    (noApostrophe : '\'' ∉ text) : literal? (text ++ '\'' :: left) = some (text, left) := by
  induction text with
  | nil => rfl
  | cons character rest inductionHypothesis =>
      rw [List.forall_mem_cons] at plain
      rw [List.mem_cons, not_or] at noApostrophe
      have restRead := inductionHypothesis plain.2 noApostrophe.2
      rw [List.cons_append, literal?, if_pos plain.1, restRead]
      · rfl
      · exact Ne.symm noApostrophe.1

theorem le_longestRun (character : Char) (run : Nat) (text : List Char) :
    run ≤ longestRun character run text := by
  induction text generalizing run with
  | nil => exact Nat.le_refl run
  | cons first rest inductionHypothesis =>
      rw [longestRun]
      split
      · exact Nat.le_of_succ_le (inductionHypothesis (run + 1))
      · exact Nat.le_max_left _ _

/-- A text whose runs of a character are short has no three of them together. -/
theorem no_triple_of_longestRun {character : Char} {run : Nat}
    (short : longestRun character run text ≤ 2) : ¬ [character, character, character] <:+: text := by
  rintro ⟨before, after, rfl⟩
  induction before generalizing run with
  | nil =>
      have long := le_longestRun character (run + 1 + 1 + 1) after
      simp only [List.nil_append, List.cons_append, longestRun, if_true] at short
      omega
  | cons first before inductionHypothesis =>
      simp only [List.cons_append, longestRun] at short
      split at short
      · exact inductionHypothesis short
      · exact inductionHypothesis (Nat.le_trans (Nat.le_max_right _ _) short)

/-- Up to two apostrophes may stand before the closing three. -/
theorem literalLines?_close (ends : EndsRun isQuote left) :
    literalLines? ('\'' :: '\'' :: '\'' :: left) = some ([], left) ∧
      literalLines? ('\'' :: '\'' :: '\'' :: '\'' :: left) = some (['\''], left) ∧
      literalLines? ('\'' :: '\'' :: '\'' :: '\'' :: '\'' :: left) =
        some (['\'', '\''], left) := by
  have noQuote := ne_apostrophe_cons ends
  refine ⟨?_, ?_, ?_⟩ <;> rw [literalLines?]
  all_goals simp_all

theorem literalLines?_plain {character : Char} (plain : isPlain character = true)
    (few : character = '\'' -> forall later, left ≠ '\'' :: '\'' :: later) :
    literalLines? (character :: left) = prepend character (literalLines? left) := by
  rcases ne_break_of_isPlain plain with ⟨noNewline, noReturn⟩
  rw [literalLines?, if_pos plain]
  all_goals simp_all

theorem literalLines?_append (ends : EndsRun isQuote left)
    (plain : forall character, character ∈ text ->
      isPlain character = true ∨ character = '\n')
    (noTriple : ¬ ['\'', '\'', '\''] <:+: text) :
    literalLines? (text ++ '\'' :: '\'' :: '\'' :: left) = some (text, left) := by
  induction text with
  | nil => exact (literalLines?_close ends).1
  | cons character rest inductionHypothesis =>
      rw [List.forall_mem_cons] at plain
      have restRead := inductionHypothesis plain.2
        fun triple => noTriple (triple.trans (List.suffix_cons character rest).isInfix)
      rcases plain.1 with isPlain | rfl
      · by_cases short : character = '\'' ∧ (rest = [] ∨ rest = ['\''])
        · rcases short with ⟨rfl, rfl | rfl⟩
          · exact (literalLines?_close ends).2.1
          · exact (literalLines?_close ends).2.2
        · rw [List.cons_append, literalLines?_plain isPlain, restRead]
          · rfl
          -- Two more apostrophes would be three together, or the text ends with them.
          · rintro rfl later same
            match rest with
            | [] => exact short ⟨rfl, Or.inl rfl⟩
            | [second] =>
                cases same
                exact short ⟨rfl, Or.inr rfl⟩
            | second :: third :: others =>
                cases same
                exact noTriple (List.prefix_append _ others).isInfix
      · exact congrArg (prepend '\n') restRead

end Literal

/-! ## Texts -/

namespace Spelling

/-- The condition under which a text can be written in a spelling. -/
def Allows (text : List Char) : Spelling -> Prop
  | .quoted => True
  | .quotedLines => True
  | .literal => (forall character, character ∈ text -> isPlain character = true) ∧ '\'' ∉ text
  | .literalLines =>
    (forall character, character ∈ text -> isPlain character = true ∨ character = '\n') ∧
      ¬ ['\'', '\'', '\''] <:+: text

theorem allows_literal {text : List Char} (suitable : suits text .literal = true) :
    Allows text .literal := by
  simp only [suits, Bool.and_eq_true, Bool.not_eq_true', List.contains_eq_mem,
    decide_eq_false_iff_not, List.any_eq_false, Bool.not_eq_true] at suitable
  rcases suitable with ⟨⟨allowed, noApostrophe⟩, noNewline⟩
  refine ⟨fun character member => ?_, noApostrophe⟩
  exact isPlain_of_not_isControl (allowed character member)
    fun same => noNewline (same ▸ member)

theorem allows_literalLines {text : List Char} (suitable : suits text .literalLines = true) :
    Allows text .literalLines := by
  simp only [suits, Bool.and_eq_true, Bool.not_eq_true', decide_eq_true_eq, List.any_eq_false,
    Bool.not_eq_true] at suitable
  refine ⟨fun character member => ?_, no_triple_of_longestRun suitable.2⟩
  by_cases newline : character = '\n'
  · exact Or.inr newline
  · exact Or.inl (isPlain_of_not_isControl (suitable.1 character member) newline)

/-- The spelling that is chosen for a text is one that it can be written in. -/
theorem allows_of (text : List Char) : Allows text (Spelling.of text) := by
  unfold Spelling.of
  split
  · trivial
  · split
    · next suitable => exact allows_literal suitable
    · split
      · trivial
      · split
        · next suitable => exact allows_literalLines suitable
        · split <;> trivial

end Spelling

/-- The line break that opens a text on many lines is dropped, and none is where the
text has no line breaks. -/
theorem afterOpening_append {text written : List Char}
    (unbroken : '\n' ∉ text -> afterBreak? written = none) :
    afterOpening ((if text.contains '\n' then ['\n'] else []) ++ written) = written := by
  split
  · rfl
  · next absent =>
      rw [List.nil_append, afterOpening, unbroken (by simpa using absent)]
      rfl

theorem afterBreak?_of_head {first : Char} (noNewline : first ≠ '\n') (noReturn : first ≠ '\r')
    (later : List Char) : afterBreak? (first :: later) = none := by
  unfold afterBreak?
  split
  all_goals simp_all

theorem afterBreak?_escapeFrom {text : List Char} (unbroken : '\n' ∉ text) (left : List Char) :
    afterBreak? (escapeFrom true 0 text ++ '"' :: left) = none := by
  cases text with
  | nil => rfl
  | cons character rest =>
      rw [List.mem_cons, not_or] at unbroken
      by_cases quote : character = '"'
      · subst character
        rfl
      · rw [escapeFrom_cons true 0 quote]
        rcases escape_cases true quote with ⟨escaped, written, -⟩ | ⟨written, -, plain | ⟨-, newline⟩⟩
        · rw [written]
          rfl
        · rw [written]
          rcases ne_break_of_isPlain plain with ⟨noNewline, noReturn⟩
          exact afterBreak?_of_head noNewline noReturn _
        · exact absurd newline.symm unbroken.1

section Text

variable {text characters left : List Char}

theorem text?_of_quoted (single : forall later, text ≠ '"' :: '"' :: later)
    (read : quoted? text = some (characters, left)) :
    text? ('"' :: text) = some (String.ofList characters, left) := by
  rw [text?, read]
  · rfl
  · exact single

theorem text?_of_literal (single : forall later, text ≠ '\'' :: '\'' :: later)
    (read : literal? text = some (characters, left)) :
    text? ('\'' :: text) = some (String.ofList characters, left) := by
  rw [text?, read]
  · rfl
  · exact single

theorem text?_of_quotedLines
    (read : quotedLinesFrom (afterOpening text) (afterOpening text) = some (characters, left)) :
    text? ('"' :: '"' :: '"' :: text) = some (String.ofList characters, left) := by
  have opened : text? ('"' :: '"' :: '"' :: text) =
      (quotedLinesFrom (afterOpening text) (afterOpening text)).bind fun read =>
        some (String.ofList read.1, read.2) := rfl
  rw [opened, read]
  rfl

theorem text?_of_literalLines (read : literalLines? (afterOpening text) = some (characters, left)) :
    text? ('\'' :: '\'' :: '\'' :: text) = some (String.ofList characters, left) := by
  have opened : text? ('\'' :: '\'' :: '\'' :: text) =
      (literalLines? (afterOpening text)).bind fun read =>
        some (String.ofList read.1, read.2) := rfl
  rw [opened, read]
  rfl

/-- A quoted text on one line does not look like the opening of one on many lines. -/
theorem escapeFrom_ne_quotes (ends : EndsRun isQuote left) (later : List Char) :
    escapeFrom false 0 text ++ '"' :: left ≠ '"' :: '"' :: later := by
  intro same
  cases text with
  | nil => exact ne_quote_cons ends later (List.cons.inj same).2
  | cons character rest =>
      have single : (false && decide (0 < 2)) = false ∨ character ≠ '"' := Or.inl rfl
      rcases exists_head_escapeFrom single rest with ⟨first, others, head, different⟩
      rw [head] at same
      exact different (List.cons.inj same).1

theorem afterBreak?_literalLines
    (plain : forall character, character ∈ text -> isPlain character = true ∨ character = '\n')
    (unbroken : '\n' ∉ text) : afterBreak? (text ++ '\'' :: '\'' :: '\'' :: left) = none := by
  cases text with
  | nil => rfl
  | cons character rest =>
      rw [List.mem_cons, not_or] at unbroken
      rcases plain character List.mem_cons_self with visible | newline
      · rcases ne_break_of_isPlain visible with ⟨noNewline, noReturn⟩
        exact afterBreak?_of_head noNewline noReturn _
      · exact absurd newline.symm unbroken.1

/-- A text is read back from a spelling that it can be written in. -/
theorem text?_spell {spelling : Spelling} (allowed : spelling.Allows text)
    (ends : EndsRun isQuote left) :
    text? (spell text spelling ++ left) = some (String.ofList text, left) := by
  cases spelling with
  | quoted =>
      have written : spell text .quoted ++ left =
          '"' :: (escapeFrom false 0 text ++ '"' :: left) := by
        simp [spell, Spelling.quotes]
      rw [written]
      exact text?_of_quoted (escapeFrom_ne_quotes ends) quoted?_escapeFrom
  | literal =>
      have written : spell text .literal ++ left = '\'' :: (text ++ '\'' :: left) := by
        simp [spell, Spelling.quotes]
      rw [written]
      refine text?_of_literal (fun later same => ?_) (literal?_append allowed.1 allowed.2)
      cases text with
      | nil => exact ne_apostrophe_cons ends later (List.cons.inj same).2
      | cons character rest =>
          exact allowed.2 ((List.cons.inj same).1 ▸ List.mem_cons_self)
  | quotedLines =>
      have written : spell text .quotedLines ++ left = '"' :: '"' :: '"' ::
          ((if text.contains '\n' then ['\n'] else []) ++
            (escapeFrom true 0 text ++ '"' :: '"' :: '"' :: left)) := by
        simp [spell, Spelling.quotes]
      rw [written]
      apply text?_of_quotedLines
      rw [afterOpening_append fun unbroken => afterBreak?_escapeFrom unbroken _]
      refine quotedLinesFrom_escapeFrom ends ?_
      have bounded := length_le_escapeFrom true 0 text
      simp only [List.length_append, List.length_cons]
      omega
  | literalLines =>
      have written : spell text .literalLines ++ left = '\'' :: '\'' :: '\'' ::
          ((if text.contains '\n' then ['\n'] else []) ++
            (text ++ '\'' :: '\'' :: '\'' :: left)) := by
        simp [spell, Spelling.quotes]
      rw [written]
      apply text?_of_literalLines
      rw [afterOpening_append fun unbroken => afterBreak?_literalLines allowed.1 unbroken]
      exact literalLines?_append ends allowed.1 allowed.2

/-- A text starts with a quote in whatever spelling. -/
theorem exists_head_spell (text : List Char) (spelling : Spelling) :
    Exists fun first => Exists fun later =>
      spell text spelling = first :: later ∧ (first = '"' ∨ first = '\'') := by
  unfold spell
  cases spelling with
  | quoted => exact ⟨'"', _, rfl, Or.inl rfl⟩
  | literal => exact ⟨'\'', _, rfl, Or.inr rfl⟩
  | quotedLines => exact ⟨'"', _, rfl, Or.inl rfl⟩
  | literalLines => exact ⟨'\'', _, rfl, Or.inr rfl⟩

end Text

/-! ## Keys -/

theorem isBlank_of_isBare {character : Char} (bare : isBare character = true) :
    isBlank character = false := by
  cases blank : isBlank character with
  | false => rfl
  | true =>
      have space : character = ' ' ∨ character = '\t' := by simpa [isBlank] using blank
      rcases space with rfl | rfl <;> cases bare

theorem part?_bare {first : Char} {later left : List Char}
    (bare : forall character, character ∈ first :: later -> isBare character = true)
    (ends : EndsRun isBare left) :
    part? (first :: later ++ left) = some (String.ofList (first :: later), left) := by
  have firstBare := bare first List.mem_cons_self
  rw [part?]
  · simp only [takeWhile_run bare ends, dropWhile_run bare ends, List.isEmpty_cons,
      Bool.false_eq_true, if_false]
  all_goals
    · intro text same
      rw [List.cons_append] at same
      rw [(List.cons.inj same).1] at firstBare
      cases firstBare

/-- A part of a key that needs no quotes. -/
structure IsBarePart (part : String) : Prop where
  nonempty : part.toList ≠ []
  bare : forall character, character ∈ part.toList -> isBare character = true

theorem part?_append {part : String} (isPart : IsBarePart part) {left : List Char}
    (ends : EndsRun isBare left) :
    part? (afterBlanks (part.toList ++ left)) = some (part, left) := by
  rcases List.exists_cons_of_ne_nil isPart.nonempty with ⟨first, later, characters⟩
  have bare := isPart.bare
  have same : String.ofList (first :: later) = part := by rw [← characters, String.ofList_toList]
  rw [characters] at bare ⊢
  have visible : afterBlanks (first :: later ++ left) = first :: later ++ left :=
    dropWhile_of_endsRun (endsRun_cons (isBlank_of_isBare (bare first List.mem_cons_self)))
  rw [visible, part?_bare bare ends, same]

/-- A key of one bare part is read back before the sign of equality. -/
theorem key?_bare {key : String} (isPart : IsBarePart key) (left : List Char) :
    key? (key.toList ++ ' ' :: '=' :: left) = some ([key], '=' :: left) := by
  have read := part?_append isPart (endsRun_cons (by decide) : EndsRun isBare (' ' :: '=' :: left))
  have behind : afterBlanks (' ' :: '=' :: left) = '=' :: left := rfl
  rcases List.exists_cons_of_ne_nil isPart.nonempty with ⟨first, later, characters⟩
  rw [characters] at read ⊢
  rw [key?, List.cons_append, partsFrom, ← List.cons_append, read]
  simp only [bind, Option.bind, behind, pure]
  rfl

end Toml
end Guidebook
