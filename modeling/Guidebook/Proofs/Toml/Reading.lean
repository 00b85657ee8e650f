import Guidebook.Proofs.Toml.Lexeme
import Guidebook.Proofs.Toml.Number
import Guidebook.Toml.Reader

namespace Guidebook
namespace Toml

/-!
# Entries that are read back

What is written for a value is read back where nothing follows that could belong to
it.  An entry ends its line, so this is so for the value of an entry whatever comes
after; and a text of entries, each on a line of its own, is a document with these
entries in their order, as long as no key is written twice.
-/

/-! ## Values -/

/-- The characters that may belong to a value behind its end. -/
def continuesValue (character : Char) : Bool :=
  isQuote character || continuesNumber character

theorem endsRun_isQuote {left : List Char} (ends : EndsRun continuesValue left) :
    EndsRun isQuote left := by
  intro character leads
  have outside := ends character leads
  rw [continuesValue, Bool.or_eq_false_iff] at outside
  exact outside.1

theorem endsRun_continuesNumber {left : List Char} (ends : EndsRun continuesValue left) :
    EndsRun continuesNumber left := by
  intro character leads
  have outside := ends character leads
  rw [continuesValue, Bool.or_eq_false_iff] at outside
  exact outside.2

/-- The characters that a value can start with: no blank, and none that opens a
comment or a line break. -/
def isVisible (character : Char) : Bool :=
  !isBlank character && !(['#', '\n', '\r'].contains character)

/-- The characters are read as a value, with so many brackets that may be opened. -/
structure Reads (nesting : Nat) (characters : List Char) (result : Value) : Prop where
  visible : Exists fun first => Exists fun later =>
    characters = first :: later ∧ isVisible first = true
  read : forall left, EndsRun continuesValue left ->
    value nesting (characters ++ left) = .ok (result, left)

theorem not_isBlank_of_isVisible {character : Char} (visible : isVisible character = true) :
    isBlank character = false := by
  rw [isVisible, Bool.and_eq_true, Bool.not_eq_true'] at visible
  exact visible.1

theorem value_of_scalar (nesting : Nat) {first : Char} {text left : List Char} {result : Value}
    (noList : first ≠ '[') (noTable : first ≠ '\x7b')
    (read : scalar? (first :: text) = some (result, left)) :
    value nesting (first :: text) = .ok (result, left) := by
  cases nesting with
  | zero =>
      rw [value, read]
      · rfl
      all_goals simp_all
  | succ nesting =>
      rw [value, read]
      · rfl
      all_goals simp_all

/-- A text is read back from a spelling that it can be written in. -/
theorem spell_reads (nesting : Nat) {text : String} {spelling : Spelling}
    (allowed : spelling.Allows text.toList) :
    Reads nesting (spell text.toList spelling) (.text text) := by
  rcases exists_head_spell text.toList spelling with ⟨first, later, written, quote⟩
  refine ⟨⟨first, later, written, ?_⟩, fun left ends => ?_⟩
  · rcases quote with rfl | rfl <;> rfl
  · have read := text?_spell allowed (endsRun_isQuote ends)
    rw [String.ofList_toList] at read
    rw [written, List.cons_append] at read ⊢
    refine value_of_scalar nesting ?_ ?_ ?_
    · rcases quote with rfl | rfl <;> decide
    · rcases quote with rfl | rfl <;> decide
    · rcases quote with rfl | rfl <;>
        · rw [scalar?, read]
          rfl

theorem text_reads (nesting : Nat) (text : String) :
    Reads nesting (writeText text) (.text text) :=
  spell_reads nesting (Spelling.allows_of text.toList)

theorem boolean_reads (nesting : Nat) (truth : Bool) :
    Reads nesting (toString truth).toList (.boolean truth) := by
  cases truth with
  | true =>
      exact ⟨⟨'t', ['r', 'u', 'e'], rfl, rfl⟩, fun left _ =>
        value_of_scalar nesting (by decide) (by decide) rfl⟩
  | false =>
      exact ⟨⟨'f', ['a', 'l', 's', 'e'], rfl, rfl⟩, fun left _ =>
        value_of_scalar nesting (by decide) (by decide) rfl⟩

theorem isVisible_of_isDigit {digit : Char} (decimal : Numeral.isDigit digit = true) :
    isVisible digit = true := by
  have bounds := (Numeral.isDigit_iff digit).mp decimal
  simp [isVisible, isBlank]
  refine ⟨⟨?_, ?_⟩, ?_, ?_, ?_⟩ <;>
    · rintro rfl
      revert bounds
      decide

theorem integer_reads (nesting : Nat) {number : Nat}
    (fits : (number : Int) ≤ Numeral.wordGreatest) :
    Reads nesting (toString number).toList (.integer number) := by
  rcases Numeral.exists_first_toString number with ⟨first, later, digits, decimal⟩
  have notFirst {mark : Char} (outside : Numeral.isDigit mark = false) : first ≠ mark :=
    Numeral.ne_of_isDigit decimal outside
  refine ⟨⟨first, later, digits, isVisible_of_isDigit decimal⟩, fun left ends => ?_⟩
  have ends := endsRun_continuesNumber ends
  have written : forall digit, digit ∈ (toString number).toList -> Numeral.isDigit digit = true :=
    fun digit => Numeral.isDigit_of_mem_toString
  have noMoment := Moment.after?_run written ends
  have read := number?_toString fits ends
  rw [digits, List.cons_append] at noMoment read ⊢
  refine value_of_scalar nesting (notFirst (by decide)) (notFirst (by decide)) ?_
  rw [scalar?]
  · simp only [noMoment, read]
  · exact List.cons_ne_nil _ _
  all_goals
    · intro rest same
      exact notFirst (by decide) (List.cons.inj same).1

/-! ## Lists of texts -/

/-- Only blanks stand in a text. -/
def Blanks (text : List Char) : Prop :=
  forall character, character ∈ text -> isBlank character = true

theorem blanks_nil : Blanks [] := List.forall_mem_nil _

theorem afterBlanks_append {blanks : List Char} (blank : Blanks blanks) {first : Char}
    (visible : isVisible first = true) (later : List Char) :
    afterBlanks (blanks ++ first :: later) = first :: later :=
  dropWhile_run blank (endsRun_cons (not_isBlank_of_isVisible visible))

theorem afterLinesFrom_blanks {blanks : List Char} (blank : Blanks blanks) {first : Char}
    (visible : isVisible first = true) (tick : Char) (clock later : List Char) :
    afterLinesFrom (tick :: clock) (blanks ++ first :: later) = first :: later := by
  have dropped := afterBlanks_append blank visible later
  simp [isVisible] at visible
  rcases visible with ⟨-, noMark, noNewline, noReturn⟩
  have noComment : afterComment (first :: later) = first :: later := by
    rw [afterComment]
    intro text same
    exact noMark (List.cons.inj same).1
  rw [afterLinesFrom, dropped, noComment, afterBreak?_of_head noNewline noReturn]

theorem afterLines_visible {first : Char} (visible : isVisible first = true) (later : List Char) :
    afterLines (first :: later) = first :: later :=
  afterLinesFrom_blanks blanks_nil visible first later later

/-- A line break and the blanks of the next line are dropped. -/
theorem afterLines_break {blanks : List Char} (blank : Blanks blanks) {first : Char}
    (visible : isVisible first = true) (later : List Char) :
    afterLines ('\n' :: (blanks ++ first :: later)) = first :: later := by
  have opened : afterLines ('\n' :: (blanks ++ first :: later)) =
      afterLinesFrom (blanks ++ first :: later) (blanks ++ first :: later) := rfl
  rw [opened]
  cases blanks with
  | nil => exact afterLinesFrom_blanks blank visible first later later
  | cons tick blanks => exact afterLinesFrom_blanks blank visible tick _ later

section Elements

variable {reader : Attempt Value} {clock left : List Char} {tick : Char}

theorem elementsFrom_end {text : List Char} (ends : afterLines text = ']' :: left) :
    elementsFrom reader (tick :: clock) text = .ok ([], left) := by
  simp [elementsFrom, ends]

/-- Behind an element there is the end of the list, or a comma and the others. -/
def furtherFrom (reader : Attempt Value) (clock : List Char) (element : Value)
    (behind : List Char) : Except Fault (List Value × List Char) :=
  match afterLines behind with
  | ']' :: left => return ([element], left)
  | ',' :: text => do
    let (elements, left) <- elementsFrom reader clock text
    return (element :: elements, left)
  | _ => .error .unexpected

theorem elementsFrom_element {text later behind : List Char} {first : Char} {element : Value}
    (visible : isVisible first = true) (noEnd : first ≠ ']')
    (starts : afterLines text = first :: later)
    (read : reader (first :: later) = .ok (element, behind)) :
    elementsFrom reader (tick :: clock) text = furtherFrom reader clock element behind := by
  simp [isVisible] at visible
  rcases visible with ⟨-, noMark, -, noReturn⟩
  rw [elementsFrom, starts]
  split
  · next same => cases same
  · next same => exact absurd (List.cons.inj same).1 noEnd
  · next same => exact absurd (List.cons.inj same).1 noMark
  · next same => exact absurd (List.cons.inj same).1 noReturn
  · rw [read]
    rfl

theorem furtherFrom_bracket (element : Value) :
    furtherFrom reader clock element (']' :: left) = .ok ([element], left) := by
  have here : afterLines (']' :: left) = ']' :: left := afterLines_visible rfl left
  rw [furtherFrom, here]
  rfl

theorem furtherFrom_comma {rest : List Char} {elements : List Value} (element : Value)
    (read : elementsFrom reader clock rest = .ok (elements, left)) :
    furtherFrom reader clock element (',' :: rest) = .ok (element :: elements, left) := by
  have here : afterLines (',' :: rest) = ',' :: rest := afterLines_visible rfl rest
  rw [furtherFrom, here]
  simp only [read, bind, Except.bind, pure, Except.pure]

end Elements

/-- Only what ends an element follows it in a list. -/
theorem endsRun_comma (left : List Char) : EndsRun continuesValue (',' :: left) :=
  endsRun_cons (by decide)

theorem endsRun_bracket (left : List Char) : EndsRun continuesValue (']' :: left) :=
  endsRun_cons (by decide)

theorem ne_bracket_of_writeText {text : String} {first : Char} {later : List Char}
    (characters : writeText text = first :: later) : first ≠ ']' := by
  rcases exists_head_spell text.toList (Spelling.of text.toList) with ⟨head, tail, written, quote⟩
  rw [← writeText, characters] at written
  rw [(List.cons.inj written).1]
  rcases quote with rfl | rfl <;> decide

/-- The elements of a list on many lines, behind its opening bracket. -/
def manyLines (texts : List String) : List Char :=
  texts.flatMap fun text => [' ', ' ', ' ', ' '] ++ writeText text ++ [',', '\n']

theorem length_le_manyLines (texts : List String) : texts.length ≤ (manyLines texts).length := by
  induction texts with
  | nil => exact Nat.zero_le _
  | cons text texts inductionHypothesis =>
      simp only [manyLines, List.flatMap_cons, List.length_append, List.length_cons]
        at inductionHypothesis ⊢
      omega

theorem elementsFrom_manyLines (nesting : Nat) (texts : List String) {clock : List Char}
    (long : texts.length < clock.length) (left : List Char) :
    elementsFrom (value nesting) clock ('\n' :: (manyLines texts ++ ']' :: left)) =
      .ok (texts.map .text, left) := by
  induction texts generalizing clock with
  | nil =>
      cases clock with
      | nil => cases long
      | cons tick clock =>
          exact elementsFrom_end (afterLines_break blanks_nil rfl left)
  | cons text texts inductionHypothesis =>
      cases clock with
      | nil => cases long
      | cons tick clock =>
          have others := inductionHypothesis (Nat.lt_of_succ_lt_succ long)
          have reads := text_reads nesting text
          rcases reads.visible with ⟨first, later, characters, visible⟩
          have noEnd := ne_bracket_of_writeText characters
          have read := reads.read (',' :: '\n' :: (manyLines texts ++ ']' :: left)) (endsRun_comma _)
          have blank : Blanks [' ', ' ', ' ', ' '] := List.all_eq_true.mp (by decide)
          have starts := afterLines_break blank visible
            (later ++ ',' :: '\n' :: (manyLines texts ++ ']' :: left))
          rw [characters] at read
          have split : manyLines (text :: texts) ++ ']' :: left = [' ', ' ', ' ', ' '] ++
              (first :: (later ++ ',' :: '\n' :: (manyLines texts ++ ']' :: left))) := by
            simp [manyLines, characters]
          rw [split, elementsFrom_element visible noEnd starts read]
          exact furtherFrom_comma (.text text) others

theorem value_of_elements {nesting : Nat} {text left : List Char} {elements : List Value}
    (read : elementsFrom (value nesting) text text = .ok (elements, left)) :
    value (nesting + 1) ('[' :: text) = .ok (.list elements, left) := by
  rw [value, read]
  rfl

/-- A list of texts is read back on one line or on many. -/
theorem texts_reads (nesting : Nat) (texts : List String) :
    Reads (nesting + 1) (writeTexts texts) (.list (texts.map .text)) := by
  match texts with
  | [] =>
      refine ⟨⟨'[', [']'], rfl, rfl⟩, fun left _ => value_of_elements ?_⟩
      exact elementsFrom_end (afterLines_visible rfl left)
  | [only] =>
      have reads := text_reads nesting only
      rcases reads.visible with ⟨first, later, characters, visible⟩
      refine ⟨⟨'[', _, rfl, rfl⟩, fun left _ => ?_⟩
      have read := reads.read (']' :: left) (endsRun_bracket left)
      have written : writeTexts [only] ++ left = '[' :: (writeText only ++ ']' :: left) := by
        simp [writeTexts]
      rw [written]
      rw [characters, List.cons_append] at read ⊢
      apply value_of_elements
      rw [elementsFrom_element visible (ne_bracket_of_writeText characters)
        (afterLines_visible visible _) read, furtherFrom_bracket]
      rfl
  | first :: second :: rest =>
      refine ⟨⟨'[', _, rfl, rfl⟩, fun left _ => ?_⟩
      have written : writeTexts (first :: second :: rest) ++ left =
          '[' :: '\n' :: (manyLines (first :: second :: rest) ++ ']' :: left) := by
        simp [writeTexts, manyLines]
      rw [written]
      refine value_of_elements (elementsFrom_manyLines nesting _ ?_ left)
      have bounded := length_le_manyLines (first :: second :: rest)
      simp only [List.length_cons, List.length_append] at bounded ⊢
      omega

/-! ## Lines -/

/-- An entry as it is written: a key, the characters of its value, and what they are
read as. -/
structure Line where
  key : String
  characters : List Char
  value : Value

namespace Line

/-- The characters of the line with its end. -/
def write (line : Line) : List Char := writeEntry line.key line.characters

/-- The line is read back: the key is bare, and so is the value wherever it ends. -/
structure IsReadable (line : Line) : Prop where
  nonempty : line.key.toList ≠ []
  bare : forall character, character ∈ line.key.toList -> isBare character = true
  reads : Reads nestingLimit line.characters line.value

end Line

theorem entry_write {line : Line} (readable : line.IsReadable) (left : List Char) :
    entry (value nestingLimit) (line.write ++ left) =
      .ok (⟨[line.key], line.value⟩, '\n' :: left) := by
  rcases readable.reads.visible with ⟨first, later, characters, visible⟩
  have written : line.write ++ left =
      line.key.toList ++ ' ' :: '=' :: ' ' :: (line.characters ++ '\n' :: left) := by
    simp [Line.write, writeEntry]
  have key := key?_bare ⟨readable.nonempty, readable.bare⟩ (' ' :: (line.characters ++ '\n' :: left))
  have read := readable.reads.read ('\n' :: left) (endsRun_cons (by decide))
  have dropped : afterBlanks (' ' :: (line.characters ++ '\n' :: left)) =
      line.characters ++ '\n' :: left := by
    rw [characters, List.cons_append]
    have blank : Blanks [' '] := by simp [Blanks, isBlank]
    exact afterBlanks_append blank visible _
  rw [written, entry, key]
  simp only [demand, bind, Except.bind, dropped, read, pure, Except.pure]

/-- The table that the lines fill. -/
def Table.ofLines (lines : List Line) : Table :=
  ⟨.header, lines.map fun line => (line.key, .value line.value)⟩

theorem Table.enter?_ofLines {lines : List Line} {line : Line}
    (new : forall other, other ∈ lines -> other.key ≠ line.key) :
    (Table.ofLines lines).enter? ⟨[line.key], line.value⟩ =
      some (Table.ofLines (lines ++ [line])) := by
  have absent : (Table.ofLines lines).find? line.key = none := by
    rw [Table.find?, Option.map_eq_none_iff, List.find?_eq_none]
    intro entry member
    rcases List.mem_map.mp member with ⟨other, listed, rfl⟩
    simpa using new other listed
  have kept : (Table.ofLines lines).enter? ⟨[line.key], line.value⟩ =
      (Table.ofLines lines).add? line.key line.value := rfl
  rw [kept, Table.add?, Table.put, absent]
  simp [Table.ofLines, Table.origin, Table.entries]

/-- One step of reading takes one line and enters its value. -/
theorem linesFrom_write {steps : Nat} {root : Table} {header : Option Header} {lines : List Line}
    {line : Line} (readable : line.IsReadable)
    (new : forall other, other ∈ lines -> other.key ≠ line.key) (left : List Char) :
    linesFrom (steps + 1) ⟨root, header, Table.ofLines lines⟩ (line.write ++ left) =
      linesFrom steps ⟨root, header, Table.ofLines (lines ++ [line])⟩ left := by
  rcases List.exists_cons_of_ne_nil readable.nonempty with ⟨first, later, key⟩
  have bare := readable.bare first (key ▸ List.mem_cons_self)
  have notFirst {mark : Char} (outside : isBare mark = false) : first ≠ mark := by
    rintro rfl
    cases bare.symm.trans outside
  have starts : line.write ++ left =
      first :: (later ++ ' ' :: '=' :: ' ' :: (line.characters ++ '\n' :: left)) := by
    simp [Line.write, writeEntry, key]
  have visible : afterBlanks (line.write ++ left) = line.write ++ left := by
    rw [starts]
    exact dropWhile_of_endsRun (endsRun_cons (isBlank_of_isBare bare))
  have behind : afterLine? ('\n' :: left) = some left := rfl
  rw [linesFrom, visible]
  split
  · next same => cases starts.symm.trans same
  · next same => exact absurd (List.cons.inj (starts.symm.trans same)).1 (notFirst (by decide))
  · next same => exact absurd (List.cons.inj (starts.symm.trans same)).1 (notFirst (by decide))
  · next same => exact absurd (List.cons.inj (starts.symm.trans same)).1 (notFirst (by decide))
  · next same => exact absurd (List.cons.inj (starts.symm.trans same)).1 (notFirst (by decide))
  · next same => exact absurd (List.cons.inj (starts.symm.trans same)).1 (notFirst (by decide))
  · rw [entry_write readable left]
    simp only [bind, Except.bind, demand, behind, Table.enter?_ofLines new]

theorem linesFrom_lines {steps : Nat} {root : Table} {header : Option Header}
    (before : List Line) {lines : List Line}
    (readable : forall line, line ∈ lines -> line.IsReadable)
    (distinct : ((before ++ lines).map Line.key).Nodup) (long : lines.length < steps) :
    linesFrom steps ⟨root, header, Table.ofLines before⟩ (lines.flatMap Line.write) =
      .ok ⟨root, header, Table.ofLines (before ++ lines)⟩ := by
  induction lines generalizing before steps with
  | nil =>
      cases steps with
      | zero => cases long
      | succ steps =>
          rw [List.append_nil]
          rfl
  | cons line lines inductionHypothesis =>
      rw [List.forall_mem_cons] at readable
      cases steps with
      | zero => cases long
      | succ steps =>
          have new : forall other, other ∈ before -> other.key ≠ line.key := by
            rw [List.map_append, List.nodup_append] at distinct
            intro other member
            exact distinct.2.2 _ (List.mem_map_of_mem member) _ List.mem_cons_self
          have regroup : before ++ line :: lines = before ++ [line] ++ lines := by simp
          rw [regroup] at distinct ⊢
          rw [List.flatMap_cons, linesFrom_write readable.1 new]
          exact inductionHypothesis (before ++ [line]) readable.2 distinct (Nat.lt_of_succ_lt_succ long)

theorem Table.entryValues_ofLines (lines : List Line) :
    Table.entryValues (lines.map fun line => (line.key, Item.value line.value)) =
      lines.map fun line => (line.key, line.value) := by
  induction lines with
  | nil => rfl
  | cons line lines inductionHypothesis =>
      rw [List.map_cons, Table.entryValues, inductionHypothesis]
      rfl

theorem length_le_flatMap_write (lines : List Line) :
    lines.length ≤ (lines.flatMap Line.write).length := by
  induction lines with
  | nil => exact Nat.zero_le _
  | cons line lines inductionHypothesis =>
      simp only [List.flatMap_cons, List.length_append, Line.write, writeEntry, List.length_cons]
        at inductionHypothesis ⊢
      omega

/-- Lines do not start with the mark that may open a text. -/
theorem head_flatMap_write_ne_mark {lines : List Line}
    (readable : forall line, line ∈ lines -> line.IsReadable) :
    (lines.flatMap Line.write).head? ≠ some mark := by
  cases lines with
  | nil =>
      intro impossible
      cases impossible
  | cons line lines =>
      have first := readable line List.mem_cons_self
      rcases List.exists_cons_of_ne_nil first.nonempty with ⟨character, later, key⟩
      have bare := first.bare character (key ▸ List.mem_cons_self)
      intro marked
      have same : character = mark := by
        simpa [Line.write, writeEntry, key] using marked
      rw [same] at bare
      cases bare

/-- A document is what its lines leave, when the last table is closed. -/
theorem document_of_linesFrom {characters : List Char} {draft : Draft} {root : Table}
    {entries : List (String × Value)} (unmarked : characters.head? ≠ some mark)
    (read : linesFrom (characters.length + 1) .empty characters = .ok draft)
    (closed : draft.close? = some root) (values : root.toValue = .table entries) :
    document (String.ofList characters) = .ok entries := by
  unfold document
  rw [String.toList_ofList]
  cases characters with
  | nil => simp only [read, bind, Except.bind, closed, demand, values, pure, Except.pure]
  | cons first rest =>
      have noMark : first ≠ mark := fun same => unmarked (congrArg some same)
      simp only [if_neg noMark, read, bind, Except.bind, closed, demand, values, pure, Except.pure]

/-- A text of entries under different keys is a document with these entries. -/
theorem document_lines {lines : List Line} (readable : forall line, line ∈ lines -> line.IsReadable)
    (distinct : (lines.map Line.key).Nodup) :
    document (String.ofList (lines.flatMap Line.write)) =
      .ok (lines.map fun line => (line.key, line.value)) := by
  have steps : lines.length < (lines.flatMap Line.write).length + 1 :=
    Nat.lt_succ_of_le (length_le_flatMap_write lines)
  have read : linesFrom ((lines.flatMap Line.write).length + 1) .empty (lines.flatMap Line.write) =
      .ok ⟨.empty .header, none, Table.ofLines lines⟩ := linesFrom_lines [] readable distinct steps
  have values : (Table.ofLines lines).toValue =
      .table (lines.map fun line => (line.key, line.value)) := by
    rw [Table.ofLines, Table.toValue, Table.entryValues_ofLines]
  exact document_of_linesFrom (head_flatMap_write_ne_mark readable) read rfl values

end Toml
end Guidebook
