import Guidebook.Proofs.Json.Reading
import Guidebook.Proofs.Json.Skip

namespace Guidebook
namespace Json

/-!
# Readers that agree on a text

Two readers may meet the same well-formed value in different surroundings: other
characters follow it, and other brackets stand open around it.  They agree on it when
they both fail, or when both have the same result and leave what follows.  Why and where
they fail is not compared.  Readers of lists and of records agree where the readers of
what stands inside do, so nothing is said here of the value that is read.
-/

variable {Result Other Gathered : Type}

/-! ## Outcomes -/

/-- Two outcomes of reading: both failures, or the same result, of which the first
reader leaves `left` and the second one `right`. -/
inductive Agree (left right : List Char) :
    Except Failure (Result × List Char) -> Except Failure (Result × List Char) -> Prop
  | ok (result : Result) : Agree left right (.ok (result, left)) (.ok (result, right))
  | error (first second : Failure) : Agree left right (.error first) (.error second)

namespace Agree

variable {left right middle next : List Char}
  {first second : Except Failure (Result × List Char)}

/-- One reader after another. -/
theorem bind {step other : Result × List Char -> Except Failure (Other × List Char)}
    (agree : Agree middle next first second)
    (later : forall result, Agree left right (step (result, middle)) (other (result, next))) :
    Agree left right (first >>= step) (second >>= other) := by
  cases agree with
  | ok result => exact later result
  | error failure another => exact .error failure another

theorem map (agree : Agree left right first second) (change : Result -> Other) :
    Agree left right (first.map fun (result, left) => (change result, left))
      (second.map fun (result, left) => (change result, left)) := by
  cases agree with
  | ok result => exact .ok (change result)
  | error failure another => exact .error failure another

theorem closeList {blanks : List Char} (blank : Blanks blanks)
    (inside : Agree (blanks ++ ']' :: left) (blanks ++ ']' :: right) first second) :
    Agree left right (closeList first) (closeList second) := by
  cases inside with
  | ok result =>
      rw [Json.closeList, Json.closeList, listEnd_blanks blank, listEnd_blanks blank]
      exact .ok result
  | error failure another => exact .error _ _

/-- A list that goes on where its end is wanted is a failure. -/
theorem closeList_comma {blanks : List Char} (blank : Blanks blanks)
    (inside : Agree (blanks ++ ',' :: middle) (blanks ++ ',' :: next) first second) :
    Agree left right (Json.closeList first) (Json.closeList second) := by
  have refuses (text : List Char) : Exists fun failure =>
      listEnd (blanks ++ ',' :: text) = .error failure := by
    have comma : afterBlanks (blanks ++ ',' :: text) = ',' :: text := by
      rw [afterBlanks_append blank, afterBlanks_cons rfl]
    simp only [listEnd, comma]
    split
    all_goals exact ⟨_, rfl⟩
  cases inside with
  | ok result =>
      rcases refuses middle with ⟨failure, refused⟩
      rcases refuses next with ⟨another, refusedToo⟩
      rw [Json.closeList, Json.closeList, refused, refusedToo]
      exact .error failure another
  | error failure another => exact .error _ _

/-- The elements that nobody asked for stand between what was read and the end of the
list; it is the end only where there are none. -/
theorem closeList_following {after : List Char} (blank : Blanks after) (rest : List Element)
    (inside : Agree (after ++ following Element.onto rest (']' :: left))
      (after ++ following Element.onto rest (']' :: right)) first second) :
    Agree left right (Json.closeList first) (Json.closeList second) := by
  cases rest with
  | nil => exact inside.closeList blank
  | cons more rest => exact inside.closeList_comma blank

theorem closeObject {blanks : List Char} (blank : Blanks blanks)
    (inside : Agree (blanks ++ '\x7d' :: left) (blanks ++ '\x7d' :: right) first second) :
    Agree left right (closeObject first) (closeObject second) := by
  cases inside with
  | ok result =>
      rw [Json.closeObject, Json.closeObject, objectEnd_blanks blank, objectEnd_blanks blank]
      exact .ok result
  | error failure another => exact .error _ _

end Agree

/-- Two readers agree on a text, behind the same blanks and whatever follows it, as long
as that does not go on with a number. -/
def ReadAlike (first second : Reader Result) (text : List Char) : Prop :=
  forall before left right, Blanks before -> EndsRun continuesNumber left ->
    EndsRun continuesNumber right ->
      Agree left right (first (before ++ (text ++ left))) (second (before ++ (text ++ right)))

/-- A reader fails on a text, whatever follows it. -/
def Refuses (reader : Reader Result) (text : List Char) : Prop :=
  forall before left, Blanks before ->
    Exists fun failure => reader (before ++ (text ++ left)) = .error failure

theorem Refuses.alike {first second : Reader Result} {text : List Char}
    (refuses : Refuses first text) (refusesToo : Refuses second text) :
    ReadAlike first second text := by
  intro before left right blank _ _
  rcases refuses before left blank with ⟨failure, failed⟩
  rcases refusesToo before right blank with ⟨another, failedToo⟩
  rw [failed, failedToo]
  exact .error failure another

/-! ## Texts -/

/-- The other half of a character is looked for in the next escape and only there, so it
is read alike with what follows it. -/
theorem lowHalf_agree (high : Nat) {rest : List Char} (isQuoted : IsQuoted rest) :
    Exists fun further => IsQuoted further ∧ further.length ≤ rest.length ∧
      forall left right, Agree (further ++ '"' :: left) (further ++ '"' :: right)
        (lowHalf high (rest ++ '"' :: left)) (lowHalf high (rest ++ '"' :: right)) := by
  cases isQuoted with
  | nil => exact ⟨[], .nil, Nat.le_refl _, fun left right => .error _ _⟩
  | @plain character rest printable noQuote noBackslash later =>
      refine ⟨_, .plain printable noQuote noBackslash later, Nat.le_refl _, fun left right => ?_⟩
      rw [List.cons_append, List.cons_append, lowHalf, lowHalf]
      · exact .error _ _
      all_goals simp_all
  | @escaped letter rest known later =>
      have notNumbered := (exists_escaped known).1
      refine ⟨_, .escaped known later, Nat.le_refl _, fun left right => ?_⟩
      simp only [List.cons_append]
      rw [lowHalf, lowHalf]
      · exact .error _ _
      all_goals simp_all
  | @numbered first second third fourth rest hex later =>
      rcases exists_hexWord hex with ⟨low, read⟩
      refine ⟨rest, later, by simp only [List.length_cons]; omega, fun left right => ?_⟩
      simp only [List.cons_append, lowHalf, read]
      split
      · exact .ok _
      · exact .error _ _

/-- A numbered escape is read alike with what follows it: it stands for a character, for
half of one together with the next escape, or for none. -/
theorem numbered_agree {first second third fourth : Char}
    (hex : forall digit, digit ∈ [first, second, third, fourth] -> isHexDigit digit = true)
    {rest : List Char} (isQuoted : IsQuoted rest) :
    Exists fun further => IsQuoted further ∧ further.length ≤ rest.length ∧
      forall left right, Agree (further ++ '"' :: left) (further ++ '"' :: right)
        (numbered (first :: second :: third :: fourth :: (rest ++ '"' :: left)))
        (numbered (first :: second :: third :: fourth :: (rest ++ '"' :: right))) := by
  rcases exists_hexWord hex with ⟨number, read⟩
  simp only [numbered, read]
  split
  · exact ⟨rest, isQuoted, Nat.le_refl _, fun left right => .error _ _⟩
  · split
    · exact lowHalf_agree number isQuoted
    · exact ⟨rest, isQuoted, Nat.le_refl _, fun left right => .ok _⟩

/-- The clock of each reader only has to be long enough. -/
theorem charactersFrom_agree {inside : List Char} (isQuoted : IsQuoted inside)
    {clock other : List Char} (long : inside.length < clock.length)
    (longToo : inside.length < other.length) (left right : List Char) :
    Agree left right (charactersFrom clock (inside ++ '"' :: left))
      (charactersFrom other (inside ++ '"' :: right)) := by
  induction clock generalizing inside other with
  | nil => cases long
  | cons tick clock inductionHypothesis =>
      cases other with
      | nil => cases longToo
      | cons tock other =>
          simp only [List.length_cons] at long longToo
          cases isQuoted with
          | nil => exact .ok []
          | @plain character rest printable noQuote noBackslash later =>
              simp only [List.length_cons] at long longToo
              have within : rest.length < other.length := by omega
              have restAgree := inductionHypothesis later (by omega) within
              rw [List.cons_append, List.cons_append, charactersFrom, charactersFrom,
                if_neg printable, if_neg printable]
              · exact restAgree.map (character :: ·)
              all_goals assumption
          | @escaped letter rest known later =>
              simp only [List.length_cons] at long longToo
              have within : rest.length < other.length := by omega
              have restAgree := inductionHypothesis later (by omega) within
              rcases exists_escaped known with ⟨notNumbered, character, escapes⟩
              have read (text : List Char) : unescape (letter :: text) = .ok (character, text) := by
                rw [unescape, escapes]
                exact notNumbered
              simp only [List.cons_append, charactersFrom, read]
              exact restAgree.map (character :: ·)
          | @numbered first second third fourth rest hex later =>
              simp only [List.length_cons] at long longToo
              rcases numbered_agree hex later with ⟨further, isQuoted, shorter, escapesAgree⟩
              have within : further.length < other.length := by omega
              have restAgree := inductionHypothesis isQuoted (by omega) within
              have escapeAgrees := escapesAgree left right
              simp only [List.cons_append, charactersFrom, unescape]
              generalize Json.numbered (first :: second :: third :: fourth :: (rest ++ '"' :: left)) =
                outcome at escapeAgrees ⊢
              generalize Json.numbered (first :: second :: third :: fourth :: (rest ++ '"' :: right)) =
                another at escapeAgrees ⊢
              cases escapeAgrees with
              | ok character => exact restAgree.map (character :: ·)
              | error failure another => exact .error failure another

theorem quoted_agree {inside : List Char} (isQuoted : IsQuoted inside) (left right : List Char) :
    Agree left right (quoted (inside ++ '"' :: left)) (quoted (inside ++ '"' :: right)) := by
  have long (left : List Char) : inside.length < (inside ++ '"' :: left).length := by
    rw [List.length_append, List.length_cons]
    omega
  exact (charactersFrom_agree isQuoted (long left) (long right) left right).map String.ofList

/-! ## Values of another kind -/

section Kinds

variable {first : Char} {rest : List Char}

theorem string_refuses (wanted : String) (visible : isBlank first = false)
    (noText : first ≠ '"') : Refuses (string wanted) (first :: rest) := by
  intro before left blank
  refine ⟨wrongType wanted (first :: (rest ++ left)), ?_⟩
  rw [string, afterBlanks_append blank, List.cons_append, afterBlanks_cons visible]
  simp [noText]

theorem sequence_refuses (element : Option (Reader Result)) (visible : isBlank first = false)
    (noList : first ≠ '[') : Refuses (sequence element) (first :: rest) := by
  intro before left blank
  refine ⟨wrongType "a sequence" (first :: (rest ++ left)), ?_⟩
  unfold sequence
  rw [afterBlanks_append blank, List.cons_append, afterBlanks_cons visible]
  simp [noList]

theorem record_refuses (wanted : String) (inside : Option (Inside Result))
    (visible : isBlank first = false) (noList : first ≠ '[') (noObject : first ≠ '\x7b') :
    Refuses (record wanted inside) (first :: rest) := by
  intro before left blank
  refine ⟨wrongType wanted (first :: (rest ++ left)), ?_⟩
  unfold record
  rw [afterBlanks_append blank, List.cons_append, afterBlanks_cons visible]
  simp [noList, noObject]

end Kinds

/-- The reader of texts agrees with itself on a well-formed value. -/
theorem string_alike (wanted : String) {nesting : Nat} {text : List Char}
    (wellFormed : WellFormed nesting text) : ReadAlike (string wanted) (string wanted) text := by
  have other {first : Char} {rest : List Char} (visible : isBlank first = false)
      (noText : first ≠ '"') : ReadAlike (string wanted) (string wanted) (first :: rest) :=
    (string_refuses wanted visible noText).alike (string_refuses wanted visible noText)
  cases wellFormed with
  | word known =>
      rcases exists_first_of_word known with ⟨first, rest, rfl, alone⟩
      exact other alone.visible alone.noText
  | number signed unsigned =>
      rcases exists_first_of_number signed unsigned with ⟨first, rest, starts, alone⟩
      rw [starts]
      exact other alone.visible alone.noText
  | @text _ inside isQuoted =>
      intro before left right blank _ _
      have read (left : List Char) : string wanted (before ++ ('"' :: (inside ++ ['"']) ++ left)) =
          quoted (inside ++ '"' :: left) := by
        rw [string, afterBlanks_append blank, List.cons_append, afterBlanks_cons rfl,
          List.append_assoc]
        rfl
      rw [read, read]
      exact quoted_agree isQuoted left right
  | emptyList blank => exact other rfl (by decide)
  | list spaced each => exact other rfl (by decide)
  | emptyObject blank => exact other rfl (by decide)
  | object spaced each => exact other rfl (by decide)

/-- A clock with a tick for every step and one more goes through the first step. -/
theorem exists_clock {text : List Char} {count : Nat} (long : count + 1 < text.length) :
    Exists fun tick => Exists fun clock => text = tick :: clock ∧ count < clock.length := by
  cases text with
  | nil => cases long
  | cons tick clock => exact ⟨tick, clock, rfl, Nat.lt_of_succ_lt_succ long⟩

/-! ## Lists -/

section Lists

variable {reader other : Reader Result} {isFirst : Bool} {tick tock : Char}
  {clock ticks text text' start start' middle next left right : List Char}

/-- An element is read alike and then the others are. -/
theorem elementsFrom_cons_agree (found : nextElement isFirst text = .ok (some start))
    (foundToo : nextElement isFirst text' = .ok (some start'))
    (elementAgrees : Agree middle next (reader start) (other start'))
    (othersAgree : Agree left right (elementsFrom reader clock false middle)
      (elementsFrom other ticks false next)) :
    Agree left right (elementsFrom reader (tick :: clock) isFirst text)
      (elementsFrom other (tock :: ticks) isFirst text') := by
  rw [elementsFrom, elementsFrom, found, foundToo, ok_bind, ok_bind]
  refine elementAgrees.bind fun element => ?_
  exact othersAgree.bind fun elements => .ok (element :: elements)

theorem elementsFrom_agree {elements : List Element}
    (spaced : forall element, element ∈ elements -> element.Spaced)
    (starts : forall element, element ∈ elements -> StartsValue element.value)
    (alike : forall element, element ∈ elements -> ReadAlike reader other element.value)
    {after : List Char} (blank : Blanks after) :
    Exists fun blanks => Blanks blanks ∧ forall clock ticks left right,
      elements.length < clock.length -> elements.length < ticks.length ->
        Agree (blanks ++ ']' :: left) (blanks ++ ']' :: right)
          (elementsFrom reader clock false (after ++ following Element.onto elements (']' :: left)))
          (elementsFrom other ticks false
            (after ++ following Element.onto elements (']' :: right))) := by
  induction elements generalizing after with
  | nil =>
      refine ⟨after, blank, fun clock ticks left right long longToo => ?_⟩
      cases clock with
      | nil => cases long
      | cons tick clock =>
          cases ticks with
          | nil => cases longToo
          | cons tock ticks =>
              rw [following, following, elementsFrom, elementsFrom, nextElement_end _ blank,
                nextElement_end _ blank]
              exact .ok []
  | cons first rest inductionHypothesis =>
      rw [List.forall_mem_cons] at spaced starts alike
      rcases inductionHypothesis spaced.2 starts.2 alike.2 spaced.1.after with
        ⟨blanks, blankEnd, othersAgree⟩
      refine ⟨blanks, blankEnd, fun clock ticks left right long longToo => ?_⟩
      cases clock with
      | nil => cases long
      | cons tick clock =>
          cases ticks with
          | nil => cases longToo
          | cons tock ticks =>
              exact elementsFrom_cons_agree
                (nextElement_later starts.1 blank spaced.1.before _)
                (nextElement_later starts.1 blank spaced.1.before _)
                (alike.1 [] _ _ blanks_nil (spaced.1.ends rest left) (spaced.1.ends rest right))
                (othersAgree clock ticks left right (Nat.lt_of_succ_lt_succ long)
                  (Nat.lt_of_succ_lt_succ longToo))

/-- Readers of elements agree on what stands inside a list, up to its closing bracket. -/
def ElementsAlike (reader other : Reader Result) (inside : List Char) : Prop :=
  Exists fun blanks => Blanks blanks ∧ forall left right,
    Agree (blanks ++ ']' :: left) (blanks ++ ']' :: right) (elements reader (inside ++ left))
      (elements other (inside ++ right))

theorem elements_append (first : Element) (rest : List Element) (left : List Char) :
    first.onto (following Element.onto rest [']']) ++ left =
      first.onto (following Element.onto rest (']' :: left)) := by
  rw [Element.onto_append, following_append Element.onto_append, List.singleton_append]

theorem elements_alike {first : Element} {rest : List Element}
    (spaced : forall element, element ∈ first :: rest -> element.Spaced)
    (starts : forall element, element ∈ first :: rest -> StartsValue element.value)
    (alike : forall element, element ∈ first :: rest -> ReadAlike reader other element.value) :
    ElementsAlike reader other (first.onto (following Element.onto rest [']'])) := by
  rw [List.forall_mem_cons] at spaced starts alike
  rcases elementsFrom_agree spaced.2 starts.2 alike.2 spaced.1.after with
    ⟨blanks, blankEnd, othersAgree⟩
  refine ⟨blanks, blankEnd, fun left right => ?_⟩
  -- The characters are the clock: the first value takes one, and so does each comma.
  have enough (left : List Char) :
      rest.length + 1 < (first.onto (following Element.onto rest (']' :: left))).length := by
    have long := length_le_following Element.length_le_onto rest (']' :: left)
    rcases starts.1 with ⟨character, later, written, _, _⟩
    simp only [Element.onto, written, List.length_append, List.length_cons] at long ⊢
    omega
  rcases exists_clock (enough left) with ⟨tick, clock, written, long⟩
  rcases exists_clock (enough right) with ⟨tock, ticks, writtenToo, longToo⟩
  simp only [elements, elements_append]
  nth_rewrite 1 [written]
  nth_rewrite 1 [writtenToo]
  exact elementsFrom_cons_agree (nextElement_first starts.1 spaced.1.before _)
    (nextElement_first starts.1 spaced.1.before _)
    (alike.1 [] _ _ blanks_nil (spaced.1.ends rest left) (spaced.1.ends rest right))
    (othersAgree clock ticks left right long longToo)

theorem elements_alike_nil {blanks : List Char} (blank : Blanks blanks) :
    ElementsAlike reader other (blanks ++ [']']) := by
  have ended (reader : Reader Result) (left : List Char) :
      elements reader (blanks ++ [']'] ++ left) = .ok ([], blanks ++ ']' :: left) := by
    have found := nextElement_end true blank left
    rw [List.append_assoc, List.singleton_append]
    unfold elements
    cases inside : blanks ++ ']' :: left with
    | nil => simp at inside
    | cons tick clock =>
        rw [inside] at found
        rw [elementsFrom, found]
        rfl
  refine ⟨blanks, blank, fun left right => ?_⟩
  rw [ended, ended]
  exact .ok []

/-- Readers of lists agree on a list where those of the elements agree inside it. -/
theorem sequence_alike {inside : List Char} (alike : ElementsAlike reader other inside) :
    ReadAlike (sequence (some reader)) (sequence (some other)) ('[' :: inside) := by
  intro before left right blank _ _
  rcases alike with ⟨blanks, blankEnd, agree⟩
  unfold sequence
  rw [List.cons_append, List.cons_append, afterBlanks_append blank, afterBlanks_append blank,
    afterBlanks_cons rfl, afterBlanks_cons rfl]
  exact (agree left right).closeList blankEnd

/-- An element of a record that is written as a list. -/
theorem item_agree (found : nextElement isFirst text = .ok (some start))
    (foundToo : nextElement isFirst text' = .ok (some start'))
    (agree : Agree left right (reader start) (other start')) :
    Agree left right (item isFirst reader text) (item isFirst other text') := by
  rw [item, item, found, foundToo, ok_bind, ok_bind]
  exact agree.bind fun value => .ok (some value)

theorem item_end (reader : Reader Result) (isFirst : Bool) {blanks : List Char}
    (blank : Blanks blanks) (left : List Char) :
    item isFirst reader (blanks ++ ']' :: left) = .ok (none, blanks ++ ']' :: left) := by
  rw [item, nextElement_end isFirst blank]
  rfl

end Lists

/-! ## Objects -/

/-- Two ways of reading a field agree on it: on what follows its name, whatever the name
is and whatever was gathered before. -/
def FieldAlike (read other : String -> Gathered -> Reader Gathered) (field : Field) : Prop :=
  forall name gathered left right, EndsRun continuesNumber left ->
    EndsRun continuesNumber right ->
      Agree left right
        (read name gathered (field.behind ++ ':' ::
          (field.element.before ++ (field.element.value ++ left))))
        (other name gathered (field.behind ++ ':' ::
          (field.element.before ++ (field.element.value ++ right))))

section Objects

variable {read other : String -> Gathered -> Reader Gathered} {isFirst : Bool}
  {tick tock : Char} {name clock ticks text text' start start' middle next left right : List Char}
  {gathered : Gathered}

/-- A field is read alike and then the others are. -/
theorem fieldsFrom_cons_agree (isQuoted : IsQuoted name)
    (found : nextName isFirst text = .ok (some (name ++ '"' :: start)))
    (foundToo : nextName isFirst text' = .ok (some (name ++ '"' :: start')))
    (fieldAgrees : forall key, Agree middle next (read key gathered start)
      (other key gathered start'))
    (othersAgree : forall gathered, Agree left right (fieldsFrom read clock false gathered middle)
      (fieldsFrom other ticks false gathered next)) :
    Agree left right (fieldsFrom read (tick :: clock) isFirst gathered text)
      (fieldsFrom other (tock :: ticks) isFirst gathered text') := by
  rw [fieldsFrom, fieldsFrom, found, foundToo, ok_bind, ok_bind]
  refine (quoted_agree isQuoted start start').bind fun key => ?_
  exact (fieldAgrees key).bind fun gathered => othersAgree gathered

theorem fieldsFrom_agree {fields : List Field}
    (spaced : forall field, field ∈ fields -> field.Spaced)
    (alike : forall field, field ∈ fields -> FieldAlike read other field)
    {after : List Char} (blank : Blanks after) :
    Exists fun blanks => Blanks blanks ∧ forall gathered clock ticks left right,
      fields.length < clock.length -> fields.length < ticks.length ->
        Agree (blanks ++ '\x7d' :: left) (blanks ++ '\x7d' :: right)
          (fieldsFrom read clock false gathered
            (after ++ following Field.onto fields ('\x7d' :: left)))
          (fieldsFrom other ticks false gathered
            (after ++ following Field.onto fields ('\x7d' :: right))) := by
  induction fields generalizing after with
  | nil =>
      refine ⟨after, blank, fun gathered clock ticks left right long longToo => ?_⟩
      cases clock with
      | nil => cases long
      | cons tick clock =>
          cases ticks with
          | nil => cases longToo
          | cons tock ticks =>
              rw [following, following, fieldsFrom, fieldsFrom, nextName_end _ blank,
                nextName_end _ blank]
              exact .ok gathered
  | cons first rest inductionHypothesis =>
      rw [List.forall_mem_cons] at spaced alike
      rcases inductionHypothesis spaced.2 alike.2 spaced.1.element.after with
        ⟨blanks, blankEnd, othersAgree⟩
      refine ⟨blanks, blankEnd, fun gathered clock ticks left right long longToo => ?_⟩
      cases clock with
      | nil => cases long
      | cons tick clock =>
          cases ticks with
          | nil => cases longToo
          | cons tock ticks =>
              exact fieldsFrom_cons_agree spaced.1.name
                (nextName_later blank spaced.1.before _) (nextName_later blank spaced.1.before _)
                (fun key => alike.1 key gathered _ _ (spaced.1.ends rest left) (spaced.1.ends rest right))
                (fun gathered => othersAgree gathered clock ticks left right
                  (Nat.lt_of_succ_lt_succ long) (Nat.lt_of_succ_lt_succ longToo))

/-- Two ways of gathering fields agree on what stands inside an object, up to its closing
bracket. -/
def FieldsAlike (read other : String -> Gathered -> Reader Gathered) (gathered : Gathered)
    (inside : List Char) : Prop :=
  Exists fun blanks => Blanks blanks ∧ forall left right,
    Agree (blanks ++ '\x7d' :: left) (blanks ++ '\x7d' :: right)
      (fields read gathered (inside ++ left)) (fields other gathered (inside ++ right))

theorem fields_append (first : Field) (rest : List Field) (left : List Char) :
    first.onto (following Field.onto rest ['\x7d']) ++ left =
      first.onto (following Field.onto rest ('\x7d' :: left)) := by
  rw [Field.onto_append, following_append Field.onto_append, List.singleton_append]

theorem fields_alike {first : Field} {rest : List Field}
    (spaced : forall field, field ∈ first :: rest -> field.Spaced)
    (alike : forall field, field ∈ first :: rest -> FieldAlike read other field)
    (gathered : Gathered) :
    FieldsAlike read other gathered (first.onto (following Field.onto rest ['\x7d'])) := by
  rw [List.forall_mem_cons] at spaced alike
  rcases fieldsFrom_agree spaced.2 alike.2 spaced.1.element.after with
    ⟨blanks, blankEnd, othersAgree⟩
  refine ⟨blanks, blankEnd, fun left right => ?_⟩
  have enough (left : List Char) :
      rest.length + 1 < (first.onto (following Field.onto rest ('\x7d' :: left))).length := by
    have long := length_le_following Field.length_le_onto rest ('\x7d' :: left)
    simp only [Field.onto, Element.onto, List.length_append, List.length_cons] at long ⊢
    omega
  rcases exists_clock (enough left) with ⟨tick, clock, written, long⟩
  rcases exists_clock (enough right) with ⟨tock, ticks, writtenToo, longToo⟩
  simp only [fields, fields_append]
  nth_rewrite 1 [written]
  nth_rewrite 1 [writtenToo]
  exact fieldsFrom_cons_agree spaced.1.name (nextName_first spaced.1.before _)
    (nextName_first spaced.1.before _)
    (fun key => alike.1 key gathered _ _ (spaced.1.ends rest left) (spaced.1.ends rest right))
    (fun gathered => othersAgree gathered clock ticks left right long longToo)

theorem fields_alike_nil (gathered : Gathered) {blanks : List Char} (blank : Blanks blanks) :
    FieldsAlike read other gathered (blanks ++ ['\x7d']) := by
  have ended (read : String -> Gathered -> Reader Gathered) (left : List Char) :
      fields read gathered (blanks ++ ['\x7d'] ++ left) =
        .ok (gathered, blanks ++ '\x7d' :: left) := by
    have found := nextName_end true blank left
    rw [List.append_assoc, List.singleton_append]
    unfold fields
    cases inside : blanks ++ '\x7d' :: left with
    | nil => simp at inside
    | cons tick clock =>
        rw [inside] at found
        rw [fieldsFrom, found]
        rfl
  refine ⟨blanks, blank, fun left right => ?_⟩
  rw [ended, ended]
  exact .ok gathered

end Objects

/-! ## Records -/

section Records

variable {first second : Inside Result} {inside : List Char}

/-- Readers of a record agree on a list where they agree inside it. -/
theorem record_alike_list (agree : forall left right, Agree left right
      (closeList (first.listed (inside ++ left))) (closeList (second.listed (inside ++ right))))
    (wanted : String) :
    ReadAlike (record wanted (some first)) (record wanted (some second)) ('[' :: inside) := by
  intro before left right blank _ _
  unfold record
  rw [List.cons_append, List.cons_append, afterBlanks_append blank, afterBlanks_append blank,
    afterBlanks_cons rfl, afterBlanks_cons rfl]
  exact agree left right

/-- Readers of a record agree on an object where they gather its fields alike, and make
the same of what they have gathered. -/
theorem record_alike_object {read other : String -> Gathered -> Reader Gathered}
    {gathered : Gathered}
    {finish finishOther : Gathered × List Char -> Except Failure (Result × List Char)}
    (opened : forall text, first.named text = fields read gathered text >>= finish)
    (openedToo : forall text, second.named text = fields other gathered text >>= finishOther)
    (made : forall gathered left right, Agree left right (finish (gathered, left))
      (finishOther (gathered, right)))
    (alike : FieldsAlike read other gathered inside) (wanted : String) :
    ReadAlike (record wanted (some first)) (record wanted (some second)) ('\x7b' :: inside) := by
  intro before left right blank _ _
  rcases alike with ⟨blanks, blankEnd, agree⟩
  unfold record
  rw [List.cons_append, List.cons_append, afterBlanks_append blank, afterBlanks_append blank,
    afterBlanks_cons rfl, afterBlanks_cons rfl]
  apply Agree.closeObject blankEnd
  rw [opened, openedToo]
  exact (agree left right).bind fun gathered => made gathered _ _

end Records

/-! ## Fields -/

section SingleFields

variable {field : Field} {left right : List Char}

/-- A field that is given once is read alike where its value is. -/
theorem once_agree {reader other : Reader Result} (spaced : field.Spaced)
    (alike : ReadAlike reader other field.element.value) (name : String) (seen : Option Result)
    (ends : EndsRun continuesNumber left) (endsToo : EndsRun continuesNumber right) :
    Agree left right
      (once name seen reader (field.behind ++ ':' ::
        (field.element.before ++ (field.element.value ++ left))))
      (once name seen other (field.behind ++ ':' ::
        (field.element.before ++ (field.element.value ++ right)))) := by
  cases seen with
  | some result => exact .error _ _
  | none =>
      simp only [once, colon_blanks spaced.behind, ok_bind]
      exact (alike _ _ _ spaced.element.before ends endsToo).bind fun value => .ok (some value)

/-- A field that nobody asks for is passed over alike. -/
theorem ignored_agree {nesting : Nat} (spaced : field.Spaced)
    (wellFormed : WellFormed nesting field.element.value) (gathered : Gathered)
    (ends : EndsRun continuesNumber left) (endsToo : EndsRun continuesNumber right) :
    Agree left right
      (ignored gathered (field.behind ++ ':' ::
        (field.element.before ++ (field.element.value ++ left))))
      (ignored gathered (field.behind ++ ':' ::
        (field.element.before ++ (field.element.value ++ right)))) := by
  simp only [ignored, colon_blanks spaced.behind, ok_bind,
    skip_of_wellFormed wellFormed spaced.element.before ends,
    skip_of_wellFormed wellFormed spaced.element.before endsToo]
  exact .ok gathered

end SingleFields

/-! ## Whole texts -/

section Whole

variable {reader : Reader Result} {text : String}

theorem whole_of_ok {result : Result} {left : List Char}
    (read : reader text.toList = .ok (result, left)) (blank : Blanks left) :
    whole reader text = .ok result := by
  have noneLeft : afterBlanks left = [] := by
    rw [← List.append_nil left, afterBlanks_append blank]
    rfl
  rw [whole, read, ok_bind]
  simp only [noneLeft]
  rfl

theorem whole_of_error {failure : Failure} (failed : reader text.toList = .error failure) :
    whole reader text = .error failure := by
  rw [whole, failed]
  rfl

end Whole

end Json
end Guidebook
