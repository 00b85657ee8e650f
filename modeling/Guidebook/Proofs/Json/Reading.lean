import Guidebook.Json.Reader
import Guidebook.Proofs.Json.Lexeme
import Guidebook.Proofs.Json.Value

namespace Guidebook
namespace Json

/-!
# Written values are read back

What is written in a layout of blanks is read back exactly where the nesting
suffices, and is a failure where not.  A reader returns a result from a written
value in this sense, with whatever may follow the value left over.  Readers of
lists and of objects return their results when the readers of what stands inside
do, so that a typed reader of nested records needs one statement for each record
and none about the text.
-/

variable {Result Other Gathered : Type}

/-! ## Outcomes -/

/-- An outcome of reading: the result, with the characters that are left, where it
fits, and a failure where it does not. -/
inductive Reads (fits : Prop) (result : Result) (left : List Char) :
    Except Failure (Result × List Char) -> Prop
  | ok (holds : fits) : Reads fits result left (.ok (result, left))
  | error (fails : ¬ fits) (failure : Failure) : Reads fits result left (.error failure)

theorem ok_bind (result : Result) (step : Result -> Except Failure Other) :
    ((.ok result : Except Failure Result) >>= step) = step result := rfl

theorem listEnd_blanks {blanks : List Char} (blank : Blanks blanks) (left : List Char) :
    listEnd (blanks ++ ']' :: left) = .ok left := by
  rw [listEnd, afterBlanks_append blank, afterBlanks_cons rfl]
  rfl

theorem objectEnd_blanks {blanks : List Char} (blank : Blanks blanks) (left : List Char) :
    objectEnd (blanks ++ '\x7d' :: left) = .ok left := by
  rw [objectEnd, afterBlanks_append blank, afterBlanks_cons rfl]
  rfl

namespace Reads

variable {fits more : Prop} {result : Result} {next : Other} {middle left : List Char}
  {outcome : Except Failure (Result × List Char)}

theorem congr (reads : Reads fits result left outcome) (same : fits ↔ more) :
    Reads more result left outcome := by
  cases reads with
  | ok holds => exact .ok (same.mp holds)
  | error fails failure => exact .error (fun holds => fails (same.mpr holds)) failure

/-- One reader after another: both must fit. -/
theorem bind {step : Result × List Char -> Except Failure (Other × List Char)}
    (first : Reads fits result middle outcome)
    (second : fits -> Reads more next left (step (result, middle))) :
    Reads (fits ∧ more) next left (outcome >>= step) := by
  cases first with
  | ok holds =>
      have later := second holds
      show Reads _ next left (step (result, middle))
      generalize step (result, middle) = following at later ⊢
      cases later with
      | ok alsoHolds => exact .ok ⟨holds, alsoHolds⟩
      | error fails failure => exact .error (fun both => fails both.2) failure
  | error fails failure => exact .error (fun both => fails both.1) failure

/-- What is made of a result without reading further fits where the result does. -/
theorem followed {step : Result × List Char -> Except Failure (Other × List Char)}
    (reads : Reads fits result middle outcome) (made : step (result, middle) = .ok (next, left)) :
    Reads fits next left (outcome >>= step) := by
  cases reads with
  | ok holds =>
      rw [ok_bind, made]
      exact .ok holds
  | error fails failure => exact .error fails failure

theorem map (reads : Reads fits result left outcome) (change : Result -> Other) :
    Reads fits (change result) left
      (outcome.map fun (result, left) => (change result, left)) := by
  cases reads with
  | ok holds => exact .ok holds
  | error fails failure => exact .error fails failure

theorem eq_ok (reads : Reads fits result left outcome) (holds : fits) :
    outcome = .ok (result, left) := by
  cases reads with
  | ok _ => rfl
  | error fails failure => exact False.elim (fails holds)

theorem eq_error (reads : Reads fits result left outcome) (fails : ¬ fits) :
    Exists fun failure => outcome = .error failure := by
  cases reads with
  | ok holds => exact False.elim (fails holds)
  | error _ failure => exact ⟨failure, rfl⟩

/-! ## Closing brackets -/

theorem closeList {blanks : List Char} (blank : Blanks blanks)
    (inside : Reads fits result (blanks ++ ']' :: left) outcome) :
    Reads fits result left (closeList outcome) := by
  cases inside with
  | ok holds =>
      rw [Json.closeList, listEnd_blanks blank]
      exact .ok holds
  | error fails failure => exact .error fails _

theorem closeObject {blanks : List Char} (blank : Blanks blanks)
    (inside : Reads fits result (blanks ++ '\x7d' :: left) outcome) :
    Reads fits result left (closeObject outcome) := by
  cases inside with
  | ok holds =>
      rw [Json.closeObject, objectEnd_blanks blank]
      exact .ok holds
  | error fails failure => exact .error fails _

end Reads

/-! ## Layouts -/

/-- Only blanks stand where a layout has a choice. -/
structure Layout.Blank (layout : Layout) : Prop where
  line : forall depth, Blanks (layout.line depth)
  colon : Exists fun after => layout.colon = ':' :: after ∧ Blanks after

theorem Layout.blank_compact : Layout.compact.Blank :=
  ⟨fun _ => blanks_nil, [], rfl, blanks_nil⟩

theorem Layout.blank_indented : Layout.indented.Blank := by
  refine ⟨fun depth character listed => ?_, [' '], rfl, List.forall_mem_singleton.mpr rfl⟩
  rcases List.mem_cons.mp listed with broken | spaced
  · rw [broken]
    rfl
  · rw [List.eq_of_mem_replicate spaced]
    rfl

namespace Value

/-- What stands between the brackets of a list. -/
def insideList (layout : Layout) (depth : Nat) : List Value -> List Char
  | [] => []
  | first :: rest =>
    layout.line (depth + 1) ++ (characters layout (depth + 1) first ++
      (charactersOfElements layout (depth + 1) rest ++ layout.line depth))

/-- What stands between the brackets of an object. -/
def insideObject (layout : Layout) (depth : Nat) : List (String × Value) -> List Char
  | [] => []
  | (name, value) :: rest =>
    layout.line (depth + 1) ++ (quote name ++ (layout.colon ++
      (characters layout (depth + 1) value ++
        (charactersOfFields layout (depth + 1) rest ++ layout.line depth))))

theorem characters_list_append (layout : Layout) (depth : Nat) (elements : List Value)
    (left : List Char) :
    characters layout depth (.list elements) ++ left =
      '[' :: (insideList layout depth elements ++ ']' :: left) := by
  cases elements <;> simp [characters, insideList]

theorem characters_object_append (layout : Layout) (depth : Nat)
    (fields : List (String × Value)) (left : List Char) :
    characters layout depth (.object fields) ++ left =
      '\x7b' :: (insideObject layout depth fields ++ '\x7d' :: left) := by
  cases fields <;> simp [characters, insideObject]

theorem charactersOfElements_cons_append (layout : Layout) (depth : Nat) (first : Value)
    (rest : List Value) (left : List Char) :
    charactersOfElements layout depth (first :: rest) ++ left =
      ',' :: (layout.line depth ++ (characters layout depth first ++
        (charactersOfElements layout depth rest ++ left))) := by
  simp [charactersOfElements]

theorem charactersOfFields_cons_append (layout : Layout) (depth : Nat) (name : String)
    (value : Value) (rest : List (String × Value)) (left : List Char) :
    charactersOfFields layout depth ((name, value) :: rest) ++ left =
      ',' :: (layout.line depth ++ (quote name ++ (layout.colon ++
        (characters layout depth value ++ (charactersOfFields layout depth rest ++ left))))) := by
  simp [charactersOfFields]

theorem length_le_charactersOfElements (layout : Layout) (depth : Nat) (elements : List Value) :
    elements.length ≤ (charactersOfElements layout depth elements).length := by
  induction elements with
  | nil => exact Nat.le_refl 0
  | cons first rest inductionHypothesis =>
      simp only [charactersOfElements, List.cons_append, List.length_cons, List.length_append]
      omega

theorem length_le_charactersOfFields (layout : Layout) (depth : Nat)
    (fields : List (String × Value)) :
    fields.length ≤ (charactersOfFields layout depth fields).length := by
  induction fields with
  | nil => exact Nat.le_refl 0
  | cons first rest inductionHypothesis =>
      simp only [charactersOfFields, List.cons_append, List.length_cons, List.length_append]
      omega

theorem Exact.startsValue {value : Value} (exact : value.Exact) (layout : Layout)
    (depth : Nat) : StartsValue (value.characters layout depth) := by
  cases exact with
  | null => exact ⟨'n', _, rfl, by decide, by decide⟩
  | boolean value =>
      cases value with
      | false => exact ⟨'f', _, rfl, by decide, by decide⟩
      | true => exact ⟨'t', _, rfl, by decide, by decide⟩
  | @integer value fits =>
      rcases Numeral.exists_first_toString value with ⟨first, rest, digits, decimal⟩
      exact ⟨first, rest, digits, isBlank_of_isDigit decimal,
        Numeral.ne_of_isDigit decimal (by decide)⟩
  | text value => exact ⟨'"', _, rfl, by decide, by decide⟩
  | @list elements each =>
      have written := characters_list_append layout depth elements []
      rw [List.append_nil] at written
      exact ⟨'[', _, written, by decide, by decide⟩
  | @object fields each =>
      have written := characters_object_append layout depth fields []
      rw [List.append_nil] at written
      exact ⟨'\x7b', _, written, by decide, by decide⟩

end Value

/-- A reader returns a result from a value as it is written at any depth, behind any
blanks and before anything that does not continue a number. -/
def Returns (reader : Reader Result) (layout : Layout) (nesting : Nat) (value : Value)
    (result : Result) : Prop :=
  forall depth blanks left, Blanks blanks -> EndsRun continuesNumber left ->
    Reads (value.nesting ≤ nesting) result left
      (reader (blanks ++ (value.characters layout depth ++ left)))

/-! ## Lists -/

theorem nextElement_end (first : Bool) {blanks : List Char} (blank : Blanks blanks)
    (left : List Char) : nextElement first (blanks ++ ']' :: left) = .ok none := by
  rw [nextElement, afterBlanks_append blank, afterBlanks_cons rfl]
  rfl

theorem nextElement_first {text blanks : List Char} (starts : StartsValue text)
    (blank : Blanks blanks) (left : List Char) :
    nextElement true (blanks ++ (text ++ left)) = .ok (some (text ++ left)) := by
  rcases starts with ⟨first, rest, rfl, visible, notEnd⟩
  rw [List.cons_append]
  have following : afterBlanks (blanks ++ first :: (rest ++ left)) = first :: (rest ++ left) := by
    rw [afterBlanks_append blank, afterBlanks_cons visible]
  simp [nextElement, following, notEnd]

theorem nextElement_later {text before blanks : List Char} (starts : StartsValue text)
    (blankBefore : Blanks before) (blank : Blanks blanks) (left : List Char) :
    nextElement false (before ++ ',' :: (blanks ++ (text ++ left))) =
      .ok (some (text ++ left)) := by
  rcases starts with ⟨first, rest, rfl, visible, notEnd⟩
  rw [List.cons_append]
  have comma : afterBlanks (before ++ ',' :: (blanks ++ first :: (rest ++ left))) =
      ',' :: (blanks ++ first :: (rest ++ left)) := by
    rw [afterBlanks_append blankBefore, afterBlanks_cons rfl]
  have following : afterBlanks (blanks ++ first :: (rest ++ left)) = first :: (rest ++ left) := by
    rw [afterBlanks_append blank, afterBlanks_cons visible]
  simp [nextElement, comma, following, notEnd]

theorem endsRun_charactersOfElements (layout : Layout) (depth : Nat) (elements : List Value)
    {left : List Char} (ends : EndsRun continuesNumber left) :
    EndsRun continuesNumber (Value.charactersOfElements layout depth elements ++ left) := by
  cases elements with
  | nil => exact ends
  | cons first rest => exact endsRun_cons rfl

section Elements

variable {element : Reader Result} {layout : Layout} {nesting : Nat} {values : List Value}
  {results : List Result}

/-- One element is read and then the others. -/
theorem elementsFrom_cons_reads {fits more : Prop} {first : Bool} {tick : Char} {result : Result}
    {clock text start middle left : List Char} (next : nextElement first text = .ok (some start))
    (elementRead : Reads fits result middle (element start))
    (othersRead : Reads more results left (elementsFrom element clock false middle)) :
    Reads (fits ∧ more) (result :: results) left
      (elementsFrom element (tick :: clock) first text) := by
  rw [elementsFrom, next, ok_bind]
  apply elementRead.bind
  intro _
  exact othersRead.followed rfl

/-- The elements behind the first one are read back together. -/
theorem elementsFrom_reads (spaced : layout.Blank)
    (each : List.Forall₂ (Returns element layout nesting) values results)
    (exact : forall value, value ∈ values -> value.Exact) (depth : Nat) {clock blanks : List Char}
    (long : values.length < clock.length) (blank : Blanks blanks) (left : List Char) :
    Reads (forall value, value ∈ values -> value.nesting ≤ nesting) results (blanks ++ ']' :: left)
      (elementsFrom element clock false
        (Value.charactersOfElements layout depth values ++ (blanks ++ ']' :: left))) := by
  induction each generalizing clock with
  | nil =>
      cases clock with
      | nil => cases long
      | cons tick clock =>
          rw [Value.charactersOfElements, List.nil_append, elementsFrom, nextElement_end _ blank]
          exact .ok (List.forall_mem_nil _)
  | @cons value result values results returns _ inductionHypothesis =>
      cases clock with
      | nil => cases long
      | cons tick clock =>
          rw [List.forall_mem_cons] at exact
          have following := endsRun_charactersOfElements layout depth values
            (endsRun_listEnd blank left)
          have valueRead := returns depth [] _ blanks_nil following
          have valuesRead := inductionHypothesis exact.2 (Nat.lt_of_succ_lt_succ long)
          have starts := exact.1.startsValue layout depth
          have next := nextElement_later starts blanks_nil (spaced.line depth)
            (Value.charactersOfElements layout depth values ++ (blanks ++ ']' :: left))
          rw [Value.charactersOfElements_cons_append]
          apply Reads.congr _ List.forall_mem_cons.symm
          exact elementsFrom_cons_reads next valueRead valuesRead

theorem elementsFrom_first_reads (spaced : layout.Blank) {value : Value} {result : Result}
    (returns : Returns element layout nesting value result)
    (each : List.Forall₂ (Returns element layout nesting) values results)
    (exact : forall inner, inner ∈ value :: values -> inner.Exact) (depth : Nat)
    {clock before blanks : List Char} (long : (value :: values).length < clock.length)
    (blankBefore : Blanks before) (blank : Blanks blanks) (left : List Char) :
    Reads (forall inner, inner ∈ value :: values -> inner.nesting ≤ nesting) (result :: results)
      (blanks ++ ']' :: left)
      (elementsFrom element clock true (before ++ (value.characters layout depth ++
        (Value.charactersOfElements layout depth values ++ (blanks ++ ']' :: left))))) := by
  cases clock with
  | nil => cases long
  | cons tick clock =>
      rw [List.forall_mem_cons] at exact
      have following := endsRun_charactersOfElements layout depth values
        (endsRun_listEnd blank left)
      have valueRead := returns depth [] _ blanks_nil following
      have valuesRead := elementsFrom_reads spaced each exact.2 depth
        (Nat.lt_of_succ_lt_succ long) blank left
      have starts := exact.1.startsValue layout depth
      have next := nextElement_first starts blankBefore
        (Value.charactersOfElements layout depth values ++ (blanks ++ ']' :: left))
      apply Reads.congr _ List.forall_mem_cons.symm
      exact elementsFrom_cons_reads next valueRead valuesRead

/-- The elements of a list are read back together, up to the bracket that ends it. -/
theorem elements_reads (spaced : layout.Blank)
    (each : List.Forall₂ (Returns element layout nesting) values results)
    (exact : forall value, value ∈ values -> value.Exact) (depth : Nat) (left : List Char) :
    Reads (forall value, value ∈ values -> value.nesting ≤ nesting) results left
      (closeList (elements element (Value.insideList layout depth values ++ ']' :: left))) := by
  cases each with
  | nil =>
      apply Reads.closeList blanks_nil
      exact .ok (List.forall_mem_nil _)
  | @cons value result values results returns later =>
      apply Reads.closeList (spaced.line depth)
      have text : Value.insideList layout depth (value :: values) ++ ']' :: left =
          layout.line (depth + 1) ++ (value.characters layout (depth + 1) ++
            (Value.charactersOfElements layout (depth + 1) values ++
              (layout.line depth ++ ']' :: left))) := by
        simp [Value.insideList]
      -- The characters are the clock: every element takes one at least, and the end another.
      have long : (value :: values).length < (layout.line (depth + 1) ++
          (value.characters layout (depth + 1) ++
            (Value.charactersOfElements layout (depth + 1) values ++
              (layout.line depth ++ ']' :: left)))).length := by
        have ticks := Value.length_le_charactersOfElements layout (depth + 1) values
        rcases (exact value List.mem_cons_self).startsValue layout (depth + 1) with
          ⟨first, rest, written, _, _⟩
        simp only [written, List.length_append, List.length_cons]
        omega
      rw [elements, text]
      exact elementsFrom_first_reads spaced returns later exact (depth + 1) long
        (spaced.line (depth + 1)) (spaced.line depth) left

end Elements

/-! ## Objects -/

theorem nextName_end (first : Bool) {blanks : List Char} (blank : Blanks blanks)
    (left : List Char) : nextName first (blanks ++ '\x7d' :: left) = .ok none := by
  rw [nextName, afterBlanks_append blank, afterBlanks_cons rfl]
  rfl

theorem nextName_first {blanks : List Char} (blank : Blanks blanks) (left : List Char) :
    nextName true (blanks ++ '"' :: left) = .ok (some left) := by
  have following : afterBlanks (blanks ++ '"' :: left) = '"' :: left := by
    rw [afterBlanks_append blank, afterBlanks_cons rfl]
  simp [nextName, following]

theorem nextName_later {before blanks : List Char} (blankBefore : Blanks before)
    (blank : Blanks blanks) (left : List Char) :
    nextName false (before ++ ',' :: (blanks ++ '"' :: left)) = .ok (some left) := by
  have comma : afterBlanks (before ++ ',' :: (blanks ++ '"' :: left)) =
      ',' :: (blanks ++ '"' :: left) := by
    rw [afterBlanks_append blankBefore, afterBlanks_cons rfl]
  have following : afterBlanks (blanks ++ '"' :: left) = '"' :: left := by
    rw [afterBlanks_append blank, afterBlanks_cons rfl]
  simp [nextName, comma, following]

theorem endsRun_charactersOfFields (layout : Layout) (depth : Nat)
    (fields : List (String × Value)) {left : List Char} (ends : EndsRun continuesNumber left) :
    EndsRun continuesNumber (Value.charactersOfFields layout depth fields ++ left) := by
  cases fields with
  | nil => exact ends
  | cons first rest => exact endsRun_cons rfl

/-- What gathering one field after another makes: each field, read from its colon on,
takes what was gathered before to what is gathered next. -/
inductive Gathers (field : String -> Gathered -> Reader Gathered) (layout : Layout)
    (nesting : Nat) : Gathered -> List (String × Value) -> Gathered -> Prop
  | nil (gathered : Gathered) : Gathers field layout nesting gathered [] gathered
  | cons {gathered next final : Gathered} {name : String} {value : Value}
      {rest : List (String × Value)}
      (first : forall depth left, EndsRun continuesNumber left ->
        Reads (value.nesting ≤ nesting) next left
          (field name gathered (layout.colon ++ (value.characters layout depth ++ left))))
      (later : Gathers field layout nesting next rest final) :
      Gathers field layout nesting gathered ((name, value) :: rest) final

section Fields

variable {field : String -> Gathered -> Reader Gathered} {layout : Layout} {nesting : Nat}
  {fields : List (String × Value)} {gathered final : Gathered}

/-- One field is read and then the others. -/
theorem fieldsFrom_cons_reads {fits more : Prop} {first : Bool} {tick : Char} {name : String}
    {next : Gathered} {clock text start middle left : List Char}
    (named : nextName first text = .ok (some (name.toList.flatMap escape ++ '"' :: start)))
    (fieldRead : Reads fits next middle (field name gathered start))
    (othersRead : Reads more final left (fieldsFrom field clock false next middle)) :
    Reads (fits ∧ more) final left (fieldsFrom field (tick :: clock) first gathered text) := by
  rw [fieldsFrom, named, ok_bind]
  dsimp only
  rw [quoted_escape, ok_bind]
  apply fieldRead.bind
  intro _
  exact othersRead

theorem fieldsFrom_reads (spaced : layout.Blank)
    (gathers : Gathers field layout nesting gathered fields final) (depth : Nat)
    {clock blanks : List Char} (long : fields.length < clock.length) (blank : Blanks blanks)
    (left : List Char) :
    Reads (forall inner, inner ∈ fields -> inner.2.nesting ≤ nesting) final
      (blanks ++ '\x7d' :: left)
      (fieldsFrom field clock false gathered
        (Value.charactersOfFields layout depth fields ++ (blanks ++ '\x7d' :: left))) := by
  induction gathers generalizing clock with
  | nil gathered =>
      cases clock with
      | nil => cases long
      | cons tick clock =>
          rw [Value.charactersOfFields, List.nil_append, fieldsFrom, nextName_end _ blank]
          exact .ok (List.forall_mem_nil _)
  | @cons gathered next final name value rest first _ inductionHypothesis =>
      cases clock with
      | nil => cases long
      | cons tick clock =>
          have following := endsRun_charactersOfFields layout depth rest
            (endsRun_objectEnd blank left)
          have fieldRead := first depth _ following
          have othersRead := inductionHypothesis (Nat.lt_of_succ_lt_succ long)
          rw [Value.charactersOfFields_cons_append, quote_append]
          apply Reads.congr _ List.forall_mem_cons.symm
          exact fieldsFrom_cons_reads (nextName_later blanks_nil (spaced.line depth) _) fieldRead othersRead

theorem fieldsFrom_first_reads (spaced : layout.Blank) {name : String} {value : Value}
    {next : Gathered}
    (first : forall depth left, EndsRun continuesNumber left ->
      Reads (value.nesting ≤ nesting) next left
        (field name gathered (layout.colon ++ (value.characters layout depth ++ left))))
    (later : Gathers field layout nesting next fields final) (depth : Nat)
    {clock before blanks : List Char} (long : fields.length + 1 < clock.length)
    (blankBefore : Blanks before) (blank : Blanks blanks) (left : List Char) :
    Reads (forall inner, inner ∈ (name, value) :: fields -> inner.2.nesting ≤ nesting) final
      (blanks ++ '\x7d' :: left)
      (fieldsFrom field clock true gathered (before ++ (quote name ++ (layout.colon ++
        (value.characters layout depth ++
          (Value.charactersOfFields layout depth fields ++ (blanks ++ '\x7d' :: left))))))) := by
  cases clock with
  | nil => cases long
  | cons tick clock =>
      have following := endsRun_charactersOfFields layout depth fields (endsRun_objectEnd blank left)
      have fieldRead := first depth _ following
      have othersRead := fieldsFrom_reads spaced later depth (Nat.lt_of_succ_lt_succ long) blank left
      rw [quote_append]
      apply Reads.congr _ List.forall_mem_cons.symm
      exact fieldsFrom_cons_reads (nextName_first blankBefore _) fieldRead othersRead

/-- The fields of an object are gathered up to the bracket that ends it. -/
theorem fields_reads (spaced : layout.Blank)
    (gathers : Gathers field layout nesting gathered fields final) (depth : Nat)
    (left : List Char) :
    Exists fun blanks => Blanks blanks ∧
      Reads (forall inner, inner ∈ fields -> inner.2.nesting ≤ nesting) final
        (blanks ++ '\x7d' :: left)
        (Json.fields field gathered (Value.insideObject layout depth fields ++ '\x7d' :: left)) := by
  cases gathers with
  | nil => exact ⟨[], blanks_nil, .ok (List.forall_mem_nil _)⟩
  | @cons _ next _ name value rest first later =>
      refine ⟨layout.line depth, spaced.line depth, ?_⟩
      have text : Value.insideObject layout depth ((name, value) :: rest) ++ '\x7d' :: left =
          layout.line (depth + 1) ++ (quote name ++ (layout.colon ++
            (value.characters layout (depth + 1) ++
              (Value.charactersOfFields layout (depth + 1) rest ++
                (layout.line depth ++ '\x7d' :: left))))) := by
        simp [Value.insideObject]
      have long : rest.length + 1 < (layout.line (depth + 1) ++ (quote name ++ (layout.colon ++
          (value.characters layout (depth + 1) ++
            (Value.charactersOfFields layout (depth + 1) rest ++
              (layout.line depth ++ '\x7d' :: left)))))).length := by
        have ticks := Value.length_le_charactersOfFields layout (depth + 1) rest
        simp only [quote, List.length_append, List.length_cons]
        omega
      rw [Json.fields, text]
      exact fieldsFrom_first_reads spaced first later (depth + 1) long (spaced.line (depth + 1))
        (spaced.line depth) left

end Fields

/-! ## Single readers -/

section Readers

variable {reader : Reader Result} {layout : Layout} {nesting : Nat} {value : Value}
  {result : Result}

theorem colon_blanks {before : List Char} (blank : Blanks before) (left : List Char) :
    colon (before ++ ':' :: left) = .ok left := by
  rw [colon, afterBlanks_append blank, afterBlanks_cons rfl]
  rfl

theorem colon_append (spaced : layout.Blank) :
    Exists fun blanks => Blanks blanks ∧
      forall left, colon (layout.colon ++ left) = .ok (blanks ++ left) := by
  rcases spaced.colon with ⟨after, written, blank⟩
  refine ⟨after, blank, fun left => ?_⟩
  rw [written]
  exact colon_blanks blanks_nil (after ++ left)

theorem once_reads (spaced : layout.Blank) (returns : Returns reader layout nesting value result)
    (name : String) (depth : Nat) {left : List Char} (ends : EndsRun continuesNumber left) :
    Reads (value.nesting ≤ nesting) (some result) left
      (once name none reader (layout.colon ++ (value.characters layout depth ++ left))) := by
  rcases colon_append spaced with ⟨blanks, blank, behind⟩
  simp only [once]
  rw [behind, ok_bind]
  exact (returns depth blanks left blank ends).followed rfl

theorem kept_reads {reader : Reader Value} {kept : Value} (spaced : layout.Blank)
    (returns : Returns reader layout nesting value kept) (name : String)
    (gathered : List (String × Value)) (depth : Nat) {left : List Char}
    (ends : EndsRun continuesNumber left) :
    Reads (value.nesting ≤ nesting) ((name, kept) :: gathered) left
      (Json.kept reader name gathered
        (layout.colon ++ (value.characters layout depth ++ left))) := by
  rcases colon_append spaced with ⟨blanks, blank, behind⟩
  rw [Json.kept, behind, ok_bind]
  exact (returns depth blanks left blank ends).followed rfl

theorem string_returns (wanted : String) (layout : Layout) (nesting : Nat) (text : String) :
    Returns (string wanted) layout nesting (.text text) text := by
  intro depth blanks left blank _
  rw [Value.characters, quote_append, string, afterBlanks_append blank, afterBlanks_cons rfl]
  show Reads _ _ _ (quoted _)
  rw [quoted_escape]
  exact .ok (Nat.zero_le nesting)

/-- A list is returned where the reader of its elements returns them, with one bracket
less that may be opened. -/
theorem sequence_returns {element : Reader Result} (spaced : layout.Blank) {values : List Value}
    {results : List Result} (each : List.Forall₂ (Returns element layout nesting) values results)
    (exact : forall value, value ∈ values -> value.Exact) :
    Returns (sequence (some element)) layout (nesting + 1) (.list values) results := by
  intro depth blanks left blank _
  rw [Value.characters_list_append]
  unfold sequence
  rw [afterBlanks_append blank, afterBlanks_cons rfl]
  apply Reads.congr _ (Value.nesting_list_le_iff values nesting).symm
  exact elements_reads spaced each exact depth left

theorem sequence_returns_zero (layout : Layout) (values : List Value) (results : List Result) :
    Returns (sequence none) layout 0 (.list values) results := by
  intro depth blanks left blank _
  rw [Value.characters_list_append]
  unfold sequence
  rw [afterBlanks_append blank, afterBlanks_cons rfl]
  exact .error (Value.not_nesting_list_le_zero values) _

/-- A record is returned where its fields are gathered to something that the result is
made of, with one bracket less that may be opened. -/
theorem record_returns (spaced : layout.Blank) {inside : Inside Result}
    {field : String -> Gathered -> Reader Gathered} {start final : Gathered}
    {finish : Gathered × List Char -> Except Failure (Result × List Char)}
    {fields : List (String × Value)}
    (opened : forall text, inside.named text = Json.fields field start text >>= finish)
    (gathers : Gathers field layout nesting start fields final)
    (made : forall left, finish (final, left) = .ok (result, left)) (wanted : String) :
    Returns (record wanted (some inside)) layout (nesting + 1) (.object fields) result := by
  intro depth blanks left blank _
  rw [Value.characters_object_append]
  unfold record
  rw [afterBlanks_append blank, afterBlanks_cons rfl]
  rcases fields_reads spaced gathers depth left with ⟨after, blankAfter, fieldsRead⟩
  have insideRead := fieldsRead.followed (made (after ++ '\x7d' :: left))
  rw [← opened] at insideRead
  apply Reads.congr _ (Value.nesting_object_le_iff fields nesting).symm
  exact insideRead.closeObject blankAfter

theorem record_returns_zero (wanted : String) (layout : Layout) (fields : List (String × Value))
    (result : Result) : Returns (record wanted none) layout 0 (.object fields) result := by
  intro depth blanks left blank _
  rw [Value.characters_object_append]
  unfold record
  rw [afterBlanks_append blank, afterBlanks_cons rfl]
  exact .error (Value.not_nesting_object_le_zero fields) _

/-! ## Any value -/

/-- A value that opens no bracket is read as such, whatever the nesting. -/
theorem value_of_flat (nesting : Nat) {first : Char} {blanks : List Char} (blank : Blanks blanks)
    (visible : isBlank first = false) (noList : first ≠ '[') (noObject : first ≠ '\x7b')
    (left : List Char) : Json.value nesting (blanks ++ first :: left) = scalar (first :: left) := by
  cases nesting <;> unfold Json.value <;>
    simp [afterBlanks_append blank, afterBlanks_cons visible, noList, noObject]

theorem scalar_of_digit {first : Char} (decimal : Numeral.isDigit first = true)
    (left : List Char) :
    scalar (first :: left) =
      (number (first :: left)).map fun (value, left) => (value.toValue, left) := by
  have other : forall letter, Numeral.isDigit letter = false -> first ≠ letter :=
    fun letter => Numeral.ne_of_isDigit decimal
  simp [scalar, decimal, other 'n' (by decide), other 't' (by decide), other 'f' (by decide),
    other '"' (by decide)]

theorem gathers_kept {reader : Reader Value} (spaced : layout.Blank)
    {fields : List (String × Value)}
    (each : forall field : String × Value, field ∈ fields ->
      Returns reader layout nesting field.2 field.2)
    (gathered : List (String × Value)) :
    Gathers (Json.kept reader) layout nesting gathered fields (fields.reverse ++ gathered) := by
  induction fields generalizing gathered with
  | nil => exact .nil gathered
  | cons first rest inductionHypothesis =>
      rw [List.forall_mem_cons] at each
      have later := inductionHypothesis each.2 (first :: gathered)
      rw [List.reverse_cons, List.append_assoc, List.singleton_append]
      exact .cons (fun depth left ends => kept_reads spaced each.1 first.1 gathered depth ends) later

theorem number_returns {number : Nat} (fits : number ≤ Number.greatest) (layout : Layout)
    (nesting : Nat) :
    Returns (Json.value nesting) layout nesting (.integer number) (.integer number) := by
  intro depth blanks left blank ends
  have written : Value.characters layout depth (.integer number) = (toString number).toList := rfl
  rw [written]
  rcases Numeral.exists_first_toString number with ⟨first, rest, digits, decimal⟩
  have noList : first ≠ '[' := Numeral.ne_of_isDigit decimal (by decide)
  have noObject : first ≠ '\x7b' := Numeral.ne_of_isDigit decimal (by decide)
  have read := number_toString fits ends
  rw [digits, List.cons_append] at read
  rw [digits, List.cons_append, value_of_flat nesting blank (isBlank_of_isDigit decimal) noList
    noObject, scalar_of_digit decimal, read]
  exact .ok (Nat.zero_le nesting)

theorem list_returns (spaced : layout.Blank) {values : List Value}
    (each : forall value, value ∈ values -> forall nesting,
      Returns (Json.value nesting) layout nesting value value)
    (exact : forall value, value ∈ values -> value.Exact) (nesting : Nat) :
    Returns (Json.value nesting) layout nesting (.list values) (.list values) := by
  intro depth blanks left blank _
  rw [Value.characters_list_append]
  cases nesting with
  | zero =>
      unfold Json.value
      rw [afterBlanks_append blank, afterBlanks_cons rfl]
      exact .error (Value.not_nesting_list_le_zero values) _
  | succ nesting =>
      unfold Json.value
      rw [afterBlanks_append blank, afterBlanks_cons rfl]
      apply Reads.congr _ (Value.nesting_list_le_iff values nesting).symm
      have returned : List.Forall₂ (Returns (Json.value nesting) layout nesting) values values :=
        List.forall₂_same.mpr fun value listed => each value listed nesting
      exact (elements_reads spaced returned exact depth left).map Value.list

theorem object_returns (spaced : layout.Blank) {fields : List (String × Value)}
    (each : forall field : String × Value, field ∈ fields -> forall nesting,
      Returns (Json.value nesting) layout nesting field.2 field.2)
    (nesting : Nat) :
    Returns (Json.value nesting) layout nesting (.object fields) (.object fields) := by
  intro depth blanks left blank _
  rw [Value.characters_object_append]
  cases nesting with
  | zero =>
      unfold Json.value
      rw [afterBlanks_append blank, afterBlanks_cons rfl]
      exact .error (Value.not_nesting_object_le_zero fields) _
  | succ nesting =>
      unfold Json.value
      rw [afterBlanks_append blank, afterBlanks_cons rfl]
      apply Reads.congr _ (Value.nesting_object_le_iff fields nesting).symm
      have gathers := gathers_kept spaced (fun field listed => each field listed nesting) []
      rcases fields_reads spaced gathers depth left with ⟨after, blankAfter, read⟩
      have whole := (read.closeObject blankAfter).map fun gathered => Value.object gathered.reverse
      rw [List.append_nil, List.reverse_reverse] at whole
      exact whole

/-- An exact value is read back. -/
theorem value_returns (spaced : layout.Blank) (exact : value.Exact) (nesting : Nat) :
    Returns (Json.value nesting) layout nesting value value := by
  induction exact generalizing nesting with
  | null =>
      intro depth blanks left blank _
      show Reads _ _ _ (Json.value nesting (blanks ++ 'n' :: 'u' :: 'l' :: 'l' :: left))
      rw [value_of_flat nesting blank rfl (by decide) (by decide)]
      exact .ok (Nat.zero_le nesting)
  | boolean value =>
      intro depth blanks left blank _
      cases value with
      | false =>
          show Reads _ _ _ (Json.value nesting (blanks ++ 'f' :: 'a' :: 'l' :: 's' :: 'e' :: left))
          rw [value_of_flat nesting blank rfl (by decide) (by decide)]
          exact .ok (Nat.zero_le nesting)
      | true =>
          show Reads _ _ _ (Json.value nesting (blanks ++ 't' :: 'r' :: 'u' :: 'e' :: left))
          rw [value_of_flat nesting blank rfl (by decide) (by decide)]
          exact .ok (Nat.zero_le nesting)
  | integer fits => exact number_returns fits layout nesting
  | text value =>
      intro depth blanks left blank _
      rw [Value.characters, quote_append, value_of_flat nesting blank rfl (by decide) (by decide)]
      show Reads _ _ _ ((quoted _).map _)
      rw [quoted_escape]
      exact .ok (Nat.zero_le nesting)
  | list each inductionHypothesis => exact list_returns spaced inductionHypothesis each nesting
  | object _ inductionHypothesis => exact object_returns spaced inductionHypothesis nesting

/-! ## Whole texts -/

/-- A reader that returns a result from a value reads it from the text of the value
alone, where the nesting suffices, and fails where not. -/
theorem whole_of_returns (returns : Returns reader layout nesting value result) :
    (value.nesting ≤ nesting ->
      whole reader (String.ofList (value.characters layout 0)) = .ok result) ∧
      (nesting < value.nesting -> Exists fun failure =>
        whole reader (String.ofList (value.characters layout 0)) = .error failure) := by
  have read := returns 0 [] [] blanks_nil endsRun_nil
  rw [List.nil_append, List.append_nil] at read
  simp only [whole, String.toList_ofList]
  constructor
  · intro within
    rw [read.eq_ok within]
    rfl
  · intro beyond
    rcases read.eq_error (Nat.not_le.mpr beyond) with ⟨failure, failed⟩
    exact ⟨failure, by rw [failed]; rfl⟩

end Readers

end Json
end Guidebook
