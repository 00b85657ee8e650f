import Guidebook.Proofs.Toml.Number
import Guidebook.Toml.Reader

namespace Guidebook
namespace Toml

/-!
# What stands directly in a document

The entries of a document that are no tables come from its lines before the first
header.  Everything under a header is put into the document as a table or as a list
of tables.  So a property that every single value has when it is read, and that
lists and tables have in any case, holds of all entries of a document.  What tables
and lists contain is not looked into.
-/

/-- The parts of a computation that went well. -/
theorem exists_of_bind_eq_ok {Failure First Second : Type} {first : Except Failure First}
    {next : First -> Except Failure Second} {result : Second}
    (run : (first >>= next) = .ok result) :
    Exists fun value => first = .ok value ∧ next value = .ok result := by
  cases first with
  | error failure => cases run
  | ok value => exact ⟨value, rfl, run⟩

theorem eq_some_of_demand {Result : Type} {read : Option Result} {result : Result}
    (demanded : demand read = .ok result) : read = some result := by
  cases read with
  | none => cases demanded
  | some found =>
      cases demanded
      rfl

/-- A value that stands under a key has a property; of tables nothing is asked. -/
def Item.Holds (condition : Value -> Prop) : Item -> Prop
  | .value single => condition single
  | _ => True

/-- The values that stand directly in a table have a property. -/
def Table.Holds (condition : Value -> Prop) (table : Table) : Prop :=
  forall entry, entry ∈ table.entries -> entry.2.Holds condition

variable {condition : Value -> Prop}

theorem Item.holds_value {value : Value} (fits : condition value) :
    (Item.value value).Holds condition := fits

theorem Item.holds_table (table : Table) : (Item.table table).Holds condition := trivial

theorem Item.holds_tables (tables : List Table) : (Item.tables tables).Holds condition := trivial

namespace Table

theorem holds_empty (origin : Origin) : (empty origin).Holds condition :=
  List.forall_mem_nil _

theorem Holds.put {table : Table} (holds : table.Holds condition) {item : Item}
    (fits : item.Holds condition) (key : String) : (table.put key item).Holds condition := by
  unfold Table.put
  split
  · intro entry member
    rcases List.mem_map.mp member with ⟨before, listed, rfl⟩
    split
    · exact fits
    · exact holds before listed
  · intro entry member
    rcases List.mem_append.mp member with listed | new
    · exact holds entry listed
    · cases List.mem_singleton.mp new
      exact fits

theorem Holds.erase {table : Table} (holds : table.Holds condition) (key : String) :
    (table.erase key).Holds condition :=
  fun entry member => holds entry (List.mem_filter.mp member).1

theorem Holds.add? {table result : Table} (holds : table.Holds condition) {key : String}
    {value : Value} (fits : condition value) (added : table.add? key value = some result) :
    result.Holds condition := by
  unfold Table.add? at added
  split at added
  · cases added
  · cases added
    exact holds.put (Item.holds_value fits) key

/-- A change at the end of a path is seen in the table itself only if the path is
empty: otherwise a table is put in the place of a table. -/
theorem Holds.change? {origin : Origin} {change : Table -> Option Table} {path : List String}
    {table result : Table} (holds : table.Holds condition)
    (keeps : forall inner outcome, inner.Holds condition -> change inner = some outcome ->
      outcome.Holds condition)
    (changed : Table.change? origin change path table = some result) :
    result.Holds condition := by
  cases path with
  | nil => exact keeps table result holds changed
  | cons key path =>
      unfold Table.change? at changed
      split at changed
      · rcases Option.map_eq_some_iff.mp changed with ⟨inner, -, rfl⟩
        exact holds.put (Item.holds_table inner) key
      · cases changed
      · split at changed
        · cases changed
        · rcases Option.map_eq_some_iff.mp changed with ⟨inner, -, rfl⟩
          exact holds.put (Item.holds_table inner) key
      · cases changed
      · rcases Option.map_eq_some_iff.mp changed with ⟨last, -, rfl⟩
        exact holds.put (Item.holds_tables _) key

theorem Holds.enter? {table result : Table} (holds : table.Holds condition) {entry : Entry}
    (fits : condition entry.value) (entered : table.enter? entry = some result) :
    result.Holds condition := by
  refine holds.change? (fun inner outcome holds added => ?_) entered
  split at added
  · exact holds.add? fits added
  · cases added

theorem Holds.closed? {root table result : Table} {path : List String} {key : String}
    (holds : root.Holds condition) (closed : root.closed? path key table = some result) :
    result.Holds condition := by
  refine holds.change? (fun inner outcome holds put => ?_) closed
  cases put
  exact (holds.erase key).put (Item.holds_table table) key

theorem Holds.appended? {root table result : Table} {path : List String} {key : String}
    (holds : root.Holds condition) (appended : root.appended? path key table = some result) :
    result.Holds condition := by
  refine holds.change? (fun inner outcome holds put => ?_) appended
  split at put
  · cases put
    exact holds.put (Item.holds_tables _) key
  · cases put
    exact holds.put (Item.holds_tables _) key
  · cases put

end Table

/-- The values that stand directly in the document so far have a property.  A table
that is open under a header will not stand there with its values. -/
structure Draft.Holds (condition : Value -> Prop) (draft : Draft) : Prop where
  root : draft.root.Holds condition
  table : draft.header = none -> draft.table.Holds condition

namespace Draft

theorem Holds.close? {draft : Draft} {root : Table} (holds : draft.Holds condition)
    (closed : draft.close? = some root) : root.Holds condition := by
  unfold Draft.close? at closed
  split at closed
  · next noHeader =>
      cases closed
      exact holds.table noHeader
  · split at closed
    · exact holds.root.appended? closed
    · exact holds.root.closed? closed

theorem Holds.open? {draft opened : Draft} {header : Header} (holds : draft.Holds condition)
    (opens : draft.open? header = some opened) : opened.Holds condition := by
  unfold Draft.open? at opens
  rcases Option.bind_eq_some_iff.mp opens with ⟨root, closed, table⟩
  have rootHolds := holds.close? closed
  split at table
  · rcases Option.bind_eq_some_iff.mp table with ⟨_, _, same⟩
    cases same
    exact ⟨rootHolds, fun impossible => by cases impossible⟩
  · rcases Option.bind_eq_some_iff.mp table with ⟨_, _, same⟩
    cases same
    exact ⟨rootHolds, fun impossible => by cases impossible⟩

end Draft

/-- Every value that is read has the property. -/
def Given (condition : Value -> Prop) : Prop :=
  forall text result left, value nestingLimit text = .ok (result, left) -> condition result

theorem Given.entry {text left : List Char} {found : Entry} (given : Given condition)
    (read : entry (value nestingLimit) text = .ok (found, left)) : condition found.value := by
  unfold Toml.entry at read
  rcases exists_of_bind_eq_ok read with ⟨⟨parts, behind⟩, -, rest⟩
  dsimp only at rest
  split at rest
  · next text =>
      rcases exists_of_bind_eq_ok rest with ⟨⟨result, behind⟩, valueRead, same⟩
      cases same
      exact given _ _ _ valueRead
  · cases rest

theorem Draft.Holds.linesFrom {steps : Nat} {draft result : Draft} {text : List Char}
    (holds : draft.Holds condition) (given : Given condition)
    (read : linesFrom steps draft text = .ok result) : result.Holds condition := by
  induction steps generalizing draft text with
  | zero => cases read
  | succ steps inductionHypothesis =>
      unfold Toml.linesFrom at read
      split at read
      · cases read
        exact holds
      · split at read
        · exact inductionHypothesis holds read
        · cases read
      · exact inductionHypothesis holds read
      · exact inductionHypothesis holds read
      · cases read
      · rcases exists_of_bind_eq_ok read with ⟨⟨header, behind⟩, -, rest⟩
        rcases exists_of_bind_eq_ok rest with ⟨opened, demanded, rest⟩
        exact inductionHypothesis (holds.open? (eq_some_of_demand demanded)) rest
      · rcases exists_of_bind_eq_ok read with ⟨⟨found, behind⟩, entryRead, rest⟩
        rcases exists_of_bind_eq_ok rest with ⟨left, -, rest⟩
        rcases exists_of_bind_eq_ok rest with ⟨table, demanded, rest⟩
        have entered := eq_some_of_demand demanded
        have next : Draft.Holds condition ⟨draft.root, draft.header, table⟩ :=
          ⟨holds.root, fun noHeader => (holds.table noHeader).enter? (given.entry entryRead) entered⟩
        exact inductionHypothesis next rest

theorem mem_entryValues {entries : List (String × Item)} {entry : String × Value}
    (member : entry ∈ Table.entryValues entries) :
    Exists fun item => (entry.1, item) ∈ entries ∧ entry.2 = item.toValue := by
  induction entries with
  | nil => cases member
  | cons first rest inductionHypothesis =>
      rcases first with ⟨key, item⟩
      rw [Table.entryValues] at member
      rcases List.mem_cons.mp member with rfl | later
      · exact ⟨item, List.mem_cons_self, rfl⟩
      · rcases inductionHypothesis later with ⟨found, listed, same⟩
        exact ⟨found, List.mem_cons_of_mem _ listed, same⟩

/-- What every value has that is read, and lists and tables in any case, is had by
all entries of a document. -/
theorem holds_of_document {text : String} {entries : List (String × Value)}
    (given : Given condition) (tables : forall entries, condition (.table entries))
    (lists : forall elements, condition (.list elements))
    (read : document text = .ok entries) : forall entry, entry ∈ entries -> condition entry.2 := by
  unfold document at read
  dsimp only at read
  rcases exists_of_bind_eq_ok read with ⟨draft, lines, rest⟩
  rcases exists_of_bind_eq_ok rest with ⟨root, demanded, rest⟩
  have start : Draft.empty.Holds condition :=
    ⟨Table.holds_empty _, fun _ => Table.holds_empty _⟩
  have holds := (start.linesFrom given lines).close? (eq_some_of_demand demanded)
  rcases root with ⟨origin, items⟩
  rw [Table.toValue] at rest
  cases rest
  intro entry member
  rcases mem_entryValues member with ⟨item, listed, same⟩
  have fits := holds _ listed
  rw [same]
  cases item with
  | value value => exact fits
  | table table =>
      rcases table with ⟨origin, entries⟩
      exact tables _
  | tables found => exact lists _

/-! ## Integers of a document -/

theorem eq_of_word? {letters : List Char} {word result : Value} {text left : List Char}
    (read : word? letters word text = some (result, left)) : result = word := by
  induction letters generalizing text with
  | nil =>
      cases read
      rfl
  | cons letter letters inductionHypothesis =>
      cases text with
      | nil => cases read
      | cons first rest =>
          unfold word? at read
          split at read
          · exact inductionHypothesis read
          · cases read

theorem fitsWord_of_scalar? {text left : List Char} {result : Value}
    (read : scalar? text = some (result, left)) : result.FitsWord := by
  unfold scalar? at read
  split at read
  · cases read
  · rcases Option.map_eq_some_iff.mp read with ⟨_, -, same⟩
    cases same
    trivial
  · rcases Option.map_eq_some_iff.mp read with ⟨_, -, same⟩
    cases same
    trivial
  · rw [eq_of_word? read]
    trivial
  · rw [eq_of_word? read]
    trivial
  · split at read
    · cases read
      trivial
    · exact fitsWord_of_number? read

theorem fitsWord_of_inline {reader : Attempt Value} {text left : List Char} {result : Value}
    (read : inline reader text = .ok (result, left)) : result.FitsWord := by
  unfold inline at read
  split at read
  · cases read
    trivial
  · rcases exists_of_bind_eq_ok read with ⟨_, -, rest⟩
    rcases exists_of_bind_eq_ok rest with ⟨⟨origin, entries⟩, -, same⟩
    cases same
    trivial

theorem fitsWord_of_value {nesting : Nat} {text left : List Char} {result : Value}
    (read : value nesting text = .ok (result, left)) : result.FitsWord := by
  cases nesting with
  | zero =>
      unfold value at read
      split at read
      · cases read
      · cases read
      · cases read
      · exact fitsWord_of_scalar? (eq_some_of_demand read)
  | succ nesting =>
      unfold value at read
      split at read
      · cases read
      · rcases exists_of_bind_eq_ok read with ⟨_, -, same⟩
        cases same
        trivial
      · exact fitsWord_of_inline read
      · exact fitsWord_of_scalar? (eq_some_of_demand read)

/-- An integer that stands directly in a document fits a word. -/
theorem fitsWord_of_document {text : String} {entries : List (String × Value)}
    (read : document text = .ok entries) : forall entry, entry ∈ entries -> entry.2.FitsWord :=
  holds_of_document (fun _ _ _ => fitsWord_of_value) (fun _ => trivial) (fun _ => trivial) read

end Toml
end Guidebook
