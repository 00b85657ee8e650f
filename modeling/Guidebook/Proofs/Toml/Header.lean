import Guidebook.Proofs.Toml.Reading

namespace Guidebook
namespace Toml

/-!
# Repeated headers

The table of a repeated header goes to the end of a list that stands under its key, in
the last table of every list on the way there.  So a table that has just been appended
is the one that longer headers lead into, and what they append is in it as if it had
been there from the beginning.  Where the lists of the way are is found again by every
header; the order of the headers alone says what belongs to what.
-/

/-! ## Items under their keys -/

namespace Table

variable {key : String}

theorem find?_put (table : Table) (key : String) (item : Item) :
    (table.put key item).find? key = some item := by
  unfold put
  split
  · next found =>
      have sameKey : ((fun entry : String × Item => decide (entry.1 = key)) ∘
          fun entry => if entry.1 = key then (key, item) else entry) =
          fun entry => decide (entry.1 = key) := by
        funext entry
        by_cases here : entry.1 = key <;> simp [here]
      rw [find?, Option.isSome_map] at found
      rcases Option.isSome_iff_exists.mp found with ⟨entry, listed⟩
      have here : entry.1 = key := by simpa using List.find?_some listed
      rw [find?, entries, List.find?_map, sameKey, listed]
      simp [here]
  · next absent =>
      rw [find?, Option.isSome_map, Bool.not_eq_true, Option.isSome_eq_false_iff,
        Option.isNone_iff_eq_none] at absent
      rw [find?, entries, List.find?_append, absent]
      simp

/-- What is put under a key takes the place of what was put there before. -/
theorem put_put (table : Table) (key : String) (first second : Item) :
    (table.put key first).put key second = table.put key second := by
  have found : ((table.put key first).find? key).isSome = true := by
    rw [find?_put]
    rfl
  rw [put, if_pos found]
  unfold put
  split
  · simp only [entries, origin, List.map_map]
    congr 1
    apply List.map_congr_left
    intro entry listed
    by_cases here : entry.1 = key <;> simp [here]
  · next absent =>
      rw [find?, Option.isSome_map, List.find?_isSome] at absent
      have kept : (table.entries.map fun entry => if entry.1 = key then (key, second) else entry) =
          table.entries := by
        refine (List.map_congr_left fun entry listed => if_neg fun here => ?_).trans (List.map_id _)
        exact absent ⟨entry, listed, decide_eq_true here⟩
      simp only [origin, entries] at kept ⊢
      rw [List.map_append, kept, List.map_singleton, if_pos rfl]

/-! ## The way into a table -/

/-- Where a step of the way to a header leads from an item: the table that is entered,
and the item that stands there when it is changed. -/
def inside? : Option Item -> Option (Table × (Table -> Item))
  | none => some (.empty .path, .table)
  | some (.value _) => none
  | some (.table inner) => some (inner, .table)
  | some (.tables []) => none
  | some (.tables (last :: earlier)) => some (last, fun last => .tables (last :: earlier))

theorem inside?_changed {item : Option Item} {inner : Table} {back : Table -> Item}
    (leads : inside? item = some (inner, back)) (changed : Table) :
    inside? (some (back changed)) = some (changed, back) := by
  unfold inside? at leads
  split at leads
  all_goals cases leads
  all_goals rfl

theorem change?_cons (change : Table -> Option Table) (key : String) (path : List String)
    (table : Table) :
    change? .path change (key :: path) table =
      (inside? (table.find? key)).bind fun (inner, back) =>
        (change? .path change path inner).map fun inner => table.put key (back inner) := by
  rw [change?]
  cases table.find? key with
  | none => rfl
  | some item =>
      cases item with
      | value value => rfl
      | table inner => rfl
      | tables tables => cases tables <;> rfl

theorem change?_append (change : Table -> Option Table) (path more : List String) (table : Table) :
    change? .path change (path ++ more) table =
      change? .path (change? .path change more) path table := by
  induction path generalizing table with
  | nil => rfl
  | cons key path inductionHypothesis =>
      simp only [List.cons_append, change?_cons, inductionHypothesis]

/-- One change after another at the end of the same path. -/
theorem change?_change? {first : Table -> Option Table} {path : List String} {table middle : Table}
    (changed : change? .path first path table = some middle) (second : Table -> Option Table) :
    change? .path second path middle =
      change? .path (fun inner => (first inner).bind second) path table := by
  induction path generalizing table middle with
  | nil =>
      simp only [change?] at changed ⊢
      rw [changed]
      rfl
  | cons key path inductionHypothesis =>
      rw [change?_cons] at changed
      rcases Option.bind_eq_some_iff.mp changed with ⟨⟨inner, back⟩, leads, put⟩
      rcases Option.map_eq_some_iff.mp put with ⟨innerChanged, below, rfl⟩
      -- The second change finds what the first one has put there, and is led to the same table.
      simp only [change?_cons, find?_put, inside?_changed leads, leads, Option.bind_some,
        inductionHypothesis below, put_put]

/-- The way to a table does not depend on what is done there. -/
theorem exists_change? {first second : Table -> Option Table}
    (able : forall inner outcome, first inner = some outcome ->
      Exists fun another => second inner = some another)
    {path : List String} {table result : Table}
    (changed : change? .path first path table = some result) :
    Exists fun another => change? .path second path table = some another := by
  induction path generalizing table result with
  | nil => exact able table result changed
  | cons key path inductionHypothesis =>
      rw [change?_cons] at changed
      rcases Option.bind_eq_some_iff.mp changed with ⟨⟨inner, back⟩, leads, put⟩
      rcases Option.map_eq_some_iff.mp put with ⟨innerChanged, below, rfl⟩
      rcases inductionHypothesis below with ⟨another, changedToo⟩
      exact ⟨table.put key (back another), by rw [change?_cons, leads]; simp [changedToo]⟩

/-! ## Tables that are appended -/

/-- Append a table to the list under a key of the table around it. -/
def append? (key : String) (table outer : Table) : Option Table :=
  match outer.find? key with
  | none => some (outer.put key (.tables [table]))
  | some (.tables tables) => some (outer.put key (.tables (table :: tables)))
  | some _ => none

theorem appended?_eq (root : Table) (path : List String) (key : String) (table : Table) :
    root.appended? path key table = change? .path (append? key table) path root := rfl

/-- The table that was appended last is the one that the key leads into. -/
theorem append?_change? {table changed : Table} {change : Table -> Option Table}
    (inside : change table = some changed) (key : String) (outer : Table) :
    (append? key table outer).bind (change? .path change [key]) = append? key changed outer := by
  unfold append?
  cases outer.find? key with
  | none => simp [change?, find?_put, inside, put_put]
  | some item =>
      cases item with
      | value value => rfl
      | table inner => rfl
      | tables tables => simp [change?, find?_put, inside, put_put]

/-- What is changed in a table that has been appended might have been changed before. -/
theorem appended?_change? {root result table changed : Table} {path : List String} {key : String}
    {change : Table -> Option Table} (appended : root.appended? path key table = some result)
    (inside : change table = some changed) :
    change? .path change (path ++ [key]) result = root.appended? path key changed := by
  rw [appended?_eq] at appended ⊢
  rw [change?_append, change?_change? appended, funext (append?_change? inside key)]

theorem exists_appended? {root result table : Table} {path : List String} {key : String}
    (appended : root.appended? path key table = some result) (other : Table) :
    Exists fun another => root.appended? path key other = some another := by
  rw [appended?_eq] at appended ⊢
  refine exists_change? (fun outer outcome able => ?_) appended
  unfold append? at able ⊢
  cases found : outer.find? key with
  | none => exact ⟨_, rfl⟩
  | some item =>
      cases item with
      | value value => simp [found] at able
      | table inner => simp [found] at able
      | tables tables => exact ⟨_, rfl⟩

/-- Append tables one after another. -/
def appendedAll? (root : Table) (path : List String) (key : String) (tables : List Table) :
    Option Table :=
  tables.foldlM (fun root table => root.appended? path key table) root

/-- What is appended under a header is in the table of the header from the beginning. -/
theorem appendedAll?_inside {root result table filled : Table} {path : List String}
    {key inner : String} {tables : List Table}
    (appended : root.appended? path key table = some result)
    (inside : table.appendedAll? [] inner tables = some filled) :
    result.appendedAll? (path ++ [key]) inner tables = root.appended? path key filled := by
  induction tables generalizing table result with
  | nil =>
      cases inside
      exact appended.symm
  | cons first rest inductionHypothesis =>
      rcases Option.bind_eq_some_iff.mp inside with ⟨one, firstAppended, restAppended⟩
      rcases exists_appended? appended one with ⟨next, nextAppended⟩
      have step : result.appended? (path ++ [key]) inner first = some next :=
        (appended?_change? appended firstAppended).trans nextAppended
      have others := inductionHypothesis nextAppended restAppended
      rw [appendedAll?, List.foldlM_cons, step]
      exact others

/-- A table with a list of tables under a key, or without the key where there are none. -/
def filled (table : Table) (key : String) (tables : List Table) : Table :=
  match tables with
  | [] => table
  | first :: rest => table.put key (.tables (first :: rest).reverse)

theorem appended?_filled {table : Table} {key : String} (absent : table.find? key = none)
    (tables : List Table) (last : Table) :
    (table.filled key tables).appended? [] key last = some (table.filled key (tables ++ [last])) := by
  show append? key last _ = _
  cases tables with
  | nil =>
      rw [filled, append?, absent]
      rfl
  | cons first rest =>
      simp only [filled, append?, find?_put, put_put, List.cons_append]
      simp

theorem appendedAll?_filled {table : Table} {key : String} (absent : table.find? key = none)
    (before tables : List Table) :
    (table.filled key before).appendedAll? [] key tables =
      some (table.filled key (before ++ tables)) := by
  induction tables generalizing before with
  | nil =>
      rw [List.append_nil]
      rfl
  | cons first rest inductionHypothesis =>
      have others := inductionHypothesis (before ++ [first])
      rw [List.append_assoc, List.singleton_append] at others
      rw [appendedAll?, List.foldlM_cons, appended?_filled absent]
      exact others

end Table

/-! ## Drafts with a repeated header -/

namespace Draft

variable {path : List String} {key : String} {root : Table}

theorem close?_repeated (root : Table) (path : List String) (key : String) (table : Table) :
    (Draft.mk root (some ⟨path ++ [key], true⟩) table).close? = root.appended? path key table := by
  simp [close?, Header.path, Header.key]

/-- A repeated header is opened where a table can be appended. -/
theorem open?_repeated {draft : Draft} {result table : Table} (closed : draft.close? = some root)
    (appended : root.appended? path key table = some result) :
    draft.open? ⟨path ++ [key], true⟩ =
      some ⟨root, some ⟨path ++ [key], true⟩, .empty .header⟩ := by
  rcases Table.exists_appended? appended (.empty .header) with ⟨another, appendedToo⟩
  simp [open?, closed, Header.path, Header.key, appendedToo]

end Draft

/-! ## Headers as they are written -/

/-- The parts of a key with points between them. -/
def dotted : List String -> List Char
  | [] => []
  | [part] => part.toList
  | part :: next :: parts => part.toList ++ '.' :: dotted (next :: parts)

/-- A repeated header on a line of its own. -/
def writeHeader (parts : List String) : List Char :=
  '[' :: '[' :: (dotted parts ++ [']', ']', '\n'])

/-- Each part takes a step, and the last one stands before a bracket. -/
theorem partsFrom_dotted {parts : List String} (nonempty : parts ≠ [])
    (each : forall part, part ∈ parts -> IsBarePart part) {clock : List Char}
    (long : parts.length ≤ clock.length) (left : List Char) :
    partsFrom clock (dotted parts ++ ']' :: left) = some (parts, ']' :: left) := by
  induction parts generalizing clock with
  | nil => exact absurd rfl nonempty
  | cons part rest inductionHypothesis =>
      rw [List.forall_mem_cons] at each
      cases clock with
      | nil => cases long
      | cons tick clock =>
          cases rest with
          | nil =>
              have read := part?_append each.1 (endsRun_cons (by decide) : EndsRun isBare (']' :: left))
              have behind : afterBlanks (']' :: left) = ']' :: left := rfl
              rw [dotted, partsFrom, read]
              simp only [bind, Option.bind, behind, pure]
              rfl
          | cons next rest =>
              have others := inductionHypothesis (List.cons_ne_nil next rest) each.2
                (Nat.le_of_succ_le_succ long)
              have read := part?_append each.1 (endsRun_cons (by decide) :
                EndsRun isBare ('.' :: (dotted (next :: rest) ++ ']' :: left)))
              have behind : afterBlanks ('.' :: (dotted (next :: rest) ++ ']' :: left)) =
                  '.' :: (dotted (next :: rest) ++ ']' :: left) := rfl
              rw [dotted, List.append_assoc, List.cons_append, partsFrom, read]
              simp only [bind, Option.bind, behind, others, pure]

theorem length_le_dotted {parts : List String}
    (each : forall part, part ∈ parts -> IsBarePart part) :
    parts.length ≤ (dotted parts).length := by
  induction parts with
  | nil => exact Nat.zero_le _
  | cons part rest inductionHypothesis =>
      rw [List.forall_mem_cons] at each
      have shorter := inductionHypothesis each.2
      have visible := List.length_pos_iff.mpr each.1.nonempty
      cases rest with
      | nil => exact visible
      | cons next rest =>
          simp only [dotted, List.length_append, List.length_cons] at shorter visible ⊢
          omega

theorem header?_writeHeader {parts : List String} (nonempty : parts ≠ [])
    (each : forall part, part ∈ parts -> IsBarePart part) (few : parts.length < nestingBound)
    (left : List Char) : header? (writeHeader parts ++ left) = some (⟨parts, true⟩, left) := by
  have written : writeHeader parts ++ left =
      '[' :: '[' :: (dotted parts ++ ']' :: ']' :: '\n' :: left) := by
    simp [writeHeader]
  have long : parts.length ≤ (dotted parts ++ ']' :: ']' :: '\n' :: left).length := by
    have shorter := length_le_dotted each
    rw [List.length_append]
    omega
  have key : key? (dotted parts ++ ']' :: ']' :: '\n' :: left) =
      some (parts, ']' :: ']' :: '\n' :: left) := by
    rw [key?, partsFrom_dotted nonempty each long]
    simp only [bind, Option.bind, if_pos few, pure]
  have behind : afterLine? ('\n' :: left) = some left := rfl
  rw [written, header?, key]
  simp only [bind, Option.bind, behind, pure]

/-! ## Lines that are read one after another -/

/-- The lines of a text take one draft to the next, whatever follows the text.  Each
takes a character at least, so the characters of a text are steps enough for it. -/
def ReadsLines (draft : Draft) (text : List Char) (next : Draft) : Prop :=
  Exists fun count => count ≤ text.length ∧ forall steps left,
    linesFrom (steps + count) draft (text ++ left) = linesFrom steps next left

namespace ReadsLines

variable {draft next last : Draft} {text more : List Char}

theorem nil (draft : Draft) : ReadsLines draft [] draft :=
  ⟨0, Nat.le_refl 0, fun _ _ => rfl⟩

theorem trans (first : ReadsLines draft text next) (second : ReadsLines next more last) :
    ReadsLines draft (text ++ more) last := by
  rcases first with ⟨count, fewer, read⟩
  rcases second with ⟨further, fewerToo, readToo⟩
  refine ⟨further + count, ?_, fun steps left => ?_⟩
  · rw [List.length_append]
    omega
  · rw [← Nat.add_assoc, List.append_assoc, read, readToo]

theorem line {root : Table} {header : Option Header} {lines : List Line} {line : Line}
    (readable : line.IsReadable) (new : forall other, other ∈ lines -> other.key ≠ line.key) :
    ReadsLines ⟨root, header, Table.ofLines lines⟩ line.write
      ⟨root, header, Table.ofLines (lines ++ [line])⟩ := by
  refine ⟨1, ?_, fun steps left => linesFrom_write readable new left⟩
  simp only [Line.write, writeEntry, List.length_append, List.length_cons]
  omega

theorem header {parts : List String} (nonempty : parts ≠ [])
    (each : forall part, part ∈ parts -> IsBarePart part) (few : parts.length < nestingBound)
    (opened : draft.open? ⟨parts, true⟩ = some next) :
    ReadsLines draft (writeHeader parts) next := by
  refine ⟨1, Nat.succ_le_succ (Nat.zero_le _), fun steps left => ?_⟩
  have read := header?_writeHeader nonempty each few left
  have visible : afterBlanks (writeHeader parts ++ left) = writeHeader parts ++ left := rfl
  rw [linesFrom, visible]
  rw [writeHeader, List.cons_append] at read ⊢
  simp only [read, demand, bind, Except.bind, opened]

/-- The characters of a whole text are steps enough, with one more for its end. -/
theorem linesFrom_eq (read : ReadsLines draft text next) :
    linesFrom (text.length + 1) draft text = .ok next := by
  rcases read with ⟨count, fewer, read⟩
  have last := read (text.length - count + 1) []
  have steps : text.length - count + 1 + count = text.length + 1 := by omega
  rw [steps, List.append_nil] at last
  rw [last]
  rfl

end ReadsLines

end Toml
end Guidebook
