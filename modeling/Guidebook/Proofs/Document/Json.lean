import Guidebook.Document.Format
import Guidebook.Proofs.Json.Reading
import Guidebook.Proofs.Section.Members

namespace Guidebook

/-!
# JSON documents are read back

A section is written with two brackets for every level but the last, which is a
command and has one.  A document has one bracket more around the list of its
roots, or two.  Of the 127 brackets that may stand open, 63 levels leave room for
either, and one level more leaves room for neither.
-/

/-! ## Sections as values -/

namespace Section

theorem values_eq_map (members : Forest) : values members = members.map value := by
  induction members with
  | nil => rfl
  | cons first rest inductionHypothesis =>
      rw [values, inductionHypothesis, List.map_cons]

theorem value_of_members (name : String) {members : Forest} (nonempty : members ≠ []) :
    value ⟨name, members⟩ =
      .object [("name", .text name), ("children", .list (values members))] := by
  cases members with
  | nil => exact False.elim (nonempty rfl)
  | cons first rest => rw [value, values]

theorem exact_values {members : Forest}
    (each : forall member, member ∈ members -> member.value.Exact) :
    forall inner, inner ∈ values members -> inner.Exact := by
  rw [values_eq_map]
  exact List.forall_mem_map.mpr each

theorem exact_value (subject : Section) : subject.value.Exact := by
  induction subject using member_induction with
  | above name members inductionHypothesis =>
      have nameExact : (Json.Value.text name).Exact := .text name
      by_cases empty : members = []
      · subst members
        exact .object (List.forall_mem_singleton.mpr nameExact)
      · have membersExact : (Json.Value.list (values members)).Exact :=
          .list (exact_values inductionHypothesis)
        rw [value_of_members name empty]
        exact .object (List.forall_mem_cons.mpr
          ⟨nameExact, List.forall_mem_singleton.mpr membersExact⟩)

/-- Nothing is written of no members, which the subtraction from zero agrees with. -/
theorem nestingOfElements_values {members : Forest}
    (each : forall member, member ∈ members -> member.value.nesting + 1 = 2 * member.depth) :
    Json.Value.nestingOfElements (values members) = 2 * members.depth - 1 := by
  induction members with
  | nil => rfl
  | cons first rest inductionHypothesis =>
      rw [List.forall_mem_cons] at each
      have further := inductionHypothesis each.2
      have counted := each.1
      -- A section has a level at least, so the subtraction is not cut off from here on.
      rw [values, Json.Value.nestingOfElements, Forest.depth]
      omega

/-- Two brackets for every level but the last. -/
theorem nesting_value (subject : Section) : subject.value.nesting + 1 = 2 * subject.depth := by
  induction subject using member_induction with
  | above name members inductionHypothesis =>
      cases members with
      | nil => rfl
      | cons first rest =>
          have counted := inductionHypothesis first List.mem_cons_self
          have together := nestingOfElements_values inductionHypothesis
          rw [Forest.depth] at together
          rw [value_of_members name (List.cons_ne_nil first rest), depth, Forest.depth]
          simp only [Json.Value.nesting, Json.Value.nestingOfFields]
          omega

end Section

/-! ## Sections are returned -/

section Reading

variable {layout : Json.Layout} {nesting : Nat}

/-- The name of a section is gathered as its first field. -/
theorem Section.gathers_name (spaced : layout.Blank) {reader : Json.Reader Forest}
    {name : String} {fields : List (String × Json.Value)} {final : Draft}
    (later : Json.Gathers (field reader) layout nesting ⟨some name, none⟩ fields final) :
    Json.Gathers (field reader) layout nesting ⟨none, none⟩ (("name", .text name) :: fields)
      final := by
  refine .cons (fun depth left ends => ?_) later
  have read := Json.once_reads spaced (Json.string_returns "a string" layout nesting name) "name"
    depth ends
  exact read.map fun seen => Draft.mk seen none

theorem Section.gathers_members (spaced : layout.Blank) {reader : Json.Reader Forest}
    {value : Json.Value} {members : Forest}
    (returns : Json.Returns reader layout nesting value members) (name : String) :
    Json.Gathers (field reader) layout nesting ⟨some name, none⟩ [("children", value)]
      ⟨some name, some members⟩ := by
  refine .cons (fun depth left ends => ?_) (.nil _)
  have read := Json.once_reads spaced returns "children" depth ends
  exact read.map fun seen => Draft.mk (some name) seen

theorem Forest.ofJson_returns (spaced : layout.Blank) {forest : Forest}
    (each : forall root, root ∈ forest -> forall nesting,
      Json.Returns (Section.ofJson nesting) layout nesting root.value root) (nesting : Nat) :
    Json.Returns (ofJson nesting) layout nesting (.list (Section.values forest)) forest := by
  cases nesting with
  | zero => exact Json.sequence_returns_zero layout _ forest
  | succ nesting =>
      have exact := Section.exact_values fun root (_ : root ∈ forest) => root.exact_value
      have returned : List.Forall₂ (Json.Returns (Section.ofJson nesting) layout nesting)
          (Section.values forest) forest := by
        rw [Section.values_eq_map, List.forall₂_map_left_iff]
        exact List.forall₂_same.mpr fun root listed => each root listed nesting
      exact Json.sequence_returns spaced returned exact

theorem Section.ofJson_returns (spaced : layout.Blank) (subject : Section) (nesting : Nat) :
    Json.Returns (ofJson nesting) layout nesting subject.value subject := by
  induction subject using member_induction generalizing nesting with
  | above name members inductionHypothesis =>
      cases nesting with
      | zero =>
          by_cases empty : members = []
          · subst members
            exact Json.record_returns_zero "struct TreeNode" layout _ _
          · rw [value_of_members name empty]
            exact Json.record_returns_zero "struct TreeNode" layout _ _
      | succ nesting =>
          by_cases empty : members = []
          · subst members
            have gathers : Json.Gathers (field (Forest.ofJson nesting)) layout nesting
                ⟨none, none⟩ [("name", .text name)] ⟨some name, none⟩ := gathers_name spaced (.nil _)
            apply Json.record_returns spaced (fun _ => rfl) gathers
            exact fun _ => rfl
          · have below := Forest.ofJson_returns spaced inductionHypothesis nesting
            have gathers := gathers_name spaced (gathers_members spaced below name)
            rw [value_of_members name empty]
            apply Json.record_returns spaced (fun _ => rfl) gathers
            exact fun _ => rfl

theorem Document.wrapped_returns (spaced : layout.Blank) (forest : Forest) (nesting : Nat) :
    Json.Returns (wrapped nesting) layout nesting (value forest) forest := by
  cases nesting with
  | zero => exact Json.record_returns_zero "struct GuidebookDocument" layout _ forest
  | succ nesting =>
      have below := Forest.ofJson_returns spaced
        (fun root (_ : root ∈ forest) => root.ofJson_returns spaced) nesting
      have gathers : Json.Gathers (field (Forest.ofJson nesting)) layout nesting none
          [("tree", .list (Section.values forest))] (some forest) :=
        .cons (fun depth left ends => Json.once_reads spaced below "tree" depth ends) (.nil _)
      apply Json.record_returns spaced (fun _ => rfl) gathers
      exact fun _ => rfl

end Reading

/-! ## Documents -/

namespace Document

/-- The list of the sections of a forest, which is a document without its field. -/
def bareValue (forest : Forest) : Json.Value :=
  .list (Section.values forest)

/-- Of the nesting that is admitted, 63 levels are left to a document without its field. -/
theorem nesting_bareValue_le_iff (forest : Forest) :
    (bareValue forest).nesting ≤ Json.nestingLimit ↔ forest.depth ≤ 63 := by
  have together := Section.nestingOfElements_values fun root (_ : root ∈ forest) =>
    root.nesting_value
  rw [bareValue, Json.Value.nesting, together, Json.nestingLimit]
  omega

/-- The field takes one bracket more, which a level of sections would take whole. -/
theorem nesting_value_le_iff (forest : Forest) :
    (value forest).nesting ≤ Json.nestingLimit ↔ forest.depth ≤ 63 := by
  have together := Section.nestingOfElements_values fun root (_ : root ∈ forest) =>
    root.nesting_value
  simp only [value, Json.Value.nesting, Json.Value.nestingOfFields, together, Json.nestingLimit]
  omega

theorem isBare_bareValue (forest : Forest) : isBare (bareValue forest).compact = true := by
  have written := Json.Value.characters_list_append .compact 0 (Section.values forest) []
  rw [List.append_nil] at written
  rw [isBare, bareValue, Json.Value.compact, String.toList_ofList, written]
  rfl

theorem isBare_json (forest : Forest) : isBare (json forest) = false := by
  rw [isBare, json, value, Json.Value.compact, String.toList_ofList]
  rfl

theorem ofJson_json (forest : Forest) :
    (forest.depth ≤ 63 -> ofJson (json forest) = .ok forest) ∧
      (63 < forest.depth -> Exists fun failure => ofJson (json forest) = .error failure) := by
  have returns := wrapped_returns Json.Layout.blank_compact forest Json.nestingLimit
  have read := Json.whole_of_returns returns
  rw [← Nat.not_le, nesting_value_le_iff, Nat.not_le] at read
  rw [ofJson, isBare_json]
  exact read

theorem ofJson_bareValue (forest : Forest) :
    (forest.depth ≤ 63 -> ofJson (bareValue forest).compact = .ok forest) ∧
      (63 < forest.depth ->
        Exists fun failure => ofJson (bareValue forest).compact = .error failure) := by
  have returns := Forest.ofJson_returns Json.Layout.blank_compact
    (fun root (_ : root ∈ forest) => root.ofJson_returns Json.Layout.blank_compact)
    Json.nestingLimit
  have read := Json.whole_of_returns returns
  rw [← Nat.not_le, ← bareValue, nesting_bareValue_le_iff, Nat.not_le] at read
  rw [ofJson, isBare_bareValue]
  exact read

theorem read_json_eq_ok {text : String} {forest : Forest} (read : ofJson text = .ok forest) :
    Format.json.read text = .ok forest := by
  rw [Format.read, read]
  rfl

theorem read_json_eq_error {text : String}
    (failed : Exists fun failure => ofJson text = .error failure) :
    Exists fun message => Format.json.read text = .error message := by
  rcases failed with ⟨failure, failed⟩
  refine ⟨failure.message text, ?_⟩
  rw [Format.read, failed]
  rfl

/-- A document in either form is read back from its compact text where no root has more
than 63 levels, and is a failure where one has more. -/
theorem read_json_of_depth (forest : Forest) :
    ((forall root, root ∈ forest -> root.depth ≤ 63) ->
      Format.json.read (json forest) = .ok forest ∧
        Format.json.read (bareValue forest).compact = .ok forest) ∧
    ((Exists fun root => root ∈ forest ∧ 63 < root.depth) ->
      (Exists fun message => Format.json.read (json forest) = .error message) ∧
        Exists fun message => Format.json.read (bareValue forest).compact = .error message) := by
  have wrappedRead := ofJson_json forest
  have bareRead := ofJson_bareValue forest
  have shallow := forest.depth_le_iff 63
  constructor
  · intro each
    have within := shallow.mpr each
    exact ⟨read_json_eq_ok (wrappedRead.1 within), read_json_eq_ok (bareRead.1 within)⟩
  · rintro ⟨root, listed, deep⟩
    have beyond : 63 < forest.depth := by
      apply Nat.lt_of_not_le
      intro within
      exact Nat.not_le.mpr deep (shallow.mp within root listed)
    exact ⟨read_json_eq_error (wrappedRead.2 beyond), read_json_eq_error (bareRead.2 beyond)⟩

/-- So many sections above a command, all with names that are escaped. -/
def tower : (height : Nat) -> Section
  | 0 => .command "\"\\ \u0001\t\n"
  | height + 1 => ⟨"é \"😀\"", [tower height]⟩

theorem depth_tower (height : Nat) : (tower height).depth = height + 1 := by
  induction height with
  | zero => rfl
  | succ height inductionHypothesis =>
      rw [tower, Section.depth, Forest.depth, inductionHypothesis, Forest.depth, Nat.max_zero,
        Nat.add_comm]

/-- Sixty-three levels beside a nameless command, and sixty-four. -/
theorem read_json_of_depth_tower :
    (Format.json.read (json [tower 62, .command ""]) = .ok [tower 62, .command ""] ∧
        Format.json.read (bareValue [tower 62, .command ""]).compact =
          .ok [tower 62, .command ""]) ∧
      (Exists fun message => Format.json.read (json [.command "", tower 63]) = .error message) ∧
        Exists fun message =>
          Format.json.read (bareValue [.command "", tower 63]).compact = .error message := by
  constructor
  · apply (read_json_of_depth [tower 62, .command ""]).1
    simp only [List.forall_mem_cons]
    exact ⟨Nat.le_of_eq (depth_tower 62), by decide, List.forall_mem_nil _⟩
  · apply (read_json_of_depth [.command "", tower 63]).2
    refine ⟨tower 63, by simp, ?_⟩
    rw [depth_tower]
    decide

end Document
end Guidebook
