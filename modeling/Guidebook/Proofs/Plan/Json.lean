import Guidebook.Proofs.Json.Reading
import Guidebook.Proofs.Plan.Value

namespace Guidebook

/-!
# Plans are read back

The text of a plan is read back as the plan, and so is the text of any value that
differs from the plan's own in the order of fields.  The only bound is the number
of brackets that may stand open: beyond it reading fails.  The fields of the
outermost object are met one by one and the kind is read when it comes, while all
further objects are kept as values until the whole step is known; both ways agree
because the kind is set apart first in either.
-/

section Reading

variable {layout : Json.Layout} {nesting : Nat}

/-! ## Steps -/

namespace Step

theorem kind_returns (layout : Json.Layout) (nesting : Nat) (tag : Kind) :
    Json.Returns kind layout nesting (.text tag.name) tag := by
  intro depth blanks left blank ends
  have read := Json.string_returns "variant identifier" layout nesting tag.name depth blanks left
    blank ends
  apply read.followed
  simp only [Kind.ofName_name]
  rfl

theorem field_kind_reads (spaced : layout.Blank) (reader : Json.Reader Json.Value) (tag : Kind)
    (gathered : List (String × Json.Value)) (depth : Nat) {left : List Char}
    (ends : EndsRun Json.continuesNumber left) :
    Json.Reads ((Json.Value.text tag.name).nesting ≤ nesting) (Gathered.mk (some tag) gathered)
      left (field reader "kind" ⟨none, gathered⟩
        (layout.colon ++ ((Json.Value.text tag.name).characters layout depth ++ left))) := by
  have read := Json.once_reads spaced (kind_returns layout nesting tag) "kind" depth ends
  exact read.map fun seen => Gathered.mk seen gathered

theorem field_other_reads (spaced : layout.Blank) {name : String} (untagged : name ≠ "kind")
    {value : Json.Value} (exact : value.Exact) (seen : Option Kind)
    (gathered : List (String × Json.Value)) (depth : Nat) {left : List Char}
    (ends : EndsRun Json.continuesNumber left) :
    Json.Reads (value.nesting ≤ nesting) (Gathered.mk seen ((name, value) :: gathered)) left
      (field (Json.value nesting) name ⟨seen, gathered⟩
        (layout.colon ++ (value.characters layout depth ++ left))) := by
  have read := Json.kept_reads spaced (Json.value_returns spaced exact nesting) name gathered
    depth ends
  simp only [field, if_neg untagged]
  exact read.map fun fields => Gathered.mk seen fields

theorem gathers_untagged (spaced : layout.Blank) {others : List (String × Json.Value)}
    (exact : forall field : String × Json.Value, field ∈ others -> field.2.Exact)
    (untagged : forall field : String × Json.Value, field ∈ others -> field.1 ≠ "kind")
    (seen : Option Kind) (gathered : List (String × Json.Value)) :
    Json.Gathers (field (Json.value nesting)) layout nesting ⟨seen, gathered⟩ others
      ⟨seen, others.reverse ++ gathered⟩ := by
  induction others generalizing gathered with
  | nil => exact .nil _
  | cons first rest inductionHypothesis =>
      rw [List.forall_mem_cons] at exact untagged
      have later := inductionHypothesis exact.2 untagged.2 (first :: gathered)
      rw [List.reverse_cons, List.append_assoc, List.singleton_append]
      exact .cons (fun depth left ends =>
        field_other_reads spaced untagged.1 exact.1 seen gathered depth ends) later

/-- The kind is taken from where it stands, and the other fields are kept in order. -/
theorem Tagged.gathers (spaced : layout.Blank) {tag : Kind}
    {fields others : List (String × Json.Value)} (tagged : Tagged tag fields others)
    (exact : forall field : String × Json.Value, field ∈ fields -> field.2.Exact)
    (gathered : List (String × Json.Value)) :
    Json.Gathers (field (Json.value nesting)) layout nesting ⟨none, gathered⟩ fields
      ⟨some tag, others.reverse ++ gathered⟩ := by
  induction tagged generalizing gathered with
  | here untagged =>
      rw [List.forall_mem_cons] at exact
      exact .cons (fun depth left ends =>
          field_kind_reads spaced (Json.value nesting) tag gathered depth ends)
        (gathers_untagged spaced exact.2 untagged (some tag) gathered)
  | @later fields others name value untagged _ inductionHypothesis =>
      rw [List.forall_mem_cons] at exact
      have later := inductionHypothesis exact.2 ((name, value) :: gathered)
      rw [List.reverse_cons, List.append_assoc, List.singleton_append]
      exact .cons (fun depth left ends =>
        field_other_reads spaced untagged exact.1 none gathered depth ends) later

theorem gathered_returns (spaced : layout.Blank) {tag : Kind}
    {fields others : List (String × Json.Value)} (tagged : Tagged tag fields others)
    (exact : forall field : String × Json.Value, field ∈ fields -> field.2.Exact)
    (nesting : Nat) :
    Json.Returns (gathered nesting) layout nesting (.object fields) (tag, .object others) := by
  cases nesting with
  | zero => exact Json.record_returns_zero "internally tagged enum PlanNode" layout _ _
  | succ nesting =>
      apply Json.record_returns spaced (fun _ => rfl) (tagged.gathers spaced exact [])
      intro left
      simp only [List.append_nil, List.reverse_reverse]
      rfl

/-- A step is read back from any value that differs from its own in the order of fields. -/
theorem ofJson_returns (spaced : layout.Blank) {step : Step} {value : Json.Value}
    (reordered : step.value.Reordered value) (nesting : Nat) :
    Json.Returns (ofJson nesting) layout nesting value step := by
  have exact := reordered.exact step.exact_value
  rcases exists_tagged_of_reordered reordered with
    ⟨fields, others, renewed, rfl, tagged, each, order⟩
  cases exact with
  | object exactFields =>
      intro depth blanks left blank ends
      have read := gathered_returns spaced tagged exactFields nesting depth blanks left blank ends
      apply read.followed
      -- Nothing is read any more: the fields that were kept are the step's own.
      simp only [recovers step renewed others each order]
      rfl

end Step

/-! ## Plans -/

namespace Plan

theorem gathers_input (spaced : layout.Blank) {reader : Json.Reader Step} {input : String}
    {root : Option Step} {fields : List (String × Json.Value)} {final : Draft}
    (later : Json.Gathers (field reader) layout nesting ⟨some input, root⟩ fields final) :
    Json.Gathers (field reader) layout nesting ⟨none, root⟩ (("input", .text input) :: fields)
      final := by
  refine .cons (fun depth left ends => ?_) later
  have read := Json.once_reads spaced (Json.string_returns "a string" layout nesting input) "input"
    depth ends
  exact read.map fun seen => Draft.mk seen root

theorem gathers_root (spaced : layout.Blank) {reader : Json.Reader Step} {value : Json.Value}
    {step : Step} (returns : Json.Returns reader layout nesting value step)
    {input : Option String} {fields : List (String × Json.Value)} {final : Draft}
    (later : Json.Gathers (field reader) layout nesting ⟨input, some step⟩ fields final) :
    Json.Gathers (field reader) layout nesting ⟨input, none⟩ (("root", value) :: fields)
      final := by
  refine .cons (fun depth left ends => ?_) later
  have read := Json.once_reads spaced returns "root" depth ends
  exact read.map fun seen => Draft.mk input seen

theorem reader_returns (spaced : layout.Blank) {plan : Plan} {value : Json.Value}
    (reordered : plan.value.Reordered value) (nesting : Nat) :
    Json.Returns (reader nesting) layout nesting value plan := by
  simp only [Plan.value, Json.Value.reordered_object_iff,
    Json.Value.forall₂_fieldReordered_cons_iff, Json.Value.reordered_text_iff,
    List.forall₂_nil_left_iff] at reordered
  rcases reordered with
    ⟨_, fields, rfl, ⟨_, _, rfl, rfl, root, _, rfl, rootReordered, rfl⟩, order⟩
  cases nesting with
  | zero => exact Json.record_returns_zero "struct Plan" layout _ _
  | succ nesting =>
      have returns := Step.ofJson_returns spaced rootReordered nesting
      have gathers : Json.Gathers (field (Step.ofJson nesting)) layout nesting ⟨none, none⟩
          fields ⟨some plan.input, some plan.root⟩ := by
        rcases eq_of_perm_pair order with rfl | rfl
        · exact gathers_input spaced (gathers_root spaced returns (.nil _))
        · exact gathers_root spaced returns (gathers_input spaced (.nil _))
      apply Json.record_returns spaced (fun _ => rfl) gathers
      exact fun _ => rfl

end Plan

end Reading

namespace Plan

/-- The text of a plan is read back as the plan, with the fields of any objects in any
other order too, as far as 127 brackets reach, and is a failure beyond. -/
theorem ofJson_of_nesting (plan : Plan) :
    (plan.value.nesting ≤ 127 ->
      ofJson plan.json = .ok plan ∧
        forall value, plan.value.Reordered value -> ofJson value.indented = .ok plan) ∧
    (127 < plan.value.nesting ->
      (Exists fun failure => ofJson plan.json = .error failure) ∧
        forall value, plan.value.Reordered value ->
          Exists fun failure => ofJson value.indented = .error failure) := by
  have read : forall value, plan.value.Reordered value ->
      (plan.value.nesting ≤ 127 -> ofJson value.indented = .ok plan) ∧
        (127 < plan.value.nesting ->
          Exists fun failure => ofJson value.indented = .error failure) := by
    intro value reordered
    have returns := reader_returns Json.Layout.blank_indented reordered Json.nestingLimit
    have outcomes := Json.whole_of_returns returns
    -- Another order of fields opens as many brackets, so the bound is that of the plan.
    rw [reordered.nesting_eq] at outcomes
    exact outcomes
  have unchanged : plan.value.Reordered plan.value := .same plan.value
  constructor
  · intro within
    exact ⟨(read plan.value unchanged).1 within,
      fun value reordered => (read value reordered).1 within⟩
  · intro beyond
    exact ⟨(read plan.value unchanged).2 beyond,
      fun value reordered => (read value reordered).2 beyond⟩

/-- So many sequences around a choice, which takes three brackets where a sequence takes
two, with texts that are escaped and the greatest index. -/
def tower : (height : Nat) -> Step
  | 0 => .choice "\"\\ \u0001" [⟨4294967295, "é 😀", .task "\t\n"⟩]
  | height + 1 => .sequence "" [tower height]

theorem nesting_tower (height : Nat) : (tower height).value.nesting = 2 * height + 4 := by
  induction height with
  | zero => rfl
  | succ height inductionHypothesis =>
      simp only [tower, Step.value, Step.values, Json.Value.nesting, Json.Value.nestingOfFields,
        Json.Value.nestingOfElements, inductionHypothesis]
      omega

theorem nesting_value (plan : Plan) : plan.value.nesting = 1 + plan.root.value.nesting := by
  simp only [value, Json.Value.nesting, Json.Value.nestingOfFields]
  omega

/-- A plan as a value with the root first and the kind of the root last. -/
def turned (plan : Plan) : Json.Value :=
  .object [("root", .object (plan.root.parts ++ [("kind", .text plan.root.tag.name)])),
    ("input", .text plan.input)]

theorem reordered_turned (plan : Plan) : plan.value.Reordered plan.turned := by
  have root : plan.root.value.Reordered
      (.object (plan.root.parts ++ [("kind", .text plan.root.tag.name)])) := by
    rw [Step.value_eq, Json.Value.reordered_object_iff]
    refine ⟨_, _, rfl, List.forall₂_same.mpr fun field _ => .mk field.1 (.same field.2), ?_⟩
    exact (List.perm_append_singleton _ _).symm
  apply Json.Value.Reordered.object _ (List.Perm.swap _ _ _)
  exact .cons (.mk "input" (.same _)) (.cons (.mk "root" root) .nil)

/-- Exactly 127 brackets, and more. -/
theorem ofJson_of_nesting_tower :
    ((⟨"", tower 61⟩ : Plan).value.nesting = 127 ∧
        ofJson (⟨"", tower 61⟩ : Plan).json = .ok ⟨"", tower 61⟩ ∧
        ofJson (turned ⟨"", tower 61⟩).indented = .ok ⟨"", tower 61⟩) ∧
      (Exists fun failure => ofJson (⟨"", tower 62⟩ : Plan).json = .error failure) ∧
        Exists fun failure => ofJson (turned ⟨"", tower 62⟩).indented = .error failure := by
  constructor
  · have nesting : (⟨"", tower 61⟩ : Plan).value.nesting = 127 := by
      rw [nesting_value, nesting_tower]
    have read := (ofJson_of_nesting ⟨"", tower 61⟩).1 (Nat.le_of_eq nesting)
    exact ⟨nesting, read.1, read.2 _ (reordered_turned _)⟩
  · have beyond : 127 < (⟨"", tower 62⟩ : Plan).value.nesting := by
      rw [nesting_value, nesting_tower]
      decide
    have failed := (ofJson_of_nesting ⟨"", tower 62⟩).2 beyond
    exact ⟨failed.1, failed.2 _ (reordered_turned _)⟩

end Plan
end Guidebook
