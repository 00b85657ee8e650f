import Guidebook.Plan.Json
import Guidebook.Proofs.Json.Value
import Guidebook.Proofs.Plan.Members
import Mathlib.Data.List.Permutation

namespace Guidebook

/-!
# Steps are what their values say

The fields of the objects that a step is written as may be taken in any order, at
every level: the step is the one that was written.  The field that tells the kind
is set apart first, wherever it stands, since the others mean nothing without it.
-/

/-! ## Orders of few fields -/

theorem eq_of_perm_pair {Item : Type} {first second : Item} {others : List Item}
    (order : [first, second].Perm others) :
    others = [first, second] ∨ others = [second, first] := by
  simpa [List.permutations'] using List.mem_permutations'.mpr order.symm

theorem eq_of_perm_triple {Item : Type} {first second third : Item} {others : List Item}
    (order : [first, second, third].Perm others) :
    others = [first, second, third] ∨ others = [second, first, third] ∨
      others = [second, third, first] ∨ others = [first, third, second] ∨
        others = [third, first, second] ∨ others = [third, second, first] := by
  simpa [List.permutations'] using List.mem_permutations'.mpr order.symm

/-! ## The kind among the fields -/

theorem Kind.ofName_name (kind : Kind) : ofName kind.name = .ok kind := by
  cases kind <;> rfl

namespace Step

/-- The fields of a step of this kind, with the field that tells the kind once among
the others, and these others in the same order. -/
inductive Tagged (kind : Kind) : (fields others : List (String × Json.Value)) -> Prop
  | here {others : List (String × Json.Value)}
      (untagged : forall field : String × Json.Value, field ∈ others -> field.1 ≠ "kind") :
      Tagged kind (("kind", .text kind.name) :: others) others
  | later {fields others : List (String × Json.Value)} {name : String} (value : Json.Value)
      (untagged : name ≠ "kind") (tagged : Tagged kind fields others) :
      Tagged kind ((name, value) :: fields) ((name, value) :: others)

namespace Tagged

variable {kind : Kind} {fields others : List (String × Json.Value)}

theorem kindOfFields_untagged (kind : Kind)
    (untagged : forall field : String × Json.Value, field ∈ others -> field.1 ≠ "kind") :
    Kind.ofFields (some kind) others = .ok kind := by
  induction others with
  | nil => rfl
  | cons first rest inductionHypothesis =>
      obtain ⟨name, value⟩ := first
      rw [List.forall_mem_cons] at untagged
      rw [Kind.ofFields, if_neg untagged.1]
      exact inductionHypothesis untagged.2

/-- The kind is found among the fields. -/
theorem kindOfFields (tagged : Tagged kind fields others) :
    Kind.ofFields none fields = .ok kind := by
  induction tagged with
  | here untagged =>
      rw [Kind.ofFields, if_pos rfl, Kind.ofValue, Kind.ofName_name]
      exact kindOfFields_untagged kind untagged
  | later value untagged _ inductionHypothesis =>
      rw [Kind.ofFields, if_neg untagged]
      exact inductionHypothesis

/-- A step takes no notice of its kind among the other fields. -/
theorem ofFields (tagged : Tagged kind fields others) (draft : Draft) :
    Step.ofFields kind draft fields = Step.ofFields kind draft others := by
  induction tagged generalizing draft with
  | here _ => cases kind <;> simp [Step.ofFields]
  | @later fields others name value _ _ inductionHypothesis =>
      rw [ofFields.eq_def, ofFields.eq_def kind draft ((name, value) :: others)]
      simp only [inductionHypothesis]

/-- Among fields in any order the kind stands somewhere. -/
theorem exists_of_perm {rest : List (String × Json.Value)}
    (order : (("kind", Json.Value.text kind.name) :: rest).Perm fields)
    (untagged : forall field : String × Json.Value, field ∈ rest -> field.1 ≠ "kind") :
    Exists fun others => Tagged kind fields others ∧ rest.Perm others := by
  have listed : ("kind", Json.Value.text kind.name) ∈ fields := order.mem_iff.mp List.mem_cons_self
  rcases List.append_of_mem listed with ⟨before, after, rfl⟩
  -- Without the kind, what stands around it is the other fields in some order.
  have others : rest.Perm (before ++ after) := (order.trans List.perm_middle).cons_inv
  refine ⟨before ++ after, ?_, others⟩
  have away : forall field : String × Json.Value, field ∈ before ++ after -> field.1 ≠ "kind" :=
    fun field found => untagged field (others.mem_iff.mpr found)
  clear order listed others
  induction before with
  | nil => exact .here away
  | cons first before inductionHypothesis =>
      obtain ⟨name, value⟩ := first
      rw [List.cons_append, List.forall_mem_cons] at away
      exact .later value away.1 (inductionHypothesis away.2)

end Tagged

/-! ## Kinds and other fields -/

/-- The kind of a step. -/
def tag : Step -> Kind
  | .task _ => .task
  | .sequence _ _ => .sequence
  | .choice _ _ => .choice

/-- The fields that a step is written with beside its kind. -/
def parts : Step -> List (String × Json.Value)
  | .task command => [("command", .text command)]
  | .sequence title steps => [("title", .text title), ("steps", .list (values steps))]
  | .choice title branches =>
    [("title", .text title), ("alternatives", .list (branchValues branches))]

theorem value_eq (step : Step) :
    step.value = .object (("kind", .text step.tag.name) :: step.parts) := by
  cases step <;> rw [value] <;> rfl

theorem name_ne_kind_of_mem_parts (step : Step) :
    forall field : String × Json.Value, field ∈ step.parts -> field.1 ≠ "kind" := by
  cases step <;> simp [parts]

/-- A value in which the fields of a step stand in any order is an object with the kind
of the step among its other fields, which stand in any order. -/
theorem exists_tagged_of_reordered {step : Step} {other : Json.Value}
    (reordered : step.value.Reordered other) :
    Exists fun fields => Exists fun others => Exists fun renewed => other = .object fields ∧
      Tagged step.tag fields others ∧
        List.Forall₂ Json.Value.FieldReordered step.parts renewed ∧ renewed.Perm others := by
  rw [value_eq, Json.Value.reordered_object_iff] at reordered
  rcases reordered with ⟨renewed, fields, rfl, each, order⟩
  rcases (Json.Value.forall₂_fieldReordered_cons_iff _ _ _ _).mp each with
    ⟨kindValue, further, rfl, sameKind, eachFurther⟩
  rcases (Json.Value.reordered_text_iff _ _).mp sameKind with rfl
  have untagged : forall field : String × Json.Value, field ∈ further -> field.1 ≠ "kind" := by
    have named : List.Forall₂ (fun _ field : String × Json.Value => field.1 ≠ "kind")
        step.parts further := by
      apply Json.Value.forall₂_imp_of_mem eachFurther
      rintro _ listed _ ⟨name, _⟩
      have apart : name ≠ "kind" := step.name_ne_kind_of_mem_parts _ listed
      exact apart
    exact Json.Value.forall_mem_of_forall₂ named
  rcases Tagged.exists_of_perm order untagged with ⟨others, tagged, rearranged⟩
  exact ⟨fields, others, further, rfl, tagged, eachFurther, rearranged⟩

/-! ## Steps -/

/-- A step is made again of its fields beside the kind, in any order. -/
def Recovers (step : Step) : Prop :=
  forall renewed others, List.Forall₂ Json.Value.FieldReordered step.parts renewed ->
    renewed.Perm others -> ofGathered step.tag (.object others) = .ok step

theorem Recovers.ofValue {step : Step} (recovers : Recovers step) {other : Json.Value}
    (reordered : step.value.Reordered other) : Step.ofValue other = .ok step := by
  rcases exists_tagged_of_reordered reordered with
    ⟨fields, others, renewed, rfl, tagged, each, order⟩
  have made := recovers renewed others each order
  rw [ofGathered] at made
  rw [Step.ofValue, tagged.kindOfFields]
  show (Step.ofFields step.tag .empty fields >>= fun draft => draft.finish step.tag) = _
  rw [tagged.ofFields]
  exact made

theorem stepsOfValues_of_reordered {steps : List Step} {others : List Json.Value}
    (recover : forall step, step ∈ steps -> Recovers step)
    (each : List.Forall₂ Json.Value.Reordered (values steps) others) :
    stepsOfValues others = .ok steps := by
  induction steps generalizing others with
  | nil =>
      cases each
      rfl
  | cons first rest inductionHypothesis =>
      rw [List.forall_mem_cons] at recover
      cases each with
      | cons firstReordered restReordered =>
          rw [stepsOfValues, recover.1.ofValue firstReordered,
            inductionHypothesis recover.2 restReordered]
          rfl

theorem asWord_index (index : UInt32) :
    (Json.Value.integer index.toNat).asWord = .ok index := by
  have within : (decide ((0 : Int) ≤ index.toNat) &&
      decide ((index.toNat : Int) < UInt32.size)) = true := by
    rw [Bool.and_eq_true, decide_eq_true_iff, decide_eq_true_iff]
    exact ⟨Int.natCast_nonneg _, Int.ofNat_lt.mpr index.toNat_lt_size⟩
  rw [Json.Value.asWord, if_pos within, Int.toNat_natCast, UInt32.ofNat_toNat]

/-- A branch as a value. -/
def branchValue (branch : Branch Step) : Json.Value :=
  .object [("index", .integer branch.index.toNat), ("label", .text branch.label),
    ("body", branch.body.value)]

theorem branchValues_eq_map (branches : List (Branch Step)) :
    branchValues branches = branches.map branchValue := by
  induction branches with
  | nil => rfl
  | cons first rest inductionHypothesis =>
      rw [branchValues, inductionHypothesis, List.map_cons, branchValue]

theorem branchOfValue_of_reordered {branch : Branch Step} {other : Json.Value}
    (recovers : Recovers branch.body) (reordered : (branchValue branch).Reordered other) :
    branchOfValue other = .ok branch := by
  simp only [branchValue, Json.Value.reordered_object_iff,
    Json.Value.forall₂_fieldReordered_cons_iff, Json.Value.reordered_integer_iff,
    Json.Value.reordered_text_iff, List.forall₂_nil_left_iff] at reordered
  rcases reordered with
    ⟨_, fields, rfl, ⟨_, _, rfl, rfl, _, _, rfl, rfl, body, _, rfl, bodyReordered, rfl⟩, order⟩
  have recovered := recovers.ofValue bodyReordered
  have word := asWord_index branch.index
  rcases eq_of_perm_triple order with rfl | rfl | rfl | rfl | rfl | rfl <;>
    simp [branchOfValue, branchOfFields, Mismatch.refuseRepeated, BranchDraft.finish,
      Mismatch.need, Json.Value.asText, word, recovered] <;> rfl

theorem branchesOfValues_of_reordered {branches : List (Branch Step)} {others : List Json.Value}
    (recover : forall branch : Branch Step, branch ∈ branches -> Recovers branch.body)
    (each : List.Forall₂ Json.Value.Reordered (branchValues branches) others) :
    branchesOfValues others = .ok branches := by
  rw [branchValues_eq_map] at each
  induction branches generalizing others with
  | nil =>
      cases each
      rfl
  | cons first rest inductionHypothesis =>
      rw [List.forall_mem_cons] at recover
      cases each with
      | cons firstReordered restReordered =>
          rw [branchesOfValues, branchOfValue_of_reordered recover.1 firstReordered,
            inductionHypothesis recover.2 restReordered]
          rfl

/-- Every step is made again of its fields beside the kind, in any order. -/
theorem recovers (step : Step) : Recovers step := by
  induction step using member_induction with
  | task command =>
      intro renewed others each order
      simp only [parts, Json.Value.forall₂_fieldReordered_cons_iff, Json.Value.reordered_text_iff,
        List.forall₂_nil_left_iff] at each
      rcases each with ⟨_, _, rfl, rfl, rfl⟩
      rcases List.singleton_perm.mp order with rfl
      rfl
  | sequence title steps inductionHypothesis =>
      intro renewed others each order
      simp only [parts, Json.Value.forall₂_fieldReordered_cons_iff, Json.Value.reordered_text_iff,
        Json.Value.reordered_list_iff, List.forall₂_nil_left_iff] at each
      rcases each with ⟨_, _, rfl, rfl, _, _, rfl, ⟨stepValues, rfl, eachStep⟩, rfl⟩
      have read := stepsOfValues_of_reordered inductionHypothesis eachStep
      rcases eq_of_perm_pair order with rfl | rfl <;>
        simp [ofGathered, tag, ofFields, stepsOfValue, Draft.empty, Draft.finish,
          Mismatch.refuseRepeated, Mismatch.need, Json.Value.asText, read] <;> rfl
  | choice title branches inductionHypothesis =>
      intro renewed others each order
      simp only [parts, Json.Value.forall₂_fieldReordered_cons_iff, Json.Value.reordered_text_iff,
        Json.Value.reordered_list_iff, List.forall₂_nil_left_iff] at each
      rcases each with ⟨_, _, rfl, rfl, _, _, rfl, ⟨branchValues, rfl, eachBranch⟩, rfl⟩
      have read := branchesOfValues_of_reordered inductionHypothesis eachBranch
      rcases eq_of_perm_pair order with rfl | rfl <;>
        simp [ofGathered, tag, ofFields, branchesOfValue, Draft.empty, Draft.finish,
          Mismatch.refuseRepeated, Mismatch.need, Json.Value.asText, read] <;> rfl

/-! ## Exact values -/

theorem values_eq_map (steps : List Step) : values steps = steps.map value := by
  induction steps with
  | nil => rfl
  | cons first rest inductionHypothesis =>
      rw [values, inductionHypothesis, List.map_cons]

theorem exact_branchValue (branch : Branch Step) (body : branch.body.value.Exact) :
    (branchValue branch).Exact := by
  have word : branch.index.toNat ≤ Json.Number.greatest :=
    Nat.le_trans (Nat.le_of_lt branch.index.toNat_lt_size) (by decide)
  apply Json.Value.Exact.object
  simp only [List.forall_mem_cons]
  exact ⟨.integer word, .text branch.label, body, List.forall_mem_nil _⟩

/-- A step is written without a number that reading would round. -/
theorem exact_value (step : Step) : step.value.Exact := by
  induction step using member_induction with
  | task command =>
      apply Json.Value.Exact.object
      simp only [List.forall_mem_cons]
      exact ⟨.text "task", .text command, List.forall_mem_nil _⟩
  | sequence title steps inductionHypothesis =>
      have listed : (Json.Value.list (values steps)).Exact := by
        apply Json.Value.Exact.list
        rw [values_eq_map]
        exact List.forall_mem_map.mpr inductionHypothesis
      apply Json.Value.Exact.object
      simp only [List.forall_mem_cons]
      exact ⟨.text "sequence", .text title, listed, List.forall_mem_nil _⟩
  | choice title branches inductionHypothesis =>
      have listed : (Json.Value.list (branchValues branches)).Exact := by
        apply Json.Value.Exact.list
        rw [branchValues_eq_map]
        exact List.forall_mem_map.mpr fun branch found =>
          exact_branchValue branch (inductionHypothesis branch found)
      apply Json.Value.Exact.object
      simp only [List.forall_mem_cons]
      exact ⟨.text "choice", .text title, listed, List.forall_mem_nil _⟩

end Step
end Guidebook
