import Guidebook.Json.Number
import Guidebook.Json.Value
import Mathlib.Data.List.Forall2
import Mathlib.Order.Lattice

namespace Guidebook
namespace Json
namespace Value

/-!
# Values, their nesting and the order of their fields

The fields of an object are listed in an order that carries no meaning.  Two
values are reorderings of each other when they differ in nothing else, at any
level.  Reordering keeps the nesting, and it keeps a value exact: one that is
written and read without loss, having no binary numbers and only integers that fit
an unsigned word.
-/

/-- A fact that holds of the values without brackets, and passes from the elements
of a list and from the values of the fields of an object to the value around them,
holds of every value. -/
theorem member_induction {motive : Value -> Prop}
    (flat : forall value, value.nesting = 0 -> motive value)
    (list : forall elements, (forall element, element ∈ elements -> motive element) ->
      motive (.list elements))
    (object : forall fields,
      (forall field : String × Value, field ∈ fields -> motive field.2) ->
        motive (.object fields))
    (value : Value) : motive value := by
  apply Value.rec (motive_1 := motive)
    (motive_2 := fun elements => forall element, element ∈ elements -> motive element)
    (motive_3 := fun fields => forall field : String × Value, field ∈ fields -> motive field.2)
    (motive_4 := fun field => motive field.2)
  · exact flat .null rfl
  · exact fun value => flat (.boolean value) rfl
  · exact fun value => flat (.integer value) rfl
  · exact fun value => flat (.float value) rfl
  · exact fun value => flat (.text value) rfl
  · exact list
  · exact object
  · exact List.forall_mem_nil _
  · intro first rest firstHolds restHold
    exact List.forall_mem_cons.mpr ⟨firstHolds, restHold⟩
  · exact List.forall_mem_nil _
  · intro first rest firstHolds restHold
    exact List.forall_mem_cons.mpr ⟨firstHolds, restHold⟩
  · intro name value holds
    exact holds

/-! ## Nesting -/

theorem nestingOfElements_le_iff (elements : List Value) (bound : Nat) :
    nestingOfElements elements ≤ bound ↔
      forall element, element ∈ elements -> element.nesting ≤ bound := by
  induction elements with
  | nil => simp [nestingOfElements]
  | cons first rest inductionHypothesis =>
      rw [nestingOfElements, Nat.max_le, inductionHypothesis, List.forall_mem_cons]

theorem nestingOfFields_le_iff (fields : List (String × Value)) (bound : Nat) :
    nestingOfFields fields ≤ bound ↔
      forall field, field ∈ fields -> field.2.nesting ≤ bound := by
  induction fields with
  | nil => simp [nestingOfFields]
  | cons first rest inductionHypothesis =>
      obtain ⟨name, value⟩ := first
      rw [nestingOfFields, Nat.max_le, inductionHypothesis, List.forall_mem_cons]

/-- A list is within a nesting when its elements are within one bracket less. -/
theorem nesting_list_le_iff (elements : List Value) (bound : Nat) :
    (list elements).nesting ≤ bound + 1 ↔
      forall element, element ∈ elements -> element.nesting ≤ bound := by
  rw [nesting, Nat.add_comm, Nat.add_le_add_iff_right, nestingOfElements_le_iff]

theorem nesting_object_le_iff (fields : List (String × Value)) (bound : Nat) :
    (object fields).nesting ≤ bound + 1 ↔
      forall field, field ∈ fields -> field.2.nesting ≤ bound := by
  rw [nesting, Nat.add_comm, Nat.add_le_add_iff_right, nestingOfFields_le_iff]

theorem not_nesting_list_le_zero (elements : List Value) : ¬ (list elements).nesting ≤ 0 := by
  rw [nesting]
  omega

theorem not_nesting_object_le_zero (fields : List (String × Value)) :
    ¬ (object fields).nesting ≤ 0 := by
  rw [nesting]
  omega

/-! ## Exact values -/

/-- A value without binary numbers, whose integers fit an unsigned word of
sixty-four bits. -/
inductive Exact : Value -> Prop
  | null : Exact .null
  | boolean (value : Bool) : Exact (.boolean value)
  | integer {value : Nat} (fits : value ≤ Number.greatest) : Exact (.integer value)
  | text (value : String) : Exact (.text value)
  | list {elements : List Value} (each : forall element, element ∈ elements -> Exact element) :
      Exact (.list elements)
  | object {fields : List (String × Value)}
      (each : forall field : String × Value, field ∈ fields -> Exact field.2) :
      Exact (.object fields)

/-! ## The order of fields -/

mutual
/-- Values that differ in the order of the fields of their objects at most. -/
inductive Reordered : Value -> Value -> Prop
  | same (value : Value) : Reordered value value
  | list {elements others : List Value} (each : List.Forall₂ Reordered elements others) :
      Reordered (.list elements) (.list others)
  | object {fields renewed others : List (String × Value)}
      (each : List.Forall₂ FieldReordered fields renewed) (order : renewed.Perm others) :
      Reordered (.object fields) (.object others)

/-- Fields of one name whose values differ in the order of fields at most. -/
inductive FieldReordered : String × Value -> String × Value -> Prop
  | mk (name : String) {value other : Value} (inside : Reordered value other) :
      FieldReordered (name, value) (name, other)
end

theorem reordered_text_iff (text : String) (other : Value) :
    Reordered (.text text) other ↔ other = .text text := by
  constructor
  · intro reordered
    cases reordered
    rfl
  · intro same
    subst other
    exact .same _

theorem reordered_integer_iff (number : Int) (other : Value) :
    Reordered (.integer number) other ↔ other = .integer number := by
  constructor
  · intro reordered
    cases reordered
    rfl
  · intro same
    subst other
    exact .same _

theorem reordered_list_iff (elements : List Value) (other : Value) :
    Reordered (.list elements) other ↔
      Exists fun others => other = .list others ∧ List.Forall₂ Reordered elements others := by
  constructor
  · intro reordered
    cases reordered with
    | same => exact ⟨elements, rfl, List.forall₂_same.mpr fun element _ => .same element⟩
    | list each => exact ⟨_, rfl, each⟩
  · rintro ⟨others, same, each⟩
    subst other
    exact .list each

theorem reordered_object_iff (fields : List (String × Value)) (other : Value) :
    Reordered (.object fields) other ↔
      Exists fun renewed => Exists fun others => other = .object others ∧
        List.Forall₂ FieldReordered fields renewed ∧ renewed.Perm others := by
  constructor
  · intro reordered
    cases reordered with
    | same =>
        have each : List.Forall₂ FieldReordered fields fields :=
          List.forall₂_same.mpr fun field _ => .mk field.1 (.same field.2)
        exact ⟨fields, fields, rfl, each, .refl _⟩
    | object each order => exact ⟨_, _, rfl, each, order⟩
  · rintro ⟨renewed, others, same, each, order⟩
    subst other
    exact .object each order

/-- The first field of an object keeps its name, and so do the others. -/
theorem forall₂_fieldReordered_cons_iff (name : String) (value : Value)
    (rest renewed : List (String × Value)) :
    List.Forall₂ FieldReordered ((name, value) :: rest) renewed ↔
      Exists fun inside => Exists fun further => renewed = (name, inside) :: further ∧
        Reordered value inside ∧ List.Forall₂ FieldReordered rest further := by
  rw [List.forall₂_cons_left_iff]
  constructor
  · rintro ⟨_, further, ⟨_, reordered⟩, later, rfl⟩
    exact ⟨_, further, rfl, reordered, later⟩
  · rintro ⟨inside, further, rfl, reordered, later⟩
    exact ⟨(name, inside), further, .mk name reordered, later, rfl⟩

theorem forall₂_imp_of_mem {Item Other : Type} {related law : Item -> Other -> Prop}
    {items : List Item} {others : List Other} (each : List.Forall₂ related items others)
    (implies : forall item, item ∈ items -> forall other, related item other -> law item other) :
    List.Forall₂ law items others := by
  apply ((List.forall₂_and_left _ _).mpr ⟨implies, each⟩).imp
  intro item other both
  exact both.1 other both.2

theorem forall_mem_of_forall₂ {Item Other : Type} {law : Other -> Prop} {items : List Item}
    {others : List Other} (each : List.Forall₂ (fun _ other => law other) items others) :
    forall other, other ∈ others -> law other := by
  induction each with
  | nil => exact List.forall_mem_nil _
  | cons first _ inductionHypothesis =>
      exact List.forall_mem_cons.mpr ⟨first, inductionHypothesis⟩

theorem nestingOfElements_of_forall₂ {elements others : List Value}
    (each : List.Forall₂ (fun element other => other.nesting = element.nesting) elements others) :
    nestingOfElements others = nestingOfElements elements := by
  induction each with
  | nil => rfl
  | cons first _ inductionHypothesis =>
      rw [nestingOfElements, nestingOfElements, first, inductionHypothesis]

theorem nestingOfFields_of_forall₂ {fields others : List (String × Value)}
    (each : List.Forall₂ (fun field other => other.2.nesting = field.2.nesting) fields others) :
    nestingOfFields others = nestingOfFields fields := by
  induction each with
  | nil => rfl
  | cons first _ inductionHypothesis =>
      rw [nestingOfFields, nestingOfFields, first, inductionHypothesis]

theorem nestingOfFields_of_perm {fields others : List (String × Value)}
    (order : fields.Perm others) : nestingOfFields others = nestingOfFields fields := by
  induction order with
  | nil => rfl
  | cons field _ inductionHypothesis =>
      obtain ⟨name, value⟩ := field
      rw [nestingOfFields, nestingOfFields, inductionHypothesis]
  | swap first second rest =>
      obtain ⟨firstName, firstValue⟩ := first
      obtain ⟨secondName, secondValue⟩ := second
      simp only [nestingOfFields]
      exact max_left_comm _ _ _
  | trans _ _ firstHypothesis secondHypothesis =>
      rw [secondHypothesis, firstHypothesis]

/-- Reordering keeps the nesting. -/
theorem Reordered.nesting_eq {value other : Value} (reordered : Reordered value other) :
    other.nesting = value.nesting := by
  induction value using member_induction generalizing other with
  | flat value flat =>
      cases reordered with
      | same => rfl
      | list each =>
          rw [nesting] at flat
          omega
      | object each order =>
          rw [nesting] at flat
          omega
  | list elements inductionHypothesis =>
      rcases (reordered_list_iff elements other).mp reordered with ⟨others, rfl, each⟩
      have alike := forall₂_imp_of_mem each
        (fun element listed renewed => inductionHypothesis element listed)
      rw [nesting, nesting, nestingOfElements_of_forall₂ alike]
  | object fields inductionHypothesis =>
      rcases (reordered_object_iff fields other).mp reordered with ⟨renewed, others, rfl, each, order⟩
      have alike : List.Forall₂ (fun field other => other.2.nesting = field.2.nesting)
          fields renewed := by
        apply forall₂_imp_of_mem each
        rintro field listed _ ⟨name, inside⟩
        exact inductionHypothesis _ listed inside
      rw [nesting, nesting, nestingOfFields_of_perm order, nestingOfFields_of_forall₂ alike]

/-- Reordering keeps a value exact. -/
theorem Reordered.exact {value other : Value} (reordered : Reordered value other)
    (exact : value.Exact) : other.Exact := by
  induction exact generalizing other with
  | null =>
      cases reordered
      exact .null
  | boolean value =>
      cases reordered
      exact .boolean value
  | integer fits =>
      cases reordered
      exact .integer fits
  | text value =>
      cases reordered
      exact .text value
  | @list elements _ inductionHypothesis =>
      rcases (reordered_list_iff elements other).mp reordered with ⟨others, rfl, each⟩
      have alike := forall₂_imp_of_mem each
        (fun element listed renewed => inductionHypothesis element listed)
      exact .list (forall_mem_of_forall₂ alike)
  | @object fields _ inductionHypothesis =>
      rcases (reordered_object_iff fields other).mp reordered with ⟨renewed, others, rfl, each, order⟩
      have alike : List.Forall₂ (fun _ other => other.2.Exact) fields renewed := by
        apply forall₂_imp_of_mem each
        rintro field listed _ ⟨name, inside⟩
        exact inductionHypothesis _ listed inside
      refine .object fun field listed => forall_mem_of_forall₂ alike field ?_
      exact order.mem_iff.mpr listed

end Value
end Json
end Guidebook
