import Guidebook.Proofs.Plan.Descent
import Guidebook.Proofs.Section.Members

namespace Guidebook

/-!
# The domain of compilation

Which forests have a plan.  Compilation decides it on the way down, group by
group and level by level, and stops at the first thing it does not like.  The
law has no order: the levels are within the limit, and every sibling group,
wherever it stands, is of one kind and repeats no index.
-/

namespace Forest

/-- A group of one kind that, as a group of options, repeats no index. -/
def InOrder (group : Forest) : Prop :=
  (group.AllOptions ∨ group.NoOptions) ∧ (group.AllOptions -> group.indices.Nodup)

end Forest

/-- A section compiles exactly when its levels are within the limit and every
group at or below its members is in order.  A command has no group. -/
theorem Section.exists_compile_iff (limit : Nat) (position : Position) (level : Nat)
    (subject : Section) :
    (Exists fun step => subject.compile limit position level = .ok step) ↔
      level + subject.depth ≤ limit + 1 ∧
        (subject.members ≠ [] -> forall group, subject.members.HasGroup group ->
          group.InOrder) := by
  induction subject using Section.member_induction generalizing position level with
  | above name members inductionHypothesis =>
      rw [Section.depth_mk_le_iff, Section.members_mk]
      by_cases within : level ≤ limit
      · by_cases empty : members = []
        · subst members
          rw [Section.compile_command position name within]
          exact ⟨fun _ => ⟨⟨within, fun member impossible => by cases impossible⟩,
            fun nonempty => False.elim (nonempty rfl)⟩, fun _ => ⟨_, rfl⟩⟩
        · have judged := Forest.exists_shape_iff name position members
          have compiled := Forest.exists_compileFrom_iff
            (fun member listed place =>
              inductionHypothesis member listed (position.child place) (level + 1)) 0
          rw [Forest.compile_mk_of_le limit position level name members within empty,
            Forest.exists_compileGroup_iff, judged, compiled, Forest.forall_hasGroup_iff]
          constructor
          · rintro ⟨⟨_, order⟩, each⟩
            exact ⟨⟨within, fun member listed => (each member listed).1⟩,
              fun _ => ⟨order, fun member listed => (each member listed).2⟩⟩
          · rintro ⟨⟨_, levels⟩, groups⟩
            exact ⟨⟨empty, (groups empty).1⟩, fun member listed =>
              ⟨levels member listed, (groups empty).2 member listed⟩⟩
      · rw [Section.compile_of_lt position _ (Nat.lt_of_not_le within)]
        constructor
        · rintro ⟨step, impossible⟩
          cases impossible
        · rintro ⟨⟨inside, _⟩, _⟩
          exact False.elim (within inside)

/-- A forest compiles exactly when it has roots, no root is deeper than the
limit, every sibling group is all options or has none, and the indices of a group
of options are different. -/
theorem Forest.compiles_iff (limit : Nat) (title : String) (forest : Forest) :
    (Exists fun step => forest.compile limit title = .ok step) ↔
      forest ≠ [] ∧
        (forall root, root ∈ forest -> root.depth ≤ limit) ∧
        (forall group, forest.HasGroup group -> group.AllOptions ∨ group.NoOptions) ∧
        (forall group, forest.HasGroup group -> group.AllOptions -> group.indices.Nodup) := by
  rw [Forest.exists_compile_iff_group]
  by_cases empty : forest = []
  · subst forest
    constructor
    · rintro ⟨step, impossible⟩
      cases impossible
    · rintro ⟨nonempty, _⟩
      exact False.elim (nonempty rfl)
  · rw [Forest.compileGroup_eq_compile_mk limit title empty, Section.exists_compile_iff,
      Section.depth_mk_le_iff, Section.members_mk]
    constructor
    · rintro ⟨⟨_, levels⟩, groups⟩
      exact ⟨empty, fun root listed => by have spared := levels root listed; omega,
        fun group found => (groups empty group found).1,
        fun group found => (groups empty group found).2⟩
    · rintro ⟨_, levels, kinds, indices⟩
      exact ⟨⟨Nat.zero_le limit, fun root listed => by have bounded := levels root listed; omega⟩,
        fun _ group found => ⟨kinds group found, indices group found⟩⟩

end Guidebook
