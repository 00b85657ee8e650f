import Guidebook.Section.Basic

namespace Guidebook

/-!
# Members and sibling groups

A section is reached through its members, and so are the facts about it.  The
induction principle here replaces the pair of motives that the nested data type
comes with: a fact holds of a section when it holds of the section above members
that have it.  What a list of members has is then ordinary induction on a list.

A sibling group is the list of roots, or the member list of a section that has
members, at any level.  The relation follows the way from the forest down, as
compilation does.
-/

/-- A fact that passes from the members to the section above them holds of
every section. -/
theorem Section.member_induction {motive : Section -> Prop}
    (above : forall name members,
      (forall member, member ∈ members -> motive member) -> motive ⟨name, members⟩)
    (subject : Section) : motive subject := by
  apply Section.rec (motive_1 := motive)
    (motive_2 := fun members => forall member, member ∈ members -> motive member)
  · exact above
  · intro member impossible
    cases impossible
  · intro first rest firstHolds restHold member listed
    rcases List.mem_cons.mp listed with same | later
    · exact same ▸ firstHolds
    · exact restHold member later

/-! ## Depth -/

/-- The depth of a forest is the least bound on the depths of its roots. -/
theorem Forest.depth_le_iff (forest : Forest) (bound : Nat) :
    forest.depth ≤ bound ↔ forall root, root ∈ forest -> root.depth ≤ bound := by
  induction forest with
  | nil => simp [Forest.depth]
  | cons first rest inductionHypothesis =>
      rw [Forest.depth, Nat.max_le, inductionHypothesis, List.forall_mem_cons]

/-- A section with a level to spare is one whose members have it one level
further down. -/
theorem Section.depth_mk_le_iff (name : String) (members : Forest) (level bound : Nat) :
    level + (Section.mk name members).depth ≤ bound + 1 ↔
      level ≤ bound ∧ forall member, member ∈ members -> level + 1 + member.depth ≤ bound + 1 := by
  have members_le := Forest.depth_le_iff members (bound - level)
  rw [Section.depth]
  constructor
  · intro within
    refine ⟨by omega, fun member listed => ?_⟩
    have bounded := members_le.mp (by omega) member listed
    omega
  · rintro ⟨within, below⟩
    have bounded := members_le.mpr (fun member listed => by
      have spared := below member listed
      omega)
    omega

/-! ## Sibling groups -/

/-- The sibling groups of a forest: its roots, and the groups below each root
that has members. -/
inductive Forest.HasGroup : Forest -> Forest -> Prop
  | roots (forest : Forest) : HasGroup forest forest
  | under {forest group : Forest} {parent : Section} (listed : parent ∈ forest)
      (nonempty : parent.members ≠ []) (inside : HasGroup parent.members group) :
      HasGroup forest group

/-- A law of all groups is one of the roots together with all groups further
down. -/
theorem Forest.forall_hasGroup_iff (forest : Forest) (law : Forest -> Prop) :
    (forall group, forest.HasGroup group -> law group) ↔
      law forest ∧ forall parent, parent ∈ forest -> parent.members ≠ [] ->
        forall group, parent.members.HasGroup group -> law group := by
  constructor
  · intro all
    exact ⟨all forest (.roots forest),
      fun parent listed nonempty group inside => all group (.under listed nonempty inside)⟩
  · rintro ⟨roots, further⟩ group found
    cases found with
    | roots => exact roots
    | under listed nonempty inside => exact further _ listed nonempty group inside

end Guidebook
