import Guidebook.Proofs.Plan.Decompilation
import Guidebook.Proofs.Plan.FirstViolation

namespace Guidebook

/-!
# Raising the limit

The limit is read in one place, where the level of a section is compared with
it, and nowhere in the judgement of a group.  So two runs under different limits
agree step for step until the smaller limit refuses a section, and a run that
ends in anything but this refusal is the run under every larger limit.

Conversely, a forest that compiles under some limit has no flaw but the levels
that a smaller limit does not admit.  What is reported under a smaller limit is
then the first section one level beyond it, and such a section exists as soon as
the limit is below the depth of the forest.
-/

/-- An outcome other than the refusal of a section for its level. -/
def Settled {Result : Type} (limit : Nat) (outcome : Except Violation Result) : Prop :=
  forall name position, outcome ≠ .error (.malformed name position (.tooDeep limit))

theorem settled_ok {Result : Type} (limit : Nat) (result : Result) :
    Settled limit (.ok result : Except Violation Result) := by
  intro name position impossible
  cases impossible

/-- A violation is settled as the outcome of a group when it is so as that of a member. -/
theorem Settled.error {Result Other : Type} {limit : Nat} {violation : Violation}
    (settled : Settled limit (.error violation : Except Violation Result)) :
    Settled limit (.error violation : Except Violation Other) := by
  intro name position same
  cases same
  exact settled name position rfl

/-! ## Two limits -/

/-- Members settled under one limit compile alike under a larger one, when each
member that is settled does. -/
theorem Forest.compileFrom_of_le {limit larger level : Nat} {position : Position}
    {group : Forest}
    (each : forall member, member ∈ group -> forall place,
      Settled limit (member.compile limit (position.child place) level) ->
        member.compile larger (position.child place) level =
          member.compile limit (position.child place) level)
    (place : Nat) (settled : Settled limit (compileFrom limit position level place group)) :
    compileFrom larger position level place group =
      compileFrom limit position level place group := by
  induction group generalizing place with
  | nil => rfl
  | cons first rest inductionHypothesis =>
      have eachLater : forall member, member ∈ rest -> forall place,
          Settled limit (member.compile limit (position.child place) level) ->
            member.compile larger (position.child place) level =
              member.compile limit (position.child place) level :=
        fun member listed => each member (List.mem_cons_of_mem first listed)
      have firstAlike := each first List.mem_cons_self place
      rw [compileFrom] at settled
      rw [compileFrom, compileFrom]
      cases head : first.compile limit (position.child place) level with
      | error violation =>
          rw [head] at settled firstAlike
          rw [firstAlike settled.error]
      | ok step =>
          rw [head] at settled firstAlike
          rw [firstAlike (settled_ok limit step)]
          have restSettled : Settled limit (compileFrom limit position level (place + 1) rest) := by
            intro name tooDeep refused
            apply settled name tooDeep
            simp only [refused]
          rw [inductionHypothesis eachLater (place + 1) restSettled]

theorem Forest.compileGroup_of_le {limit larger level : Nat} {position : Position}
    {group : Forest}
    (each : forall member, member ∈ group -> forall place,
      Settled limit (member.compile limit (position.child place) level) ->
        member.compile larger (position.child place) level =
          member.compile limit (position.child place) level)
    (title : String) (settled : Settled limit (compileGroup limit title position level group)) :
    compileGroup larger title position level group =
      compileGroup limit title position level group := by
  rw [compileGroup] at settled
  rw [compileGroup, compileGroup]
  cases judged : shape title position group with
  | error violation => rfl
  | ok passed =>
      rw [judged] at settled
      have membersSettled : Settled limit (compileFrom limit position level 0 group) := by
        intro name tooDeep refused
        apply settled name tooDeep
        simp only [refused]
      simp only [compileFrom_of_le each 0 membersSettled]

theorem Section.compile_of_le {limit larger : Nat} (raised : limit ≤ larger)
    (position : Position) (level : Nat) (subject : Section)
    (settled : Settled limit (subject.compile limit position level)) :
    subject.compile larger position level = subject.compile limit position level := by
  induction subject using Section.member_induction generalizing position level with
  | above name members inductionHypothesis =>
      by_cases within : level ≤ limit
      · by_cases empty : members = []
        · subst members
          rw [compile_command position name within,
            compile_command position name (Nat.le_trans within raised)]
        · rw [Forest.compile_mk_of_le limit position level name members within empty] at settled ⊢
          rw [Forest.compile_mk_of_le larger position level name members
            (Nat.le_trans within raised) empty]
          apply Forest.compileGroup_of_le _ name settled
          intro member listed place memberSettled
          exact inductionHypothesis member listed (position.child place) (level + 1) memberSettled
      · have refused := compile_of_lt position ⟨name, members⟩ (Nat.lt_of_not_le within)
        exact False.elim (settled name position refused)

namespace Forest

theorem compile_of_le {limit larger : Nat} (raised : limit ≤ larger) (title : String)
    (forest : Forest) (settled : Settled limit (compile limit title forest)) :
    compile larger title forest = compile limit title forest := by
  rcases plain_root_or_wrapped forest with ⟨single, rfl, plain⟩ | wrapped
  · rw [compile_of_plain_root limit title plain] at settled ⊢
    rw [compile_of_plain_root larger title plain]
    exact Section.compile_of_le raised _ _ single settled
  · rw [compile_of_no_plain_root limit title forest wrapped] at settled ⊢
    rw [compile_of_no_plain_root larger title forest wrapped]
    apply compileGroup_of_le _ title settled
    intro member _ place memberSettled
    exact Section.compile_of_le raised _ _ member memberSettled

/-! ## Below the depth -/

/-- The section at a position, the roots being at the positions of one index. -/
def at? (forest : Forest) : (path : List Nat) -> Option Section
  | [] => none
  | index :: rest => forest[index]?.bind (Section.at? rest)

/-- The first section in document order of those at a level, with its position. -/
structure FirstAtLevel (forest : Forest) (level : Nat) (position : Position)
    (subject : Section) : Prop where
  stands : forest.at? position.indices = some subject
  atLevel : position.indices.length = level
  first : forall other sibling, forest.at? other.indices = some sibling ->
    other.indices.length = level -> (compare position other).isLE = true

/-- Below the forest its positions are those of the section that it is compiled
as a group under. -/
theorem at?_mk_of_ne_nil (title : String) (forest : Forest) {path : List Nat}
    (below : path ≠ []) : (Section.mk title forest).at? path = forest.at? path := by
  cases path with
  | nil => exact False.elim (below rfl)
  | cons index rest => rw [Section.at?, at?, Section.members_mk]

/-- A forest that compiles has no flaw. -/
theorem not_flawAt_of_compile {limit : Nat} {title : String} {forest : Forest} {step : Step}
    (compiled : compile limit title forest = .ok step) (path : List Nat)
    (violation : Violation) :
    ¬ (Section.mk title forest).FlawAt limit .root path violation := by
  have nonempty := ((compile_eq_ok_iff ..).mp compiled).1
  rcases (exists_compile_iff_group limit title forest).mp ⟨step, compiled⟩ with ⟨group, asGroup⟩
  rw [compileGroup_eq_compile_mk limit title nonempty] at asGroup
  have reports := Section.reports_compile limit .root ⟨title, forest⟩ (Nat.zero_le (limit + 1))
  rw [show Position.root.indices.length = 0 from rfl, asGroup] at reports
  exact reports path violation

/-- What is reported of a forest that compiles under some limit is the level of a
section. -/
theorem firstAtLevel_of_compile {working limit : Nat} {title : String} {forest : Forest}
    {step : Step} {violation : Violation}
    (compiled : compile working title forest = .ok step) (below : limit ≤ working)
    (failed : compile limit title forest = .error violation) :
    Exists fun position => Exists fun subject =>
      forest.FirstAtLevel (limit + 1) position subject ∧
        violation = .malformed subject.name position (.tooDeep limit) := by
  have nonempty := ((compile_eq_ok_iff ..).mp compiled).1
  rw [compile_eq_error_iff_group, compileGroup_eq_compile_mk limit title nonempty] at failed
  rcases (Section.compile_eq_error_iff limit .root ⟨title, forest⟩
    (Nat.zero_le (limit + 1)) violation).mp failed with ⟨path, ⟨subject, stands, flaw⟩, least⟩
  rw [show (⟨Position.root.indices ++ path⟩ : Position) = ⟨path⟩ from rfl] at flaw
  cases flaw with
  | disorder within disorder =>
      have remains : (Section.mk title forest).FlawAt working .root path violation :=
        ⟨subject, stands, .disorder (Nat.le_trans within below) disorder⟩
      exact False.elim (not_flawAt_of_compile compiled path violation remains)
  | tooDeep beyond =>
      have pathBelow : path ≠ [] := by
        intro empty
        rw [empty] at beyond
        cases beyond
      rw [at?_mk_of_ne_nil title forest pathBelow] at stands
      refine ⟨⟨path⟩, subject, ⟨stands, beyond, ?_⟩, rfl⟩
      intro other sibling siblingStands atLevel
      have otherBelow : other.indices ≠ [] := by
        intro empty
        rw [empty] at atLevel
        cases atLevel
      rw [← at?_mk_of_ne_nil title forest otherBelow] at siblingStands
      rw [Position.compare_eq]
      exact least other.indices _ ⟨sibling, siblingStands, .tooDeep atLevel⟩

/-- An outcome other than the refusal of a level is the outcome under every larger
limit.  And a forest that compiles under some limit is refused under every limit
below its depth, for the first section one level beyond that limit. -/
theorem compile_under_limits (title : String) (forest : Forest) :
    (forall limit larger, limit ≤ larger -> Settled limit (compile limit title forest) ->
      compile larger title forest = compile limit title forest) ∧
      forall working step, compile working title forest = .ok step ->
        forall limit, limit < forest.depth ->
          Exists fun position => Exists fun subject =>
            forest.FirstAtLevel (limit + 1) position subject ∧
              compile limit title forest =
                .error (.malformed subject.name position (.tooDeep limit)) := by
  constructor
  · intro limit larger raised settled
    exact compile_of_le raised title forest settled
  · intro working step compiled limit below
    have enough : forest.depth ≤ working :=
      (depth_le_iff forest working).mpr ((compile_eq_ok_iff ..).mp compiled).2.2.2
    cases outcome : compile limit title forest with
    | ok other =>
        have shallow := (depth_le_iff forest limit).mpr ((compile_eq_ok_iff ..).mp outcome).2.2.2
        omega
    | error violation =>
        rcases firstAtLevel_of_compile compiled (by omega) outcome with
          ⟨position, subject, first, same⟩
        exact ⟨position, subject, first, congrArg Except.error same⟩

/-- A repeated index is reported under every limit from the third level on, and
nested options that compile from the fourth level on are refused under three. -/
theorem compile_under_limits_nestedOptions :
    (compile 3 "doc" manyFlaws = .error (.duplicateIndex "Option 1: b" ⟨[1, 1]⟩ 1) ∧
        compile 64 "doc" manyFlaws = compile 3 "doc" manyFlaws) ∧
      compile 64 "doc" nestedOptions = .ok nestedOptionsPlan ∧
      Exists fun position => Exists fun subject =>
        nestedOptions.FirstAtLevel 4 position subject ∧
          compile 3 "doc" nestedOptions =
            .error (.malformed subject.name position (.tooDeep 3)) := by
  have repeated : compile 3 "doc" manyFlaws =
      .error (.duplicateIndex "Option 1: b" ⟨[1, 1]⟩ 1) := rfl
  have settled : Settled 3 (compile 3 "doc" manyFlaws) := by
    intro name position refused
    rw [repeated] at refused
    cases refused
  have compiled : compile 64 "doc" nestedOptions = .ok nestedOptionsPlan := rfl
  exact ⟨⟨repeated, (compile_under_limits "doc" manyFlaws).1 3 64 (by decide) settled⟩, compiled,
    (compile_under_limits "doc" nestedOptions).2 64 nestedOptionsPlan compiled 3 (by decide)⟩

end Forest
end Guidebook
