import Guidebook.Proofs.Plan.Descent
import Guidebook.Proofs.Section.Members
import Guidebook.Proofs.Section.Position

namespace Guidebook

/-!
# The first violation

Several things can be wrong with a forest at once.  Each of them is a flaw that
belongs to one section, or to the forest as a whole: the section lies one level
beyond the limit, or it is within the limit and the group of its members is in
disorder.  A flaw is keyed by the position of that section, which is not always
the position that the violation names.  Compilation reports the flaw whose key
comes first in document order, and fails only where there is one.

The flaws are those of the whole tree, found along paths and in no order.  The
descent meets them in the order of their keys because a group is judged before
its members are compiled, the members are compiled from left to right, and a
member that compiles has no flaw at all.
-/

namespace Section

/-- What is wrong with a section that stands at a position: its level is the first
one beyond the limit, or its level is within the limit and the group of its
members is in disorder. -/
inductive Flaw (limit : Nat) (position : Position) (subject : Section) : Violation -> Prop
  | tooDeep (beyond : position.indices.length = limit + 1) :
      Flaw limit position subject (.malformed subject.name position (.tooDeep limit))
  | disorder {violation : Violation} (within : position.indices.length ≤ limit)
      (disorder : Forest.Disorder subject.name position subject.members violation) :
      Flaw limit position subject violation

/-- A flaw at the end of a path from a section that stands at a position. -/
def FlawAt (limit : Nat) (position : Position) (subject : Section) (path : List Nat)
    (violation : Violation) : Prop :=
  Exists fun inner => subject.at? path = some inner ∧
    inner.Flaw limit ⟨position.indices ++ path⟩ violation

/-- The flaw whose path comes before the paths of all other flaws. -/
def FirstFlaw (limit : Nat) (position : Position) (subject : Section)
    (violation : Violation) : Prop :=
  Exists fun path => subject.FlawAt limit position path violation ∧
    forall other otherViolation, subject.FlawAt limit position other otherViolation ->
      (compare path other).isLE = true

/-! ## A section has at most one flaw of its own -/

/-- Two flaws of one section at one position are the same. -/
theorem Flaw.unique {limit : Nat} {position : Position} {subject : Section}
    {left right : Violation} (first : subject.Flaw limit position left)
    (second : subject.Flaw limit position right) : left = right := by
  cases first with
  | tooDeep beyond =>
      cases second with
      | tooDeep _ => rfl
      | disorder within _ => omega
  | disorder within leftDisorder =>
      cases second with
      | tooDeep beyond => omega
      | disorder _ rightDisorder =>
          have refused := Forest.shape_of_disorder leftDisorder
          rw [Forest.shape_of_disorder rightDisorder] at refused
          cases refused
          rfl

theorem FirstFlaw.unique {limit : Nat} {position : Position} {subject : Section}
    {left right : Violation} (first : subject.FirstFlaw limit position left)
    (second : subject.FirstFlaw limit position right) : left = right := by
  rcases first with ⟨leftPath, leftFlaw, leftFirst⟩
  rcases second with ⟨rightPath, rightFlaw, rightFirst⟩
  have samePath : leftPath = rightPath :=
    Position.path_antisymm (leftFirst _ _ rightFlaw) (rightFirst _ _ leftFlaw)
  subst samePath
  rcases leftFlaw with ⟨leftInner, leftFound, leftFlaw⟩
  rcases rightFlaw with ⟨rightInner, rightFound, rightFlaw⟩
  cases leftFound.symm.trans rightFound
  exact leftFlaw.unique rightFlaw

/-- Where two sections have flaws at the same paths, the first flaw of one is
answered by the first flaw of the other. -/
theorem FirstFlaw.transfer {limit otherLimit : Nat} {position otherPosition : Position}
    {subject other : Section} {answers : Violation -> Violation -> Prop}
    (forth : forall path violation, subject.FlawAt limit position path violation ->
      Exists fun answer => other.FlawAt otherLimit otherPosition path answer ∧
        answers violation answer)
    (back : forall path answer, other.FlawAt otherLimit otherPosition path answer ->
      Exists fun violation => subject.FlawAt limit position path violation)
    {violation : Violation} (first : subject.FirstFlaw limit position violation) :
    Exists fun answer => other.FirstFlaw otherLimit otherPosition answer ∧
      answers violation answer := by
  rcases first with ⟨path, flaw, least⟩
  rcases forth path violation flaw with ⟨answer, answered, related⟩
  refine ⟨answer, ⟨path, answered, ?_⟩, related⟩
  intro later laterAnswer laterAnswered
  rcases back later laterAnswer laterAnswered with ⟨laterViolation, laterFlaw⟩
  exact least later laterViolation laterFlaw

/-! ## Flaws along a path -/

theorem flawAt_nil_iff (limit : Nat) (position : Position) (subject : Section)
    (violation : Violation) :
    subject.FlawAt limit position [] violation ↔ subject.Flaw limit position violation := by
  simp only [FlawAt, at?_nil, Option.some.injEq, exists_eq_left', List.append_nil]

/-- A flaw further down is a flaw of a member, which stands at a position of its own. -/
theorem flawAt_cons_iff (limit : Nat) (position : Position) (subject : Section)
    (index : Nat) (rest : List Nat) (violation : Violation) :
    subject.FlawAt limit position (index :: rest) violation ↔
      Exists fun member => subject.members[index]? = some member ∧
        member.FlawAt limit (position.child index) rest violation := by
  have same : (⟨position.indices ++ index :: rest⟩ : Position) =
      ⟨(position.child index).indices ++ rest⟩ := by
    rw [Position.indices_child, List.append_assoc, List.singleton_append]
  simp only [FlawAt, at?_cons_eq_some_iff, same]
  constructor
  · rintro ⟨inner, ⟨member, listed, found⟩, flaw⟩
    exact ⟨member, listed, inner, found, flaw⟩
  · rintro ⟨member, listed, inner, found, flaw⟩
    exact ⟨inner, ⟨member, listed, found⟩, flaw⟩

/-- A flaw of the section itself comes before all flaws below it. -/
theorem Flaw.firstFlaw {limit : Nat} {position : Position} {subject : Section}
    {violation : Violation} (flaw : subject.Flaw limit position violation) :
    subject.FirstFlaw limit position violation :=
  ⟨[], (flawAt_nil_iff ..).mpr flaw, fun _ _ _ => List.isLE_compare_nil_left⟩

/-- The first flaw of the first member that has one is the first flaw of a section
that has none itself. -/
theorem FirstFlaw.of_member {limit : Nat} {position : Position} {subject : Section}
    {index : Nat} {member : Section} {violation : Violation}
    (sound : forall other, ¬ subject.Flaw limit position other)
    (earlier : forall place sibling, place < index -> subject.members[place]? = some sibling ->
      forall path other, ¬ sibling.FlawAt limit (position.child place) path other)
    (listed : subject.members[index]? = some member)
    (first : member.FirstFlaw limit (position.child index) violation) :
    subject.FirstFlaw limit position violation := by
  rcases first with ⟨path, flaw, least⟩
  refine ⟨index :: path, (flawAt_cons_iff ..).mpr ⟨member, listed, flaw⟩, ?_⟩
  intro other otherViolation otherFlaw
  cases other with
  | nil => exact False.elim (sound otherViolation ((flawAt_nil_iff ..).mp otherFlaw))
  | cons place rest =>
      rcases (flawAt_cons_iff ..).mp otherFlaw with ⟨sibling, siblingListed, siblingFlaw⟩
      rw [Position.isLE_compare_cons_iff]
      rcases Nat.lt_trichotomy index place with before | same | after
      · exact Or.inl before
      · subst same
        cases listed.symm.trans siblingListed
        exact Or.inr ⟨rfl, least rest otherViolation siblingFlaw⟩
      · exact False.elim (earlier place sibling after siblingListed rest otherViolation siblingFlaw)

/-! ## What the descent meets -/

theorem not_flaw_of_shape_ok {limit : Nat} {position : Position} {name : String}
    {members : Forest} {passed : Forest.Shape} (within : position.indices.length ≤ limit)
    (judged : Forest.shape name position members = .ok passed) (violation : Violation) :
    ¬ (Section.mk name members).Flaw limit position violation := by
  intro flaw
  cases flaw with
  | tooDeep beyond => omega
  | disorder _ disorder => cases (Forest.shape_of_disorder disorder).symm.trans judged

theorem not_flawAt_command {limit : Nat} {position : Position} (name : String)
    (within : position.indices.length ≤ limit) (path : List Nat) (violation : Violation) :
    ¬ (Section.mk name []).FlawAt limit position path violation := by
  intro flaw
  cases path with
  | nil =>
      cases (flawAt_nil_iff ..).mp flaw with
      | tooDeep beyond => omega
      | disorder _ disorder =>
          have refused := Forest.shape_of_disorder disorder
          rw [members_mk, Forest.shape_nil] at refused
          cases refused
          cases disorder
  | cons index rest =>
      rcases (flawAt_cons_iff ..).mp flaw with ⟨member, listed, _⟩
      cases listed

theorem level_child (position : Position) (index : Nat) :
    (position.child index).indices.length = position.indices.length + 1 := by
  rw [Position.indices_child, List.length_append, List.length_singleton]

/-- What an outcome of compilation says about the flaws of a section: a violation
is that of the first one, and a step means that there is none. -/
def Reports (limit : Nat) (position : Position) (subject : Section) :
    Except Violation Step -> Prop
  | .error violation => subject.FirstFlaw limit position violation
  | .ok _ => forall path violation, ¬ subject.FlawAt limit position path violation

/-- Members that compile together have no flaws, when each of them reports its
own. -/
theorem not_flawAt_of_compileFrom {limit level : Nat} {position : Position} {group : Forest}
    {steps : List Step}
    (reports : forall index (member : Section), group[index]? = some member ->
      member.Reports limit (position.child index)
        (member.compile limit (position.child index) level))
    (compiled : Forest.compileFrom limit position level 0 group = .ok steps) {index : Nat}
    {member : Section} (listed : group[index]? = some member) (path : List Nat)
    (violation : Violation) : ¬ member.FlawAt limit (position.child index) path violation := by
  rcases Forest.exists_compile_of_compileFrom 0 compiled listed with ⟨step, memberCompiled⟩
  rw [Nat.zero_add] at memberCompiled
  have reported := reports index member listed
  rw [memberCompiled] at reported
  exact reported path violation

/-- Members that fail together report the first flaw of a section above them that
has none itself, when each of them reports its own. -/
theorem firstFlaw_of_compileFrom {limit level : Nat} {position : Position} {name : String}
    {members : Forest} {violation : Violation}
    (sound : forall other, ¬ (Section.mk name members).Flaw limit position other)
    (reports : forall index (member : Section), members[index]? = some member ->
      member.Reports limit (position.child index)
        (member.compile limit (position.child index) level))
    (failed : Forest.compileFrom limit position level 0 members = .error violation) :
    (Section.mk name members).FirstFlaw limit position violation := by
  rcases Forest.exists_of_compileFrom_eq_error 0 failed with
    ⟨before, member, after, split, ⟨steps, compiled⟩, memberFailed⟩
  subst split
  rw [Nat.zero_add] at memberFailed
  have listed : (before ++ member :: after)[before.length]? = some member := by
    rw [List.getElem?_append_right (Nat.le_refl _), Nat.sub_self]
    rfl
  have reported := reports before.length member listed
  rw [memberFailed] at reported
  have siblingsReport : forall index (sibling : Section), before[index]? = some sibling ->
      sibling.Reports limit (position.child index)
        (sibling.compile limit (position.child index) level) := by
    intro index sibling siblingListed
    have earlier := (List.getElem?_eq_some_iff.mp siblingListed).1
    apply reports index sibling
    rw [List.getElem?_append_left earlier, siblingListed]
  refine FirstFlaw.of_member sound ?_ listed reported
  intro place sibling earlier siblingListed
  rw [members_mk, List.getElem?_append_left earlier] at siblingListed
  exact not_flawAt_of_compileFrom siblingsReport compiled siblingListed

/-- A group reports the first flaw of the section above it, when its members
report their own. -/
theorem reports_compileGroup {limit level : Nat} {position : Position} {name : String}
    {members : Forest} (within : position.indices.length ≤ limit) (nonempty : members ≠ [])
    (reports : forall index (member : Section), members[index]? = some member ->
      member.Reports limit (position.child index)
        (member.compile limit (position.child index) level)) :
    (Section.mk name members).Reports limit position
      (Forest.compileGroup limit name position level members) := by
  cases outcome : Forest.compileGroup limit name position level members with
  | error violation =>
      rcases (Forest.compileGroup_eq_error_iff ..).mp outcome with
        refused | ⟨⟨passed, judged⟩, failed⟩
      · have disorder := (Forest.shape_eq_error_iff name position nonempty violation).mp refused
        have flaw : (Section.mk name members).Flaw limit position violation :=
          .disorder within disorder
        exact flaw.firstFlaw
      · exact firstFlaw_of_compileFrom (not_flaw_of_shape_ok within judged) reports failed
  | ok step =>
      rcases (Forest.compileGroup_eq_ok_iff ..).mp outcome with
        ⟨passed, steps, judged, compiled, _⟩
      intro path violation flaw
      cases path with
      | nil => exact not_flaw_of_shape_ok within judged violation ((flawAt_nil_iff ..).mp flaw)
      | cons index rest =>
          rcases (flawAt_cons_iff ..).mp flaw with ⟨member, listed, memberFlaw⟩
          exact not_flawAt_of_compileFrom reports compiled listed rest violation memberFlaw

/-- Compilation of a section no further down than the first level beyond the limit
reports its first flaw. -/
theorem reports_compile (limit : Nat) (position : Position) (subject : Section)
    (reached : position.indices.length ≤ limit + 1) :
    subject.Reports limit position
      (subject.compile limit position position.indices.length) := by
  induction subject using Section.member_induction generalizing position with
  | above name members inductionHypothesis =>
      by_cases within : position.indices.length ≤ limit
      · by_cases empty : members = []
        · subst members
          rw [compile_command position name within]
          exact not_flawAt_command name within
        · rw [Forest.compile_mk_of_le limit position _ name members within empty]
          apply reports_compileGroup within empty
          intro index member listed
          -- The invariant: the level of a section is the length of its position.
          rw [← level_child position index]
          exact inductionHypothesis member (List.mem_of_getElem? listed) (position.child index)
            (by rw [level_child]; omega)
      · have beyond : position.indices.length = limit + 1 := by omega
        rw [compile_of_lt position _ (Nat.lt_of_not_le within)]
        exact (Flaw.tooDeep beyond).firstFlaw

/-- Compilation reports a violation exactly when it is that of the first flaw. -/
theorem compile_eq_error_iff (limit : Nat) (position : Position) (subject : Section)
    (reached : position.indices.length ≤ limit + 1) (violation : Violation) :
    subject.compile limit position position.indices.length = .error violation ↔
      subject.FirstFlaw limit position violation := by
  have reports := reports_compile limit position subject reached
  cases outcome : subject.compile limit position position.indices.length with
  | error reported =>
      rw [outcome] at reports
      constructor
      · intro same
        cases same
        exact reports
      · intro first
        rw [reports.unique first]
  | ok step =>
      rw [outcome] at reports
      constructor
      · intro impossible
        cases impossible
      · rintro ⟨path, flaw, _⟩
        exact False.elim (reports path violation flaw)

end Section

namespace Forest

/-- A flaw of a forest, keyed by a position: the flaw of the section that stands
there, the forest itself being the members of a section of the given title. -/
def HasFlaw (limit : Nat) (title : String) (forest : Forest) (key : Position)
    (violation : Violation) : Prop :=
  Exists fun subject => (Section.mk title forest).at? key.indices = some subject ∧
    subject.Flaw limit key violation

/-- A forest with roots fails with the violation of the first flaw of the section that
it is compiled under. -/
theorem compile_eq_error_iff_firstFlaw (limit : Nat) (title : String) {forest : Forest}
    (nonempty : forest ≠ []) (violation : Violation) :
    compile limit title forest = .error violation ↔
      Section.FirstFlaw limit .root ⟨title, forest⟩ violation := by
  rw [compile_eq_error_iff_group, compileGroup_eq_compile_mk limit title nonempty]
  exact Section.compile_eq_error_iff limit .root ⟨title, forest⟩ (Nat.zero_le (limit + 1)) violation

/-- A forest with roots fails exactly with the violation of the flaw that comes
first in document order. -/
theorem compile_eq_error_iff_first (limit : Nat) (title : String) (forest : Forest)
    (nonempty : forest ≠ []) (violation : Violation) :
    compile limit title forest = .error violation ↔
      Exists fun key => forest.HasFlaw limit title key violation ∧
        forall other otherViolation, forest.HasFlaw limit title other otherViolation ->
          (compare key other).isLE = true := by
  rw [compile_eq_error_iff_group, compileGroup_eq_compile_mk limit title nonempty]
  have reported := Section.compile_eq_error_iff limit .root ⟨title, forest⟩
    (Nat.zero_le (limit + 1)) violation
  rw [show (0 : Nat) = Position.root.indices.length from rfl, reported]
  constructor
  · rintro ⟨path, flaw, least⟩
    refine ⟨⟨path⟩, flaw, fun other otherViolation otherFlaw => ?_⟩
    rw [Position.compare_eq]
    exact least other.indices otherViolation otherFlaw
  · rintro ⟨key, flaw, least⟩
    refine ⟨key.indices, flaw, fun other otherViolation otherFlaw => ?_⟩
    have before := least ⟨other⟩ otherViolation otherFlaw
    rw [Position.compare_eq] at before
    exact before

/-- With a limit of two levels: an index repeated under the second root, members
of two kinds under the third one, and a command one level too deep under the first
option. -/
def manyFlaws : Forest :=
  [.command "echo",
    ⟨"Twice", [⟨"Option 1: a", [.command "echo"]⟩, ⟨"Option 1: b", [.command "echo"]⟩]⟩,
    ⟨"Mixed", [.command "echo", ⟨"Option 2: c", [.command "echo"]⟩]⟩]

theorem compile_eq_error_iff_first_manyFlaws :
    manyFlaws ≠ [] ∧
      manyFlaws.HasFlaw 2 "doc" ⟨[2]⟩ (.mixedSiblings "Mixed" ⟨[2]⟩ "Option 2: c" 1 1) ∧
      manyFlaws.HasFlaw 2 "doc" ⟨[1, 0, 0]⟩ (.malformed "echo" ⟨[1, 0, 0]⟩ (.tooDeep 2)) ∧
      Exists fun key => manyFlaws.HasFlaw 2 "doc" key (.duplicateIndex "Option 1: b" ⟨[1, 1]⟩ 1) ∧
        forall other otherViolation, manyFlaws.HasFlaw 2 "doc" other otherViolation ->
          (compare key other).isLE = true := by
  have nonempty : manyFlaws ≠ [] := List.cons_ne_nil _ _
  refine ⟨nonempty, ⟨_, rfl, .disorder (by decide) ?_⟩, ⟨_, rfl, .tooDeep rfl⟩,
    (compile_eq_error_iff_first 2 "doc" manyFlaws nonempty _).mp rfl⟩
  have split : [Section.command "echo", ⟨"Option 2: c", [.command "echo"]⟩] =
      .command "echo" :: ([] ++ ⟨"Option 2: c", [.command "echo"]⟩ :: []) := rfl
  exact .mixed split (List.forall_mem_nil _) (by decide)

end Forest
end Guidebook
