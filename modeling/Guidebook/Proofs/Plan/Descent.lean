import Guidebook.Proofs.Plan.Judgement
import Mathlib.Data.List.Forall2

namespace Guidebook

/-!
# The descent of compilation

What one call of compilation does, said once: the level is checked, a command
becomes a task, and anything else is a group that is judged and then compiled
from left to right.  A list of members succeeds exactly when each of them does,
and fails at the first one that fails.  Later statements about plans and about
violations are read from these equations and do not open the recursion again.
-/

theorem Section.compile_of_lt {limit level : Nat} (position : Position) (subject : Section)
    (deep : limit < level) :
    subject.compile limit position level =
      .error (.malformed subject.name position (.tooDeep limit)) := by
  cases subject with
  | mk name members =>
      rw [Section.compile, if_pos deep]
      rfl

theorem Section.compile_command {limit level : Nat} (position : Position) (name : String)
    (within : level ≤ limit) :
    Section.compile limit position level ⟨name, []⟩ = .ok (.task name) := by
  rw [Section.compile, if_neg (Nat.not_lt.mpr within)]
  rfl

namespace Forest

/-! ## Groups -/

/-- A group compiles when it passes and all its members compile. -/
theorem compileGroup_eq_ok_iff (limit : Nat) (title : String) (position : Position) (level : Nat)
    (group : Forest) (step : Step) :
    compileGroup limit title position level group = .ok step ↔
      Exists fun passed => Exists fun steps =>
        shape title position group = .ok passed ∧
          compileFrom limit position level 0 group = .ok steps ∧
          passed.assemble title steps = step := by
  rw [compileGroup]
  cases judged : shape title position group with
  | error violation => simp
  | ok passed =>
      cases compiled : compileFrom limit position level 0 group with
      | error violation => simp
      | ok steps => simp

theorem exists_compileGroup_iff (limit : Nat) (title : String) (position : Position) (level : Nat)
    (group : Forest) :
    (Exists fun step => compileGroup limit title position level group = .ok step) ↔
      (Exists fun passed => shape title position group = .ok passed) ∧
        Exists fun steps => compileFrom limit position level 0 group = .ok steps := by
  constructor
  · rintro ⟨step, compiled⟩
    rcases (compileGroup_eq_ok_iff ..).mp compiled with ⟨passed, steps, judged, members, _⟩
    exact ⟨⟨passed, judged⟩, ⟨steps, members⟩⟩
  · rintro ⟨⟨passed, judged⟩, ⟨steps, members⟩⟩
    exact ⟨_, (compileGroup_eq_ok_iff ..).mpr ⟨passed, steps, judged, members, rfl⟩⟩

/-- A group fails when it is refused, or else when a member of it fails. -/
theorem compileGroup_eq_error_iff (limit : Nat) (title : String) (position : Position)
    (level : Nat) (group : Forest) (violation : Violation) :
    compileGroup limit title position level group = .error violation ↔
      shape title position group = .error violation ∨
        (Exists fun passed => shape title position group = .ok passed) ∧
          compileFrom limit position level 0 group = .error violation := by
  rw [compileGroup]
  cases judged : shape title position group with
  | error refused => simp
  | ok passed =>
      cases compiled : compileFrom limit position level 0 group with
      | error failed => simp
      | ok steps => simp

/-! ## Members from left to right -/

theorem compileFrom_cons_eq_ok_iff (limit : Nat) (position : Position) (level place : Nat)
    (first : Section) (rest : Forest) (steps : List Step) :
    compileFrom limit position level place (first :: rest) = .ok steps ↔
      Exists fun step => Exists fun later =>
        first.compile limit (position.child place) level = .ok step ∧
          compileFrom limit position level (place + 1) rest = .ok later ∧
          step :: later = steps := by
  rw [compileFrom]
  cases compiled : first.compile limit (position.child place) level with
  | error violation => simp
  | ok step =>
      cases compiledRest : compileFrom limit position level (place + 1) rest with
      | error violation => simp
      | ok later => simp

/-- The members compile to one step each, in order, where it is known what each
of them compiles to wherever it stands. -/
theorem compileFrom_eq_ok_iff {limit level : Nat} {position : Position} {group : Forest}
    {compilesTo : Section -> Step -> Prop}
    (each : forall member, member ∈ group -> forall place step,
      member.compile limit (position.child place) level = .ok step ↔ compilesTo member step)
    (place : Nat) (steps : List Step) :
    compileFrom limit position level place group = .ok steps ↔
      List.Forall₂ compilesTo group steps := by
  induction group generalizing place steps with
  | nil =>
      rw [List.forall₂_nil_left_iff, compileFrom, Except.ok.injEq]
      exact eq_comm
  | cons first rest inductionHypothesis =>
      have eachLater : forall member, member ∈ rest -> forall place step,
          member.compile limit (position.child place) level = .ok step ↔ compilesTo member step :=
        fun member listed => each member (List.mem_cons_of_mem first listed)
      rw [compileFrom_cons_eq_ok_iff, List.forall₂_cons_left_iff]
      simp only [each first List.mem_cons_self, inductionHypothesis eachLater, eq_comm]

theorem exists_compileFrom_iff {limit level : Nat} {position : Position} {group : Forest}
    {compiles : Section -> Prop}
    (each : forall member, member ∈ group -> forall place,
      (Exists fun step => member.compile limit (position.child place) level = .ok step) ↔
        compiles member)
    (place : Nat) :
    (Exists fun steps => compileFrom limit position level place group = .ok steps) ↔
      forall member, member ∈ group -> compiles member := by
  induction group generalizing place with
  | nil =>
      constructor
      · intro _ member impossible
        cases impossible
      · intro _
        exact ⟨[], rfl⟩
  | cons first rest inductionHypothesis =>
      have firstCompiles := each first List.mem_cons_self place
      have restCompile := inductionHypothesis
        (fun member listed => each member (List.mem_cons_of_mem first listed)) (place + 1)
      rw [List.forall_mem_cons, ← firstCompiles, ← restCompile]
      constructor
      · rintro ⟨steps, compiled⟩
        rcases (compileFrom_cons_eq_ok_iff ..).mp compiled with ⟨step, later, head, tail, _⟩
        exact ⟨⟨step, head⟩, ⟨later, tail⟩⟩
      · rintro ⟨⟨step, head⟩, ⟨later, tail⟩⟩
        exact ⟨step :: later, (compileFrom_cons_eq_ok_iff ..).mpr ⟨step, later, head, tail, rfl⟩⟩

theorem exists_compile_of_compileFrom {limit level : Nat} {position : Position} {group : Forest}
    {steps : List Step} (place : Nat)
    (compiled : compileFrom limit position level place group = .ok steps) {index : Nat}
    {member : Section} (listed : group[index]? = some member) :
    Exists fun step => member.compile limit (position.child (place + index)) level = .ok step := by
  induction group generalizing place steps index with
  | nil => cases listed
  | cons first rest inductionHypothesis =>
      rcases (compileFrom_cons_eq_ok_iff ..).mp compiled with ⟨step, later, head, tail, _⟩
      cases index with
      | zero =>
          cases listed
          exact ⟨step, head⟩
      | succ index =>
          rw [Nat.add_comm index, ← Nat.add_assoc]
          exact inductionHypothesis (place + 1) tail listed

/-- A list of members fails at the first one that fails; the ones before it
have compiled. -/
theorem exists_of_compileFrom_eq_error {limit level : Nat} {position : Position} {group : Forest}
    {violation : Violation} (place : Nat)
    (failed : compileFrom limit position level place group = .error violation) :
    Exists fun before => Exists fun member => Exists fun after =>
      group = before ++ member :: after ∧
        (Exists fun steps => compileFrom limit position level place before = .ok steps) ∧
        member.compile limit (position.child (place + before.length)) level =
          .error violation := by
  induction group generalizing place with
  | nil => cases failed
  | cons first rest inductionHypothesis =>
      rw [compileFrom] at failed
      cases head : first.compile limit (position.child place) level with
      | error refused =>
          rw [head] at failed
          cases failed
          exact ⟨[], first, rest, rfl, ⟨[], rfl⟩, head⟩
      | ok step =>
          rw [head] at failed
          cases tail : compileFrom limit position level (place + 1) rest with
          | ok later =>
              rw [tail] at failed
              cases failed
          | error refused =>
              rw [tail] at failed
              cases failed
              rcases inductionHypothesis (place + 1) tail with
                ⟨before, member, after, split, ⟨steps, compiled⟩, refused⟩
              refine ⟨first :: before, member, after, congrArg (first :: ·) split,
                ⟨step :: steps, ?_⟩, ?_⟩
              · exact (compileFrom_cons_eq_ok_iff ..).mpr ⟨step, steps, head, compiled, rfl⟩
              · rw [List.length_cons, Nat.add_comm before.length, ← Nat.add_assoc]
                exact refused

/-! ## The forest as a whole -/

theorem compile_of_plain_root (limit : Nat) (title : String) {single : Section}
    (plain : single.isOption = false) :
    compile limit title [single] = single.compile limit (Position.root.child 0) 1 := by
  rw [compile, plain]
  rfl

theorem compile_of_no_plain_root (limit : Nat) (title : String) (forest : Forest)
    (wrapped : forall root, forest = [root] -> root.isOption = true) :
    compile limit title forest = compileGroup limit title .root 1 forest := by
  match forest with
  | [] => rfl
  | [single] => rw [compile, wrapped single rfl, if_pos rfl]
  | _ :: _ :: _ => rfl

/-- As a group of its own, a single root that is no option gives a sequence of
one step; nothing else differs. -/
theorem compileGroup_of_plain_root (limit : Nat) (title : String) {single : Section}
    (plain : single.isOption = false) :
    compileGroup limit title .root 1 [single] =
      (compile limit title [single]).map fun step => .sequence title [step] := by
  have judged : shape title .root [single] = .ok .sequence :=
    shape_of_noOptions title .root (List.cons_ne_nil single [])
      (fun member listed => List.mem_singleton.mp listed ▸ plain)
  rw [compile_of_plain_root limit title plain, compileGroup, judged]
  simp only [compileFrom]
  cases single.compile limit (Position.root.child 0) 1 with
  | error violation => rfl
  | ok step => rfl

/-- Every forest is a plain root or is compiled as a group. -/
theorem plain_root_or_wrapped (forest : Forest) :
    (Exists fun single => forest = [single] ∧ single.isOption = false) ∨
      forall root, forest = [root] -> root.isOption = true := by
  match forest with
  | [] => exact Or.inr (fun root impossible => by cases impossible)
  | [single] =>
      cases kind : single.isOption with
      | false => exact Or.inl ⟨single, rfl, kind⟩
      | true =>
          refine Or.inr (fun root same => ?_)
          cases same
          exact kind
  | _ :: _ :: _ => exact Or.inr (fun root impossible => by cases impossible)

/-- A forest fails exactly as the group of its roots does. -/
theorem compile_eq_error_iff_group (limit : Nat) (title : String) (forest : Forest)
    (violation : Violation) :
    compile limit title forest = .error violation ↔
      compileGroup limit title .root 1 forest = .error violation := by
  rcases plain_root_or_wrapped forest with ⟨single, rfl, plain⟩ | wrapped
  · rw [compileGroup_of_plain_root limit title plain]
    cases compile limit title [single] with
    | error failed => exact Iff.rfl
    | ok step => simp [Except.map]
  · rw [compile_of_no_plain_root limit title forest wrapped]

theorem exists_compile_iff_group (limit : Nat) (title : String) (forest : Forest) :
    (Exists fun step => compile limit title forest = .ok step) ↔
      Exists fun step => compileGroup limit title .root 1 forest = .ok step := by
  rcases plain_root_or_wrapped forest with ⟨single, rfl, plain⟩ | wrapped
  · rw [compileGroup_of_plain_root limit title plain]
    cases compile limit title [single] with
    | error failed => simp [Except.map]
    | ok step => exact ⟨fun _ => ⟨_, rfl⟩, fun _ => ⟨step, rfl⟩⟩
  · rw [compile_of_no_plain_root limit title forest wrapped]

/-- The group of the roots stands one level above them: it is the untitled
section that has the forest for its members. -/
theorem compileGroup_eq_compile_mk (limit : Nat) (title : String) {forest : Forest}
    (nonempty : forest ≠ []) :
    compileGroup limit title .root 1 forest = Section.compile limit .root 0 ⟨title, forest⟩ :=
  (compile_mk_of_le limit .root 0 title forest (Nat.zero_le limit) nonempty).symm

end Forest
end Guidebook
