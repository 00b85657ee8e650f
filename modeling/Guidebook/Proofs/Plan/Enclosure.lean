import Guidebook.Proofs.Plan.Decompilation
import Guidebook.Proofs.Plan.FirstViolation

namespace Guidebook

/-!
# A forest as a section

A forest without a plain root of its own is compiled like the section that has its
title and its roots.  Within a forest this section is a root, so that everything in
it stands one level further down: with one more level to spare, the same steps come
out and the same violations are found, at positions that lead through the section
first.

More generally, compilation cannot tell where it starts.  A section that is compiled
behind a longer path has the same flaws in the same order, as long as the limit
grows with the path; this is said here for a path of any length.
-/

namespace Position

/-- A position behind a path that leads to where it is counted from. -/
def behind (front : List Nat) (position : Position) : Position :=
  ⟨front ++ position.indices⟩

@[simp] theorem length_behind (front : List Nat) (position : Position) :
    (position.behind front).indices.length = front.length + position.indices.length :=
  List.length_append

/-- A path that goes on from a position goes on from it behind a path too. -/
theorem append_behind (front : List Nat) (position : Position) (path : List Nat) :
    (⟨(position.behind front).indices ++ path⟩ : Position) =
      (⟨position.indices ++ path⟩ : Position).behind front := by
  rw [behind, behind, List.append_assoc]

end Position

/-- The same reason under a limit that is larger by some levels. -/
def Malformation.raised (levels : Nat) : Malformation -> Malformation
  | .tooDeep limit => .tooDeep (limit + levels)
  | .sourceFailed message => .sourceFailed message
  | .stated reason => .stated reason

/-- The same violation behind a path, under a limit that is larger by its length. -/
def Violation.behind (front : List Nat) : Violation -> Violation
  | .emptyContainer name position => .emptyContainer name (position.behind front)
  | .mixedSiblings name position offender options others =>
    .mixedSiblings name (position.behind front) offender options others
  | .duplicateIndex name position index => .duplicateIndex name (position.behind front) index
  | .malformed name position reason =>
    .malformed name (position.behind front) (reason.raised front.length)

/-! ## Flaws behind a path -/

theorem Forest.Disorder.behind {title : String} {position : Position} {group : Forest}
    {violation : Violation} (disorder : Disorder title position group violation)
    (front : List Nat) : Disorder title (position.behind front) group (violation.behind front) := by
  cases disorder with
  | mixed split alike differs => exact .mixed split alike differs
  | repeated options split fresh titled known =>
      rw [Violation.behind, Position.child, ← Position.append_behind, ← Position.child]
      exact .repeated options split fresh titled known

/-- A group that is in disorder behind a path is in disorder without it. -/
theorem Forest.exists_disorder_of_behind {title : String} {position other : Position}
    {group : Forest} {answer : Violation} (disorder : Disorder title position group answer) :
    Exists fun violation => Disorder title other group violation := by
  cases disorder with
  | mixed split alike differs => exact ⟨_, .mixed split alike differs⟩
  | repeated options split fresh titled known =>
      exact ⟨_, .repeated options split fresh titled known⟩

namespace Section

theorem Flaw.behind {limit : Nat} {position : Position} {subject : Section}
    {violation : Violation} (flaw : subject.Flaw limit position violation) (front : List Nat) :
    subject.Flaw (limit + front.length) (position.behind front) (violation.behind front) := by
  cases flaw with
  | tooDeep beyond => exact .tooDeep (by rw [Position.length_behind]; omega)
  | disorder within disorder =>
      exact .disorder (by rw [Position.length_behind]; omega) (disorder.behind front)

theorem exists_flaw_of_behind {limit : Nat} {position : Position} {subject : Section}
    {front : List Nat} {answer : Violation}
    (flaw : subject.Flaw (limit + front.length) (position.behind front) answer) :
    Exists fun violation => subject.Flaw limit position violation := by
  cases flaw with
  | tooDeep beyond =>
      rw [Position.length_behind] at beyond
      exact ⟨_, .tooDeep (by omega)⟩
  | disorder within disorder =>
      rw [Position.length_behind] at within
      rcases Forest.exists_disorder_of_behind disorder with ⟨violation, found⟩
      exact ⟨violation, .disorder (by omega) found⟩

/-- Behind a path, and under a limit that is larger by its length, a section compiles
to the same step or has the same violation behind that path. -/
theorem compile_behind (limit : Nat) (position : Position) (subject : Section)
    (reached : position.indices.length ≤ limit + 1) (front : List Nat) :
    subject.compile (limit + front.length) (position.behind front)
        (position.behind front).indices.length =
      (subject.compile limit position position.indices.length).mapError
        (Violation.behind front) := by
  cases outcome : subject.compile limit position position.indices.length with
  | ok step =>
      rcases (compile_eq_ok_iff ..).mp outcome with ⟨wellFormed, read, within⟩
      refine (compile_eq_ok_iff ..).mpr ⟨wellFormed, read, ?_⟩
      rw [Position.length_behind]
      omega
  | error violation =>
      have first := (compile_eq_error_iff limit position subject reached violation).mp outcome
      have forth : forall path found, subject.FlawAt limit position path found ->
          Exists fun answer => subject.FlawAt (limit + front.length) (position.behind front) path
            answer ∧ answer = found.behind front := by
        rintro path found ⟨inner, stands, flaw⟩
        refine ⟨found.behind front, ⟨inner, stands, ?_⟩, rfl⟩
        rw [Position.append_behind]
        exact flaw.behind front
      have back : forall path answer,
          subject.FlawAt (limit + front.length) (position.behind front) path answer ->
            Exists fun found => subject.FlawAt limit position path found := by
        rintro path answer ⟨inner, stands, flaw⟩
        rw [Position.append_behind] at flaw
        rcases exists_flaw_of_behind flaw with ⟨found, own⟩
        exact ⟨found, inner, stands, own⟩
      -- A path in front of all paths does not change which of them comes first.
      rcases first.transfer forth back with ⟨answer, answered, same⟩
      subst same
      refine (compile_eq_error_iff _ _ subject ?_ _).mpr answered
      rw [Position.length_behind]
      omega

end Section

namespace Forest

/-- A forest with roots that is not a single plain root compiles as the section of its
title does as the only root, with one level more: to the same step, or with the same
violation below that section.  The section must not be titled as an option. -/
theorem compile_as_section (limit : Nat) (title other : String) (forest : Forest)
    (nonempty : forest ≠ [])
    (wrapped : forall root, forest = [root] -> root.isOption = true)
    (untitled : OptionTitle.parse? title = none) :
    compile (limit + 1) other [⟨title, forest⟩] =
      (compile limit title forest).mapError (Violation.behind [0]) := by
  have plain : Section.isOption ⟨title, forest⟩ = false := by
    rw [Section.isOption_eq_false_iff, Section.option?, Section.name_mk, untitled, ite_self]
  rw [compile_of_plain_root (limit + 1) other plain,
    compile_of_no_plain_root limit title forest wrapped,
    compileGroup_eq_compile_mk limit title nonempty]
  exact Section.compile_behind limit .root ⟨title, forest⟩ (Nat.zero_le (limit + 1)) [0]

/-- An index repeated under the second root, and a command one level too deep in an
option that is the only root. -/
theorem compile_as_section_manyFlaws :
    (manyFlaws ≠ [] ∧ (forall root, manyFlaws = [root] -> root.isOption = true) ∧
        OptionTitle.parse? "doc" = none ∧
        compile 3 "other" [⟨"doc", manyFlaws⟩] =
          (compile 2 "doc" manyFlaws).mapError (Violation.behind [0]) ∧
        compile 3 "other" [⟨"doc", manyFlaws⟩] =
          .error (.duplicateIndex "Option 1: b" ⟨[0, 1, 1]⟩ 1)) ∧
      compile 2 "other" [⟨"doc", [⟨"Option 1: a", [.command "echo"]⟩]⟩] =
          (compile 1 "doc" [⟨"Option 1: a", [.command "echo"]⟩]).mapError
            (Violation.behind [0]) ∧
        compile 1 "doc" [⟨"Option 1: a", [.command "echo"]⟩] =
          .error (.malformed "echo" ⟨[0, 0]⟩ (.tooDeep 1)) := by
  have nonempty : manyFlaws ≠ [] := List.cons_ne_nil _ _
  have wrapped : forall root, manyFlaws = [root] -> root.isOption = true := by
    intro root impossible
    cases impossible
  have untitled : OptionTitle.parse? "doc" = none := by decide
  have onlyOption : forall root, [Section.mk "Option 1: a" [.command "echo"]] = [root] ->
      root.isOption = true := by
    intro root same
    cases same
    decide
  have enclosed := compile_as_section 2 "doc" "other" manyFlaws nonempty wrapped untitled
  exact ⟨⟨nonempty, wrapped, untitled, enclosed, enclosed.trans rfl⟩,
    compile_as_section 1 "doc" "other" _ (List.cons_ne_nil _ _) onlyOption untitled, rfl⟩

end Forest
end Guidebook
