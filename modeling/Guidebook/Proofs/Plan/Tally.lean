import Mathlib.Algebra.GroupWithZero.Nat
import Guidebook.Plan.Tally
import Guidebook.Proofs.Plan.Decompilation
import Guidebook.Proofs.Plan.Members
import Guidebook.Proofs.Section.Census

namespace Guidebook

/-!
# Tallies of compiled plans

A plan is tallied without its guidebook, and a guidebook is counted without its
plan; both are told here by counting in one list, that of all sections.  A step
of a well-formed plan stands for one section, so what a walk over the plan adds
up is what the sections of the guidebook are.  An alternative is no step of its
own: it is counted with the choice that it belongs to, and once more as the step
that its body is.

A forest that is not a single plain root is compiled as a section around it.
This section is in no list of the guidebook, and stands on both sides of the
equations as one.
-/

/-! ## Sibling groups and what they compile to -/

instance Forest.decidableAllOptions (group : Forest) : Decidable group.AllOptions :=
  inferInstanceAs (Decidable (forall member, member ∈ group -> member.isOption = true))

namespace Section

/-- A section whose members are all options. -/
def isChoice (subject : Section) : Bool :=
  !subject.isCommand && decide subject.members.AllOptions

/-- A section with members of which not all are options. -/
def isSequence (subject : Section) : Bool :=
  !subject.isCommand && !decide subject.members.AllOptions

/-- The number of options below a section, on all levels. -/
def optionsBelow (subject : Section) : Nat :=
  (Forest.sections subject.members).countP isOption

end Section

namespace Forest

/-- Whether a forest is compiled as a section around it; only a single root that
is no option is not. -/
def isWrapped : Forest -> Bool
  | [single] => single.isOption
  | _ => true

/-- The sibling groups that are compiled: the roots, unless a single plain root
stands for itself, and the members of every section that has some. -/
def groups (forest : Forest) : List Forest :=
  (if forest.isWrapped then [forest] else []) ++
    (forest.sections.filter fun subject => !subject.isCommand).map Section.members

/-- An option of a forest is a root or is below one. -/
theorem countP_isOption_sections (forest : Forest) :
    forest.sections.countP Section.isOption =
      forest.countP Section.isOption + (forest.map Section.optionsBelow).sum := by
  induction forest with
  | nil => rfl
  | cons first rest inductionHypothesis =>
      rw [sections_cons, List.countP_append, inductionHypothesis, Section.sections_eq,
        List.countP_cons, List.countP_cons, List.map_cons, List.sum_cons, Section.optionsBelow]
      omega

theorem countP_isOption_of_noOptions {group : Forest} (plain : group.NoOptions) :
    group.countP Section.isOption = 0 :=
  List.countP_eq_zero.mpr (fun member listed => by rw [plain member listed]; decide)

theorem countP_isOption_of_allOptions {group : Forest} (options : group.AllOptions) :
    group.countP Section.isOption = group.length :=
  List.countP_eq_length.mpr options

theorem countP_isSequence_add_isChoice (found : List Section) :
    found.countP Section.isSequence + found.countP Section.isChoice =
      found.countP fun subject => !subject.isCommand := by
  induction found with
  | nil => rfl
  | cons first rest inductionHypothesis =>
      rw [List.countP_cons, List.countP_cons, List.countP_cons, ← inductionHypothesis]
      cases command : first.isCommand <;> by_cases options : first.members.AllOptions <;>
        simp [Section.isSequence, Section.isChoice, command, options] <;> omega

theorem countP_isChoice (found : List Section) :
    found.countP Section.isChoice =
      ((found.filter fun subject => !subject.isCommand).map Section.members).countP
        fun group => decide group.AllOptions := by
  rw [List.countP_map, List.countP_filter]
  exact List.countP_congr (fun subject _ => by
    rw [Section.isChoice, Bool.and_comm, Function.comp_apply])

end Forest

/-! ## Steps and the sections that they stand for -/

namespace Tally

/-- Sections, and branches apart from them, on top of a tally. -/
def plus (tally : Tally) (found : List Section) (branches : Nat) : Tally :=
  { tasks := tally.tasks + found.countP Section.isCommand
    sequences := tally.sequences + found.countP Section.isSequence
    choices := tally.choices + found.countP Section.isChoice
    branches := tally.branches + branches
    depth := tally.depth }

theorem plus_append (tally : Tally) (left right : List Section) (leftBranches rightBranches : Nat) :
    tally.plus (left ++ right) (leftBranches + rightBranches) =
      (tally.plus left leftBranches).plus right rightBranches := by
  simp only [plus, List.countP_append, Nat.add_assoc]

/-- A step adds to a tally what the section that it stands for is, together with
everything below. -/
def Adds (step : Step) : Prop :=
  forall tally : Tally,
    tally.note step = tally.plus step.decompile.sections step.decompile.optionsBelow

theorem noteSteps_eq_plus {steps : List Step} (each : forall step, step ∈ steps -> Adds step)
    (tally : Tally) :
    tally.noteSteps steps =
      tally.plus (Forest.sections (steps.map Step.decompile))
        ((steps.map Step.decompile).map Section.optionsBelow).sum := by
  induction steps generalizing tally with
  | nil => rfl
  | cons first rest inductionHypothesis =>
      rw [noteSteps, each first List.mem_cons_self,
        inductionHypothesis (fun step listed => each step (List.mem_cons_of_mem first listed)),
        List.map_cons, Forest.sections_cons, List.map_cons, List.sum_cons, plus_append]

theorem noteBranches_eq_noteSteps (tally : Tally) (branches : List (Branch Step)) :
    tally.noteBranches branches = tally.noteSteps (branches.map Branch.body) := by
  induction branches generalizing tally with
  | nil => rfl
  | cons first rest inductionHypothesis =>
      rw [noteBranches, inductionHypothesis, List.map_cons, noteSteps]

/-- No step of a sequence is an option, so the options below the section are
those below its members. -/
theorem adds_sequence {title : String} {steps : List Step}
    (nonempty : steps.map Step.decompile ≠ [])
    (plain : Forest.NoOptions (steps.map Step.decompile))
    (each : forall step, step ∈ steps -> Adds step) : Adds (.sequence title steps) := by
  intro tally
  have notChoice : ¬ Forest.AllOptions (steps.map Step.decompile) :=
    fun options => Forest.not_noOptions_of_allOptions nonempty options plain
  have members : Section.isCommand ⟨title, steps.map Step.decompile⟩ = false :=
    List.isEmpty_eq_false_iff.mpr nonempty
  rw [note, noteSteps_eq_plus each, Step.decompile_sequence, Section.sections_eq,
    Section.optionsBelow, Section.members_mk, Forest.countP_isOption_sections,
    Forest.countP_isOption_of_noOptions plain, Nat.zero_add]
  simp only [plus, List.countP_cons, members, Section.isSequence, Section.isChoice,
    Section.members_mk, notChoice]
  simp [Nat.add_assoc, Nat.add_comm 1]

/-- Every body of a choice is an option, so the options below the section are one
more for each branch. -/
theorem adds_choice {title : String} {branches : List (Branch Step)}
    (nonempty : (branches.map Branch.body).map Step.decompile ≠ [])
    (options : Forest.AllOptions ((branches.map Branch.body).map Step.decompile))
    (each : forall branch, branch ∈ branches -> Adds branch.body) :
    Adds (.choice title branches) := by
  intro tally
  have members :
      Section.isCommand ⟨title, (branches.map Branch.body).map Step.decompile⟩ = false :=
    List.isEmpty_eq_false_iff.mpr nonempty
  rw [note, noteBranches_eq_noteSteps, noteSteps_eq_plus (List.forall_mem_map.mpr each),
    Step.decompile_choice, Section.sections_eq, Section.optionsBelow, Section.members_mk,
    Forest.countP_isOption_sections, Forest.countP_isOption_of_allOptions options,
    List.length_map, List.length_map]
  simp only [plus, List.countP_cons, members, Section.isSequence, Section.isChoice,
    Section.members_mk, options]
  simp [Nat.add_assoc, Nat.add_comm 1]

theorem adds_of_wellFormed {step : Step} (wellFormed : step.WellFormed) : Adds step := by
  induction step using Step.member_induction with
  | task command => exact fun tally => rfl
  | sequence title steps inductionHypothesis =>
      cases wellFormed with
      | sequence nonempty plain members =>
          have order := (Forest.wellFormed_sequence_iff title members).mp
            (.sequence nonempty plain members)
          exact adds_sequence order.1 order.2
            (fun step listed => inductionHypothesis step listed (members step listed))
  | choice title branches inductionHypothesis =>
      cases wellFormed with
      | choice nonempty different titled members =>
          refine adds_choice (by simpa using nonempty) ?_
            (fun branch listed => inductionHypothesis branch listed (members branch listed))
          rw [List.map_map]
          refine List.forall_mem_map.mpr (fun branch listed => ?_)
          rw [Section.isOption_eq_true_iff, Function.comp_apply,
            (members branch listed).option?_decompile]
          exact ⟨_, titled branch listed⟩

end Tally

theorem Step.depthOfBranches_eq (branches : List (Branch Step)) :
    depthOfBranches branches = depthOfSteps (branches.map Branch.body) := by
  induction branches with
  | nil => rfl
  | cons first rest inductionHypothesis =>
      rw [depthOfBranches, inductionHypothesis, List.map_cons, depthOfSteps]

theorem Step.depth_map_decompile {steps : List Step}
    (each : forall step, step ∈ steps -> step.decompile.depth = step.depth) :
    Forest.depth (steps.map decompile) = depthOfSteps steps := by
  induction steps with
  | nil => rfl
  | cons first rest inductionHypothesis =>
      rw [List.map_cons, Forest.depth, depthOfSteps, each first List.mem_cons_self,
        inductionHypothesis (fun step listed => each step (List.mem_cons_of_mem first listed))]

/-- Reading back keeps the levels: an alternative has none of its own. -/
theorem Step.depth_decompile (step : Step) : step.decompile.depth = step.depth := by
  induction step using Step.member_induction with
  | task command => rfl
  | sequence title steps inductionHypothesis =>
      rw [decompile_sequence, Section.depth, depth, depth_map_decompile inductionHypothesis]
  | choice title branches inductionHypothesis =>
      rw [decompile_choice, Section.depth, depth, depthOfBranches_eq,
        depth_map_decompile (List.forall_mem_map.mpr inductionHypothesis)]

theorem Tally.ofStep_eq {step : Step} (wellFormed : step.WellFormed) :
    Tally.ofStep step =
      (⟨0, 0, 0, 0, step.decompile.depth⟩ : Tally).plus step.decompile.sections
        step.decompile.optionsBelow := by
  rw [Tally.ofStep, Tally.adds_of_wellFormed wellFormed, Step.depth_decompile]

/-! ## What follows for compiled plans -/

namespace Forest

theorem isWrapped_of_no_plain_root {forest : Forest}
    (wrapped : forall root, forest = [root] -> root.isOption = true) :
    forest.isWrapped = true := by
  match forest with
  | [] => rfl
  | [single] => exact wrapped single rfl
  | _ :: _ :: _ => rfl

/-- What a forest is compiled as has the sections of the forest, with the section
around them in front if there is one; the options and the depth follow. -/
theorem asSection_measures (title : String) (forest : Forest) :
    (forest.asSection title).sections =
        (if forest.isWrapped then [⟨title, forest⟩] else []) ++ forest.sections ∧
      (forest.asSection title).optionsBelow = forest.sections.countP Section.isOption ∧
      (forest.asSection title).depth = forest.isWrapped.toNat + forest.depth := by
  rcases plain_root_or_wrapped forest with ⟨single, rfl, plain⟩ | wrapped
  · rw [asSection_of_plain_root title plain, isWrapped, plain, countP_isOption_sections]
    refine ⟨?_, ?_, ?_⟩
    · simp
    · simp [plain]
    · simp [Forest.depth]
  · rw [asSection_of_no_plain_root title forest wrapped, isWrapped_of_no_plain_root wrapped]
    exact ⟨Section.sections_eq ⟨title, forest⟩, rfl, rfl⟩

/-- The section around a forest is no command, and it is a choice when the roots
are a group of options. -/
theorem countP_sections_asSection (title : String) {forest : Forest} (nonempty : forest ≠ []) :
    (forest.asSection title).sections.countP Section.isCommand =
        forest.sections.countP Section.isCommand ∧
      ((forest.asSection title).sections.countP fun subject => !subject.isCommand) =
        (forest.sections.countP fun subject => !subject.isCommand) + forest.isWrapped.toNat ∧
      (forest.asSection title).sections.countP Section.isChoice =
        forest.groups.countP fun group => decide group.AllOptions := by
  have members : Section.isCommand ⟨title, forest⟩ = false := List.isEmpty_eq_false_iff.mpr nonempty
  rw [(asSection_measures title forest).1, groups]
  simp only [List.countP_append, ← countP_isChoice]
  cases forest.isWrapped with
  | false => exact ⟨Nat.zero_add _, Nat.add_comm 0 _, rfl⟩
  | true =>
      simp only [if_true, List.countP_singleton, members, Section.isChoice, Section.members_mk]
      exact ⟨Nat.zero_add _, Nat.add_comm 1 _, rfl⟩

theorem exists_deepest {forest : Forest} (nonempty : forest ≠ []) :
    Exists fun deepest => deepest ∈ forest ∧ deepest.depth = forest.depth := by
  induction forest with
  | nil => exact False.elim (nonempty rfl)
  | cons first rest inductionHypothesis =>
      rw [Forest.depth]
      by_cases leads : Forest.depth rest ≤ first.depth
      · exact ⟨first, List.mem_cons_self, (Nat.max_eq_left leads).symm⟩
      · have others : rest ≠ [] := by
          rintro rfl
          exact leads (Nat.zero_le first.depth)
        rcases inductionHypothesis others with ⟨deepest, listed, same⟩
        refine ⟨deepest, List.mem_cons_of_mem first listed, ?_⟩
        rw [same, Nat.max_eq_right (Nat.le_of_not_le leads)]

/-- The tally of a compiled plan and the census of its guidebook are one count.
Tasks are commands, branches are options, sequences and choices are the sections
with members and the one around them, if any, and choices are the sibling groups
of options.  Levels are those of the deepest root and of the section around it. -/
theorem tally_of_compile (limit : Nat) (title : String) (forest : Forest) (step : Step)
    (compiled : forest.compile limit title = .ok step) :
    ((Tally.ofStep step).tasks = forest.sections.countP Section.isCommand ∧
      (Tally.ofStep step).branches = forest.sections.countP Section.isOption ∧
      (Tally.ofStep step).sequences + (Tally.ofStep step).choices =
        (forest.sections.countP fun subject => !subject.isCommand) + forest.isWrapped.toNat ∧
      (Tally.ofStep step).choices = forest.groups.countP fun group => decide group.AllOptions) ∧
    (Exists fun deepest => deepest ∈ forest ∧
      (forall root, root ∈ forest -> root.depth ≤ deepest.depth) ∧
      (Tally.ofStep step).depth = forest.isWrapped.toNat + deepest.depth) ∧
    (Census.ofForest forest).commands = (Tally.ofStep step).tasks ∧
    (Census.ofForest forest).options = (Tally.ofStep step).branches ∧
    (Census.ofForest forest).sections + (Census.ofForest forest).options +
        forest.isWrapped.toNat = (Tally.ofStep step).sequences + (Tally.ofStep step).choices ∧
    (Census.ofForest forest).depth + forest.isWrapped.toNat = (Tally.ofStep step).depth := by
  rcases (compile_eq_ok_iff ..).mp compiled with ⟨nonempty, wellFormed, read, _⟩
  rcases asSection_measures title forest with ⟨_, options, depth⟩
  rcases countP_sections_asSection title nonempty with ⟨commands, led, choices⟩
  rcases exists_deepest nonempty with ⟨deepest, listed, deep⟩
  have kinds := countP_isSequence_add_isChoice (forest.asSection title).sections
  have plain := Section.countP_isPlain_add_isOption forest.sections
  -- Both sides are counts in one list of sections, that of what the forest is compiled as.
  rw [Census.ofForest_eq, Tally.ofStep_eq wellFormed, read, options, depth]
  simp only [Tally.plus, Nat.zero_add]
  refine ⟨⟨commands, trivial, kinds.trans led, choices⟩, ⟨deepest, listed, ?_, by rw [deep]⟩,
    commands.symm, trivial, ?_, Nat.add_comm _ _⟩
  · exact (depth_le_iff forest deepest.depth).mp (Nat.le_of_eq deep.symm)
  · rw [kinds, led, plain]

theorem tally_of_compile_nestedOptions :
    compile 4 "doc" nestedOptions = .ok nestedOptionsPlan ∧
      Tally.ofStep nestedOptionsPlan = ⟨3, 3, 2, 3, 5⟩ ∧
      (Census.ofForest nestedOptions).commands = 3 ∧
      (Census.ofForest nestedOptions).options = 3 ∧
      (Census.ofForest nestedOptions).sections + 3 + 1 = 5 ∧
      (Census.ofForest nestedOptions).depth + 1 = 5 := by
  have law := tally_of_compile 4 "doc" nestedOptions nestedOptionsPlan rfl
  rcases law with ⟨_, _, commands, options, led, depth⟩
  rw [options] at led
  exact ⟨rfl, rfl, commands, options, led, depth⟩

end Forest
end Guidebook
