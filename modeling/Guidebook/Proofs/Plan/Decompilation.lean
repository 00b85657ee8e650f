import Guidebook.Proofs.Plan.Descent
import Guidebook.Proofs.Plan.WellFormed
import Guidebook.Proofs.Section.Members

namespace Guidebook

/-!
# Compilation and reading back

A section compiles to a step exactly when the step is well formed, is read back
as that section, and the section is within the limit.  One side mentions no
position and no order of checks, so that everything about compiled plans is a
statement about reading back: nothing is lost, added or reordered, only
well-formed plans are compiled, and every well-formed plan is.
-/

namespace Forest

/-! ## Branches and what they are made of -/

theorem branches_map (members : List (Branch Step)) :
    branches (members.map Branch.title) (members.map Branch.body) = members := by
  induction members with
  | nil => rfl
  | cons first rest inductionHypothesis =>
      rw [List.map_cons, List.map_cons, branches, List.zipWith_cons_cons, ← branches,
        inductionHypothesis]
      rfl

/-- As many titles as bodies make branches with these titles and bodies. -/
theorem map_branches {titles : List OptionTitle} {bodies : List Step}
    (paired : titles.length = bodies.length) :
    (branches titles bodies).map Branch.title = titles ∧
      (branches titles bodies).map Branch.body = bodies := by
  induction titles generalizing bodies with
  | nil =>
      have empty : bodies = [] := List.eq_nil_of_length_eq_zero paired.symm
      rw [empty]
      exact ⟨rfl, rfl⟩
  | cons title rest inductionHypothesis =>
      cases bodies with
      | nil => cases paired
      | cons body later =>
          have further := inductionHypothesis (Nat.succ.inj paired)
          rw [branches, List.zipWith_cons_cons, ← branches, List.map_cons, List.map_cons,
            further.1, further.2]
          exact ⟨rfl, rfl⟩

/-! ## Members that are read back -/

/-- Steps that are members for members well formed, read back and within the
limit are so together. -/
theorem forall₂_decompile_iff (level limit : Nat) (group : Forest) (steps : List Step) :
    List.Forall₂ (fun member step => step.WellFormed ∧ step.decompile = member ∧
        level + member.depth ≤ limit + 1) group steps ↔
      (forall step, step ∈ steps -> step.WellFormed) ∧ steps.map Step.decompile = group ∧
        forall member, member ∈ group -> level + member.depth ≤ limit + 1 := by
  induction steps generalizing group with
  | nil =>
      rw [List.forall₂_nil_right_iff]
      constructor
      · intro empty
        subst group
        exact ⟨List.forall_mem_nil _, rfl, List.forall_mem_nil _⟩
      · rintro ⟨_, read, _⟩
        exact read.symm
  | cons first rest inductionHypothesis =>
      rw [List.forall₂_cons_right_iff, List.forall_mem_cons, List.map_cons]
      constructor
      · rintro ⟨member, later, ⟨firstFormed, firstRead, firstWithin⟩, related, joined⟩
        rcases (inductionHypothesis later).mp related with ⟨restFormed, restRead, restWithin⟩
        subst group
        rw [firstRead, restRead, List.forall_mem_cons]
        exact ⟨⟨firstFormed, restFormed⟩, rfl, firstWithin, restWithin⟩
      · rintro ⟨⟨firstFormed, restFormed⟩, read, within⟩
        subst group
        rw [List.forall_mem_cons] at within
        exact ⟨_, _, ⟨firstFormed, rfl, within.1⟩,
          (inductionHypothesis _).mpr ⟨restFormed, rfl, within.2⟩, rfl⟩

theorem map_optionTitle? {steps : List Step}
    (formed : forall step, step ∈ steps -> step.WellFormed) :
    steps.map Step.optionTitle? = (steps.map Step.decompile).map Section.option? := by
  rw [List.map_map]
  apply List.map_congr_left
  intro step listed
  exact (formed step listed).option?_decompile.symm

/-- A group of which no member is an option is the group of a well-formed
sequence. -/
theorem wellFormed_sequence_iff (title : String) {steps : List Step}
    (formed : forall step, step ∈ steps -> step.WellFormed) :
    (Step.sequence title steps).WellFormed ↔
      steps.map Step.decompile ≠ [] ∧ NoOptions (steps.map Step.decompile) := by
  have plain : NoOptions (steps.map Step.decompile) ↔
      forall step, step ∈ steps -> step.optionTitle? = none := by
    simp only [NoOptions, Section.isOption_eq_false_iff, List.forall_mem_map]
    exact forall₂_congr fun step listed => by rw [(formed step listed).option?_decompile]
  rw [plain, ne_eq, List.map_eq_nil_iff]
  constructor
  · intro wellFormed
    cases wellFormed with
    | sequence nonempty plain members => exact ⟨nonempty, plain⟩
  · rintro ⟨nonempty, plain⟩
    exact .sequence nonempty plain formed

/-- A group whose members have certain option titles, of different indices, is
the group of a well-formed choice of these titles. -/
theorem wellFormed_choice_iff (title : String) {members : List (Branch Step)}
    (formed : forall branch, branch ∈ members -> branch.body.WellFormed) :
    (Step.choice title members).WellFormed ↔
      (members.map Branch.body).map Step.decompile ≠ [] ∧
        ((members.map Branch.body).map Step.decompile).map Section.option? =
          (members.map Branch.title).map some ∧
        ((members.map Branch.title).map OptionTitle.index).Nodup := by
  have bodiesFormed : forall body, body ∈ members.map Branch.body -> body.WellFormed :=
    List.forall_mem_map.mpr formed
  have titled : ((members.map Branch.body).map Step.decompile).map Section.option? =
        (members.map Branch.title).map some ↔
      forall branch, branch ∈ members -> branch.body.optionTitle? = some branch.title := by
    rw [← map_optionTitle? bodiesFormed, List.map_map, List.map_map]
    exact List.map_inj_left
  have indices : (members.map Branch.title).map OptionTitle.index = members.map Branch.index := by
    rw [List.map_map]
    rfl
  rw [titled, indices, ne_eq, List.map_eq_nil_iff, List.map_eq_nil_iff]
  constructor
  · intro wellFormed
    cases wellFormed with
    | choice nonempty different titled members => exact ⟨nonempty, titled, different⟩
  · rintro ⟨nonempty, titled, different⟩
    exact .choice nonempty different titled formed

/-! ## The characterization -/

/-- A group compiles to a step exactly when the step is well formed and is read
back as that group under its title, with members within the limit.  It is
assumed that each member does so, one level further down. -/
theorem compileGroup_eq_ok_iff_of_members {limit level : Nat} {position : Position}
    {group : Forest}
    (each : forall member, member ∈ group -> forall place step,
      member.compile limit (position.child place) level = .ok step ↔
        step.WellFormed ∧ step.decompile = member ∧ level + member.depth ≤ limit + 1)
    (title : String) (step : Step) :
    compileGroup limit title position level group = .ok step ↔
      group ≠ [] ∧ step.WellFormed ∧ step.decompile = ⟨title, group⟩ ∧
        forall member, member ∈ group -> level + member.depth ≤ limit + 1 := by
  rw [compileGroup_eq_ok_iff]
  simp only [compileFrom_eq_ok_iff each, forall₂_decompile_iff]
  constructor
  · rintro ⟨passed, steps, judged, ⟨formed, read, within⟩, assembled⟩
    subst group
    cases passed with
    | sequence =>
        have order := (shape_eq_sequence_iff ..).mp judged
        subst assembled
        exact ⟨order.1, (wellFormed_sequence_iff title formed).mpr order,
          Step.decompile_sequence title steps, within⟩
    | choice titles =>
        have order := (shape_eq_choice_iff ..).mp judged
        have paired : titles.length = steps.length := by
          have lengths := congrArg List.length order.2.1
          simpa only [List.length_map] using lengths.symm
        rcases map_branches paired with ⟨sameTitles, sameBodies⟩
        have bodiesFormed : forall branch, branch ∈ branches titles steps ->
            branch.body.WellFormed :=
          List.forall_mem_map.mp (sameBodies.symm ▸ formed)
        subst assembled
        refine ⟨order.1, (wellFormed_choice_iff title bodiesFormed).mpr ?_, ?_, within⟩
        · rw [sameTitles, sameBodies]
          exact order
        · rw [Shape.assemble, Step.decompile_choice, sameBodies]
  · rintro ⟨nonempty, wellFormed, read, within⟩
    cases wellFormed with
    | task command =>
        cases read
        exact False.elim (nonempty rfl)
    | @sequence ownTitle steps stepsNonempty plain members =>
        rw [Step.decompile_sequence] at read
        cases read
        refine ⟨.sequence, steps, ?_, ⟨members, rfl, within⟩, rfl⟩
        exact (shape_eq_sequence_iff ..).mpr
          ((wellFormed_sequence_iff title members).mp (.sequence stepsNonempty plain members))
    | @choice ownTitle alternatives someBranch different titled members =>
        rw [Step.decompile_choice] at read
        cases read
        refine ⟨.choice (alternatives.map Branch.title), alternatives.map Branch.body, ?_,
          ⟨List.forall_mem_map.mpr members, rfl, within⟩, ?_⟩
        · exact (shape_eq_choice_iff ..).mpr
            ((wellFormed_choice_iff title members).mp
              (.choice someBranch different titled members))
        · rw [Shape.assemble, branches_map]

end Forest

/-- A section compiles to a step exactly when the step is well formed and is
read back as that section, and the section is within the limit. -/
theorem Section.compile_eq_ok_iff (limit : Nat) (position : Position) (level : Nat)
    (subject : Section) (step : Step) :
    subject.compile limit position level = .ok step ↔
      step.WellFormed ∧ step.decompile = subject ∧ level + subject.depth ≤ limit + 1 := by
  induction subject using Section.member_induction generalizing position level step with
  | above name members inductionHypothesis =>
      rw [Section.depth_mk_le_iff]
      by_cases within : level ≤ limit
      · by_cases empty : members = []
        · subst members
          rw [Section.compile_command position name within, Except.ok.injEq]
          constructor
          · intro same
            subst step
            exact ⟨.task name, rfl, within, List.forall_mem_nil _⟩
          · rintro ⟨wellFormed, read, _⟩
            exact (Step.eq_task_of_decompile wellFormed read).symm
        · rw [Forest.compile_mk_of_le limit position level name members within empty,
            Forest.compileGroup_eq_ok_iff_of_members (fun member listed place step =>
              inductionHypothesis member listed (position.child place) (level + 1) step)]
          constructor
          · rintro ⟨_, wellFormed, read, levels⟩
            exact ⟨wellFormed, read, within, levels⟩
          · rintro ⟨wellFormed, read, _, levels⟩
            exact ⟨empty, wellFormed, read, levels⟩
      · rw [Section.compile_of_lt position _ (Nat.lt_of_not_le within)]
        constructor
        · intro impossible
          cases impossible
        · rintro ⟨_, _, inside, _⟩
          exact False.elim (within inside)

namespace Forest

/-- The section that a forest is compiled as: its only root where that is no
option, and otherwise a section of the given title with the forest below it. -/
def asSection (title : String) : Forest -> Section
  | [single] => if single.isOption then ⟨title, [single]⟩ else single
  | forest => ⟨title, forest⟩

theorem asSection_of_plain_root (title : String) {single : Section}
    (plain : single.isOption = false) : asSection title [single] = single := by
  rw [asSection, plain]
  rfl

theorem asSection_of_no_plain_root (title : String) (forest : Forest)
    (wrapped : forall root, forest = [root] -> root.isOption = true) :
    asSection title forest = ⟨title, forest⟩ := by
  match forest with
  | [] => rfl
  | [single] => rw [asSection, wrapped single rfl, if_pos rfl]
  | _ :: _ :: _ => rfl

/-- A forest compiles to a step exactly when the step is well formed and is read
back as what the forest is compiled as, and no root is deeper than the limit. -/
theorem compile_eq_ok_iff (limit : Nat) (title : String) (forest : Forest) (step : Step) :
    compile limit title forest = .ok step ↔
      forest ≠ [] ∧ step.WellFormed ∧ step.decompile = forest.asSection title ∧
        forall root, root ∈ forest -> root.depth ≤ limit := by
  rcases plain_root_or_wrapped forest with ⟨single, rfl, plain⟩ | wrapped
  · rw [compile_of_plain_root limit title plain, asSection_of_plain_root title plain,
      Section.compile_eq_ok_iff, List.forall_mem_singleton, Nat.add_comm 1,
      Nat.add_le_add_iff_right]
    exact ⟨fun compiled => ⟨List.cons_ne_nil single [], compiled⟩, fun compiled => compiled.2⟩
  · rw [compile_of_no_plain_root limit title forest wrapped,
      asSection_of_no_plain_root title forest wrapped,
      compileGroup_eq_ok_iff_of_members (fun member _ place step =>
        Section.compile_eq_ok_iff limit (Position.root.child place) 1 member step)]
    simp only [Nat.add_comm 1, Nat.add_le_add_iff_right]

/-! ## What follows for compiled plans -/

/-- A compiled plan loses, adds and reorders nothing: it is read back as the only
root where that is no option, and otherwise as the forest below the given title.
Every branch has the index and the label of its own body's title. -/
theorem decompile_compile (limit : Nat) (title : String) (forest : Forest) (step : Step)
    (compiled : compile limit title forest = .ok step) :
    (forall single, forest = [single] -> single.isOption = false -> step.decompile = single) ∧
      ((forall single, forest = [single] -> single.isOption = true) ->
        step.decompile = ⟨title, forest⟩) ∧
      forall branch, step.HasBranch branch ->
        branch.body.optionTitle? = some ⟨branch.index, branch.label⟩ := by
  rcases (compile_eq_ok_iff ..).mp compiled with ⟨_, wellFormed, read, _⟩
  refine ⟨fun single only plain => ?_, fun wrapped => ?_, fun branch found => ?_⟩
  · subst only
    rw [read, asSection_of_plain_root title plain]
  · rw [read, asSection_of_no_plain_root title forest wrapped]
  · exact wellFormed.optionTitle?_of_hasBranch found

/-- Options out of order, an option among the members of an option, and commands
that look like options. -/
def nestedOptions : Forest :=
  [⟨"Pick",
    [⟨"Option 2: later", [.command "Option 3: text"]⟩,
      ⟨"Option 1: sooner", [⟨"Option 1: inner", [.command "echo"]⟩]⟩]⟩,
    .command "Option 1: text"]

def nestedOptionsPlan : Step :=
  .sequence "doc"
    [.choice "Pick"
      [⟨2, "later", .sequence "Option 2: later" [.task "Option 3: text"]⟩,
        ⟨1, "sooner", .choice "Option 1: sooner"
          [⟨1, "inner", .sequence "Option 1: inner" [.task "echo"]⟩]⟩],
      .task "Option 1: text"]

theorem decompile_compile_nestedOptions :
    compile 4 "doc" nestedOptions = .ok nestedOptionsPlan ∧
      nestedOptionsPlan.decompile = ⟨"doc", nestedOptions⟩ :=
  ⟨rfl, (decompile_compile 4 "doc" nestedOptions nestedOptionsPlan rfl).2.1
    (fun _ impossible => by cases impossible)⟩

/-- The compiled plans are the well-formed ones.  Whatever compiles is well
formed, with positive indices and with labels that are not blank; and every
well-formed step that is not titled as an option is compiled again from what it is
read back as, under any title and any limit that this is within. -/
theorem compile_image_wellFormed :
    (forall limit title forest step, compile limit title forest = .ok step ->
      step.WellFormed ∧ forall branch, step.HasBranch branch ->
        0 < branch.index ∧ Exists fun character =>
          character ∈ branch.label.toList ∧ Blank.isBlank character = false) ∧
      forall step, step.WellFormed -> step.optionTitle? = none ->
        forall limit title, step.decompile.depth ≤ limit ->
          compile limit title [step.decompile] = .ok step := by
  constructor
  · intro limit title forest step compiled
    rcases (compile_eq_ok_iff ..).mp compiled with ⟨_, wellFormed, _, _⟩
    refine ⟨wellFormed, fun branch found => ?_⟩
    exact Step.pos_and_not_blank_of_optionTitle? (wellFormed.optionTitle?_of_hasBranch found)
  · intro step wellFormed untitled limit title within
    have plain : step.decompile.isOption = false := by
      rw [Section.isOption_eq_false_iff, wellFormed.option?_decompile, untitled]
    rw [compile_eq_ok_iff, asSection_of_plain_root title plain, List.forall_mem_singleton]
    exact ⟨List.cons_ne_nil step.decompile [], wellFormed, rfl, within⟩

theorem compile_image_wellFormed_nestedOptions :
    nestedOptionsPlan.WellFormed ∧
      compile 5 "other" [nestedOptionsPlan.decompile] = .ok nestedOptionsPlan := by
  have wellFormed : nestedOptionsPlan.WellFormed :=
    (compile_image_wellFormed.1 4 "doc" nestedOptions nestedOptionsPlan rfl).1
  exact ⟨wellFormed, compile_image_wellFormed.2 nestedOptionsPlan wellFormed rfl 5 "other"
    (by decide)⟩

end Forest
end Guidebook
