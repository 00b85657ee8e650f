import Guidebook.Proofs.Plan.Renaming
import Guidebook.Proofs.Section.Spelling

namespace Guidebook

/-!
# Plans of spelled titles

The title of an option is read for its index and its label, which its canonical
spelling writes too.  Spelling out every option of a forest therefore changes a
plan only where a title is repeated as it stood: at the bodies of branches.  A
branch holds the index and the label that the title of its body is spelled from, so
the change can be made on the plan alone.
-/

namespace Step

/-! ## Bodies under their spelling -/

/-- A step under another title.  A task has none. -/
def retitled (title : String) : Step -> Step
  | .task command => .task command
  | .sequence _ steps => .sequence title steps
  | .choice _ branches => .choice title branches

mutual
/-- A step in which the bodies of branches, at any level, have the spelling of their
branch as title.  The title of the step itself is left as it is. -/
def respelled : Step -> Step
  | .task command => .task command
  | .sequence title steps => .sequence title (respelledSteps steps)
  | .choice title branches => .choice title (respelledBranches branches)

def respelledSteps : List Step -> List Step
  | [] => []
  | first :: rest => first.respelled :: respelledSteps rest

def respelledBranches : List (Branch Step) -> List (Branch Step)
  | [] => []
  | ⟨index, label, body⟩ :: rest =>
    ⟨index, label, body.respelled.retitled (OptionTitle.text ⟨index, label⟩)⟩ ::
      respelledBranches rest
end

theorem respelledSteps_eq_map (steps : List Step) :
    respelledSteps steps = steps.map respelled := by
  induction steps with
  | nil => rfl
  | cons first rest inductionHypothesis =>
      rw [respelledSteps, inductionHypothesis, List.map_cons]

theorem respelledBranches_eq_map (branches : List (Branch Step)) :
    respelledBranches branches =
      branches.map fun branch =>
        { branch with body := branch.body.respelled.retitled branch.title.text } := by
  induction branches with
  | nil => rfl
  | cons first rest inductionHypothesis =>
      rw [respelledBranches, inductionHypothesis, List.map_cons]
      rfl

/-! ## Well-formed steps -/

theorem optionTitle?_respelled (step : Step) : step.respelled.optionTitle? = step.optionTitle? := by
  cases step <;> rw [respelled] <;> rfl

theorem optionTitle?_retitled {step : Step} {title : OptionTitle}
    (titled : step.optionTitle? = some title) :
    (step.retitled title.text).optionTitle? = some title := by
  cases step with
  | task command => cases titled
  | sequence name steps => exact OptionTitle.parse?_text_of_parse? titled
  | choice name branches => exact OptionTitle.parse?_text_of_parse? titled

theorem WellFormed.retitled {step : Step} (wellFormed : step.WellFormed) (title : String) :
    (step.retitled title).WellFormed := by
  cases wellFormed with
  | task command => exact .task command
  | sequence nonempty plain members => exact .sequence nonempty plain members
  | choice nonempty different titled members => exact .choice nonempty different titled members

theorem WellFormed.respelled {step : Step} (wellFormed : step.WellFormed) :
    step.respelled.WellFormed := by
  induction wellFormed with
  | task command => exact .task command
  | @sequence title steps nonempty plain members inductionHypothesis =>
      rw [Step.respelled, respelledSteps_eq_map]
      refine .sequence (by simpa using nonempty) ?_ (List.forall_mem_map.mpr inductionHypothesis)
      refine List.forall_mem_map.mpr (fun step listed => ?_)
      rw [optionTitle?_respelled, plain step listed]
  | @choice title branches nonempty different titled members inductionHypothesis =>
      rw [Step.respelled, respelledBranches_eq_map]
      refine .choice (by simpa using nonempty) ?_ ?_ ?_
      · rw [List.map_map]
        exact different
      · refine List.forall_mem_map.mpr (fun branch listed => ?_)
        exact optionTitle?_retitled ((optionTitle?_respelled _).trans (titled branch listed))
      · exact List.forall_mem_map.mpr
          (fun branch listed => (inductionHypothesis branch listed).retitled _)

/-! ## What respelled steps stand for -/

theorem decompile_retitled {step : Step} {own : OptionTitle}
    (titled : step.optionTitle? = some own) (title : String) :
    (step.retitled title).decompile = ⟨title, step.decompile.members⟩ := by
  cases step with
  | task command => cases titled
  | sequence name steps => rw [retitled, decompile_sequence, decompile_sequence, Section.members_mk]
  | choice name branches => rw [retitled, decompile_choice, decompile_choice, Section.members_mk]

/-- The respelled step stands for the section with everything below it spelled. -/
theorem WellFormed.decompile_respelled {step : Step} (wellFormed : step.WellFormed) :
    step.respelled.decompile =
      ⟨step.decompile.name, step.decompile.members.renamed Section.spelling⟩ := by
  induction wellFormed with
  | task command => rfl
  | @sequence title steps nonempty plain members inductionHypothesis =>
      rw [Step.respelled, respelledSteps_eq_map, decompile_sequence, decompile_sequence,
        Section.name_mk, Section.members_mk, Forest.renamed_eq_map, List.map_map, List.map_map]
      refine congrArg _ (List.map_congr_left (fun step listed => ?_))
      have untitled := (members step listed).option?_decompile.trans (plain step listed)
      rw [Function.comp_apply, Function.comp_apply, Section.renamed_eq,
        Section.spelling_of_no_option untitled]
      exact inductionHypothesis step listed
  | @choice title branches nonempty different titled members inductionHypothesis =>
      rw [Step.respelled, respelledBranches_eq_map, decompile_choice, decompile_choice,
        Section.name_mk, Section.members_mk, Forest.renamed_eq_map, List.map_map, List.map_map,
        List.map_map, List.map_map]
      refine congrArg _ (List.map_congr_left (fun branch listed => ?_))
      -- The title of the body reads as that of its branch, so both have one spelling.
      have own := titled branch listed
      have read := (members branch listed).option?_decompile.trans own
      rw [Function.comp_apply, Function.comp_apply, Function.comp_apply, Function.comp_apply,
        decompile_retitled ((optionTitle?_respelled _).trans own),
        inductionHypothesis branch listed, Section.members_mk, Section.renamed_eq,
        Section.spelling_of_option? read]

end Step

namespace Forest

/-- The spelling of a title is read back exactly when the title is canonical.  So
every option of a forest can be called by the spelling of its title, and the outcome
is the same but for this: the bodies of branches have their spelling as title, and a
violation calls the options that it quotes by theirs. -/
theorem compile_spelled_titles :
    (forall title : OptionTitle, OptionTitle.parse? title.text = some title ↔ title.IsCanonical) ∧
      forall (limit : Nat) (title : String) (forest : Forest),
        Alike (fun step answer => answer = step.respelled)
          (Violation.RenamedIn Section.spelling title forest)
          (compile limit title forest)
          (compile limit title (forest.renamed Section.spelling)) := by
  refine ⟨OptionTitle.parse?_text_iff, fun limit title forest => ?_⟩
  have keeps := Section.keepsTitles_spelling
  apply compile_renamed keeps
  intro step nonempty wellFormed read
  refine ⟨wellFormed.respelled, ?_⟩
  rw [wellFormed.decompile_respelled, read]
  rcases plain_root_or_wrapped forest with ⟨single, rfl, plain⟩ | wrapped
  · have untitled := (Section.isOption_eq_false_iff single).mp plain
    rw [asSection_of_plain_root title plain, asSection_renamed_of_plain_root keeps title plain,
      Section.renamed_eq, Section.spelling_of_no_option untitled]
  · rw [asSection_of_no_plain_root title forest wrapped,
      asSection_renamed_of_no_plain_root keeps title forest wrapped, Section.name_mk,
      Section.members_mk]

end Forest
end Guidebook
