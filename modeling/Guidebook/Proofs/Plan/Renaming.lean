import Guidebook.Proofs.Plan.Decompilation
import Guidebook.Proofs.Plan.Limit
import Guidebook.Proofs.Section.Renaming

namespace Guidebook

/-!
# Compilation under other names

Names are read by compilation for the option titles in them, and repeated otherwise:
in steps as titles and commands, and in violations as what they are about.  So a
renaming that keeps the titles leaves every judgement as it is.  Two forests that
differ by it have flaws at the same positions, and of the same kind.

What is said of violations is therefore said position by position.  A violation
answers another one when both say the same of the same section, the first under its
old name and the second under its new one.  The title of the forest is no name of a
section and is not renamed.
-/

/-- Two outcomes of the same kind: steps of which one answers the other, or violations
of which one does. -/
inductive Alike (steps : Step -> Step -> Prop) (violations : Violation -> Violation -> Prop) :
    Except Violation Step -> Except Violation Step -> Prop
  | ok {step answer : Step} (answered : steps step answer) :
      Alike steps violations (.ok step) (.ok answer)
  | error {violation answer : Violation} (answered : violations violation answer) :
      Alike steps violations (.error violation) (.error answer)

variable {rename : Section -> String}

namespace Forest

/-! ## Groups in disorder -/

theorem allOptions_renamed_iff (keeps : Section.KeepsTitles rename) (group : Forest) :
    (group.renamed rename).AllOptions ↔ group.AllOptions := by
  rw [renamed_eq_map, AllOptions, List.forall_mem_map, AllOptions]
  simp only [Section.isOption_renamed keeps]

theorem noOptions_renamed_iff (keeps : Section.KeepsTitles rename) (group : Forest) :
    (group.renamed rename).NoOptions ↔ group.NoOptions := by
  rw [renamed_eq_map, NoOptions, List.forall_mem_map, NoOptions]
  simp only [Section.isOption_renamed keeps]

theorem indices_renamed (keeps : Section.KeepsTitles rename) (group : Forest) :
    indices (group.renamed rename) = indices group := by
  have titles : Section.option? ∘ Section.renamed rename = Section.option? :=
    funext (Section.option?_renamed keeps)
  rw [indices, renamed_eq_map, List.filterMap_map, titles, indices]

theorem length_renamed (group : Forest) : (group.renamed rename).length = group.length := by
  rw [renamed_eq_map, List.length_map]

theorem countP_renamed {kind : Section -> Bool}
    (kept : forall subject : Section, kind (subject.renamed rename) = kind subject)
    (group : Forest) : (group.renamed rename).countP kind = group.countP kind := by
  have same : kind ∘ Section.renamed rename = kind := funext kept
  rw [renamed_eq_map, List.countP_map, same]

/-- What a group is refused for, under the old names and under the new ones.  The
group itself has a title before and after. -/
inductive Refused (rename : Section -> String) (title newTitle : String) (position : Position)
    (group : Forest) : Violation -> Violation -> Prop
  | mixed {offender : Section} (differs : offender? group = some offender)
      (options others : Nat) :
      Refused rename title newTitle position group
        (.mixedSiblings title position offender.name options others)
        (.mixedSiblings newTitle position (rename offender) options others)
  | repeated {place : Nat} {again : Section} (listed : group[place]? = some again)
      (index : UInt32) :
      Refused rename title newTitle position group
        (.duplicateIndex again.name (position.child place) index)
        (.duplicateIndex (rename again) (position.child place) index)

/-- A group in disorder is in the same disorder under the new names. -/
theorem Disorder.renamed (keeps : Section.KeepsTitles rename) {title : String}
    {position : Position} {group : Forest} {violation : Violation}
    (disorder : Disorder title position group violation) (newTitle : String) :
    Exists fun answer => Disorder newTitle position (group.renamed rename) answer ∧
      group.Refused rename title newTitle position violation answer := by
  cases disorder with
  | @mixed first offender before after split alike differs =>
      have newSplit : group.renamed rename = first.renamed rename ::
          (before.renamed rename ++ offender.renamed rename :: Forest.renamed rename after) := by
        simp only [split, renamed_eq_map, List.map_cons, List.map_append]
      have newAlike : forall member, member ∈ before.renamed rename ->
          member.isOption = (first.renamed rename).isOption := by
        rw [renamed_eq_map]
        refine List.forall_mem_map.mpr (fun member listed => ?_)
        rw [Section.isOption_renamed keeps, Section.isOption_renamed keeps, alike member listed]
      have newDiffers : (offender.renamed rename).isOption ≠ (first.renamed rename).isOption := by
        rw [Section.isOption_renamed keeps, Section.isOption_renamed keeps]
        exact differs
      have found : offender? group = some offender := by
        rw [split]
        exact offender?_append alike differs
      have answer : Disorder newTitle position (group.renamed rename) _ :=
        .mixed newSplit newAlike newDiffers
      -- No member changes sides, so both counts are as before.
      rw [Section.name_renamed, countP_renamed (Section.isOption_renamed keeps),
        countP_renamed (fun member => by rw [Section.isOption_renamed keeps])] at answer
      exact ⟨_, answer, .mixed found _ _⟩
  | @repeated again before after read options split fresh titled known =>
      have newSplit : group.renamed rename =
          before.renamed rename ++ again.renamed rename :: Forest.renamed rename after := by
        simp only [split, renamed_eq_map, List.map_cons, List.map_append]
      have listed : group[before.length]? = some again := by
        rw [split, List.getElem?_append_right (Nat.le_refl _), Nat.sub_self,
          List.getElem?_cons_zero]
      have answer : Disorder newTitle position (group.renamed rename) _ :=
        .repeated ((allOptions_renamed_iff keeps group).mpr options) newSplit
          ((indices_renamed keeps before).symm ▸ fresh)
          ((Section.option?_renamed keeps again).trans titled)
          ((indices_renamed keeps before).symm ▸ known)
      rw [Section.name_renamed, length_renamed] at answer
      exact ⟨_, answer, .repeated listed _⟩

/-- A group is in disorder when it is so under the new names. -/
theorem exists_disorder_of_renamed (keeps : Section.KeepsTitles rename) (title : String)
    {newTitle : String} {position : Position} {group : Forest} {answer : Violation}
    (disorder : Disorder newTitle position (group.renamed rename) answer) :
    Exists fun violation => Disorder title position group violation := by
  have refused := shape_of_disorder disorder
  -- What a group must satisfy to pass is asked of titles alone, and is the same for both.
  have passes : ¬ Exists fun passed =>
      shape newTitle position (group.renamed rename) = .ok passed := by
    rintro ⟨passed, judged⟩
    cases refused.symm.trans judged
  rw [exists_shape_iff, ne_eq, renamed_eq_nil_iff, allOptions_renamed_iff keeps,
    noOptions_renamed_iff keeps, indices_renamed keeps] at passes
  have nonempty : group ≠ [] := by
    rintro rfl
    cases refused.symm.trans (shape_nil newTitle position)
    cases disorder
  have notNone : ¬ NoOptions group := fun plain =>
    passes ⟨nonempty, Or.inr plain, fun options =>
      False.elim (not_noOptions_of_allOptions nonempty options plain)⟩
  exact exists_disorder title position nonempty notNone
    (fun choice => passes ⟨nonempty, Or.inl choice.1, fun _ => choice.2⟩)

end Forest

/-! ## Flaws of a forest -/

/-- Two violations that say the same of the same section of a forest, or of its roots:
one under the old names and the other under the new ones. -/
inductive Violation.RenamedIn (rename : Section -> String) (title : String) (forest : Forest) :
    Violation -> Violation -> Prop
  | empty :
      RenamedIn rename title forest (.emptyContainer title .root) (.emptyContainer title .root)
  | roots {violation answer : Violation}
      (refused : forest.Refused rename title title .root violation answer) :
      RenamedIn rename title forest violation answer
  | members {position : Position} {subject : Section} {violation answer : Violation}
      (stands : forest.at? position.indices = some subject)
      (refused : subject.members.Refused rename subject.name (rename subject) position
        violation answer) :
      RenamedIn rename title forest violation answer
  | tooDeep {position : Position} {subject : Section}
      (stands : forest.at? position.indices = some subject) (limit : Nat) :
      RenamedIn rename title forest (.malformed subject.name position (.tooDeep limit))
        (.malformed (rename subject) position (.tooDeep limit))

namespace Forest

theorem at?_renamed (path : List Nat) (forest : Forest) :
    (forest.renamed rename).at? path = (forest.at? path).map (Section.renamed rename) := by
  cases path with
  | nil => rfl
  | cons index rest =>
      rw [at?, at?, renamed_eq_map, List.getElem?_map]
      cases forest[index]? with
      | none => rfl
      | some member => exact Section.at?_renamed rest member

theorem flawAt_renamed (keeps : Section.KeepsTitles rename) {limit : Nat} {title : String}
    {forest : Forest} {path : List Nat} {violation : Violation}
    (flaw : Section.FlawAt limit .root ⟨title, forest⟩ path violation) :
    Exists fun answer =>
      Section.FlawAt limit .root ⟨title, forest.renamed rename⟩ path answer ∧
        violation.RenamedIn rename title forest answer := by
  rcases flaw with ⟨subject, stands, flaw⟩
  by_cases root : path = []
  · subst root
    cases stands
    cases flaw with
    | tooDeep beyond => cases beyond
    | disorder within disorder =>
        rcases disorder.renamed keeps title with ⟨answer, answered, refused⟩
        exact ⟨answer, ⟨_, rfl, .disorder within answered⟩, .roots refused⟩
  · rw [at?_mk_of_ne_nil title forest root] at stands
    have newStands : Section.at? path ⟨title, forest.renamed rename⟩ =
        some (subject.renamed rename) := by
      rw [at?_mk_of_ne_nil title _ root, at?_renamed, stands]
      rfl
    cases flaw with
    | tooDeep beyond =>
        have answered : Section.Flaw limit _ (subject.renamed rename) _ := .tooDeep beyond
        rw [Section.name_renamed] at answered
        exact ⟨_, ⟨_, newStands, answered⟩, .tooDeep stands limit⟩
    | disorder within disorder =>
        rcases disorder.renamed keeps (rename subject) with ⟨answer, answered, refused⟩
        refine ⟨answer, ⟨_, newStands, .disorder within ?_⟩, .members stands refused⟩
        rw [Section.name_renamed, Section.members_renamed]
        exact answered

theorem exists_flawAt_of_renamed (keeps : Section.KeepsTitles rename) {limit : Nat}
    {title : String} {forest : Forest} {path : List Nat} {answer : Violation}
    (flaw : Section.FlawAt limit .root ⟨title, forest.renamed rename⟩ path answer) :
    Exists fun violation => Section.FlawAt limit .root ⟨title, forest⟩ path violation := by
  rcases flaw with ⟨subject, stands, flaw⟩
  by_cases root : path = []
  · subst root
    cases stands
    cases flaw with
    | tooDeep beyond => cases beyond
    | disorder within disorder =>
        rcases exists_disorder_of_renamed keeps title disorder with ⟨violation, found⟩
        exact ⟨violation, _, rfl, .disorder within found⟩
  · rw [at?_mk_of_ne_nil title _ root, at?_renamed] at stands
    rcases Option.map_eq_some_iff.mp stands with ⟨own, ownStands, rfl⟩
    rw [← at?_mk_of_ne_nil title forest root] at ownStands
    cases flaw with
    | tooDeep beyond => exact ⟨_, own, ownStands, .tooDeep beyond⟩
    | disorder within disorder =>
        rw [Section.members_renamed] at disorder
        rcases exists_disorder_of_renamed keeps own.name disorder with ⟨violation, found⟩
        exact ⟨violation, own, ownStands, .disorder within found⟩

/-! ## Compilation -/

/-- A forest that fails does so under the new names too, with the violation that says
the same. -/
theorem exists_compile_error_renamed (keeps : Section.KeepsTitles rename) {limit : Nat}
    {title : String} {forest : Forest} {violation : Violation}
    (failed : compile limit title forest = .error violation) :
    Exists fun answer => compile limit title (forest.renamed rename) = .error answer ∧
      violation.RenamedIn rename title forest answer := by
  by_cases empty : forest = []
  · subst empty
    cases failed
    exact ⟨_, rfl, .empty⟩
  · have first := (compile_eq_error_iff_firstFlaw limit title empty violation).mp failed
    rcases first.transfer (fun path found flaw => flawAt_renamed keeps flaw)
      (fun path answer flaw => exists_flawAt_of_renamed keeps flaw) with ⟨answer, answered, same⟩
    have some : forest.renamed rename ≠ [] := fun none =>
      empty ((renamed_eq_nil_iff forest).mp none)
    exact ⟨answer, (compile_eq_error_iff_firstFlaw limit title some answer).mpr answered, same⟩

theorem asSection_renamed_of_plain_root (keeps : Section.KeepsTitles rename) (title : String)
    {single : Section} (plain : single.isOption = false) :
    asSection title (Forest.renamed rename [single]) = single.renamed rename := by
  have stillPlain := (Section.isOption_renamed keeps single).trans plain
  rw [renamed_eq_map, List.map_singleton, asSection_of_plain_root title stillPlain]

theorem asSection_renamed_of_no_plain_root (keeps : Section.KeepsTitles rename) (title : String)
    (forest : Forest) (wrapped : forall root, forest = [root] -> root.isOption = true) :
    (forest.renamed rename).asSection title = ⟨title, forest.renamed rename⟩ := by
  apply asSection_of_no_plain_root
  intro root only
  rw [renamed_eq_map, List.map_eq_singleton_iff] at only
  rcases only with ⟨own, single, rfl⟩
  rw [Section.isOption_renamed keeps, wrapped own single]

/-- Under new names a forest compiles to the revised step, or fails with the violation
that says the same.  A revision of steps is right for a renaming when it gives
well-formed steps that stand for the renamed forest. -/
theorem compile_renamed (keeps : Section.KeepsTitles rename) (limit : Nat) (title : String)
    (forest : Forest) {revise : Step -> Step}
    (right : forall step, forest ≠ [] -> step.WellFormed ->
      step.decompile = forest.asSection title ->
        (revise step).WellFormed ∧
          (revise step).decompile = (forest.renamed rename).asSection title) :
    Alike (fun step answer => answer = revise step) (Violation.RenamedIn rename title forest)
      (compile limit title forest) (compile limit title (forest.renamed rename)) := by
  cases outcome : compile limit title forest with
  | ok step =>
      rcases (compile_eq_ok_iff ..).mp outcome with ⟨nonempty, wellFormed, read, within⟩
      rcases right step nonempty wellFormed read with ⟨revisedFormed, revisedRead⟩
      have levels : forall root, root ∈ forest.renamed rename -> root.depth ≤ limit := by
        rw [renamed_eq_map]
        refine List.forall_mem_map.mpr (fun root listed => ?_)
        rw [Section.depth_renamed]
        exact within root listed
      rw [(compile_eq_ok_iff limit title (forest.renamed rename) (revise step)).mpr
        ⟨fun none => nonempty ((renamed_eq_nil_iff forest).mp none), revisedFormed, revisedRead,
          levels⟩]
      exact .ok rfl
  | error violation =>
      rcases exists_compile_error_renamed keeps outcome with ⟨answer, answered, same⟩
      rw [answered]
      exact .error same

end Forest
end Guidebook
