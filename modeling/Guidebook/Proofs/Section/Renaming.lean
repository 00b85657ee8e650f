import Guidebook.Proofs.Section.Members
import Guidebook.Proofs.Section.Position
import Guidebook.Section.Title

namespace Guidebook

/-!
# Sections under other names

All names of a forest are exchanged at once, and nothing else: every section keeps
its members and their order.  What a section is called from now on may depend on
the whole of it, so that commands and options can be singled out.

A renaming keeps the titles when a section with members reads as the same option
title as before, or as none.  This is all that roles depend on.  Nothing is asked of
the text of a command, which may become anything and is a command all the same.
-/

mutual
/-- A section under its new name, with everything below it renamed.  The new name is
told from the section as it was. -/
def Section.renamed (rename : Section -> String) : Section -> Section
  | ⟨name, members⟩ => ⟨rename ⟨name, members⟩, Forest.renamed rename members⟩

/-- A forest with all its sections renamed. -/
def Forest.renamed (rename : Section -> String) : Forest -> Forest
  | [] => []
  | first :: rest => first.renamed rename :: Forest.renamed rename rest
end

variable {rename : Section -> String}

theorem Forest.renamed_eq_map (forest : Forest) :
    forest.renamed rename = forest.map (Section.renamed rename) := by
  induction forest with
  | nil => rfl
  | cons first rest inductionHypothesis =>
      rw [Forest.renamed, inductionHypothesis, List.map_cons]

theorem Forest.renamed_eq_nil_iff (forest : Forest) :
    forest.renamed rename = [] ↔ forest = [] := by
  rw [Forest.renamed_eq_map, List.map_eq_nil_iff]

namespace Section

theorem renamed_eq (subject : Section) :
    subject.renamed rename = ⟨rename subject, subject.members.renamed rename⟩ := by
  cases subject with
  | mk name members => rw [renamed, members_mk]

@[simp] theorem name_renamed (subject : Section) :
    (subject.renamed rename).name = rename subject := by
  rw [renamed_eq, name_mk]

@[simp] theorem members_renamed (subject : Section) :
    (subject.renamed rename).members = subject.members.renamed rename := by
  rw [renamed_eq, members_mk]

theorem isCommand_renamed (subject : Section) :
    (subject.renamed rename).isCommand = subject.isCommand := by
  rw [isCommand, members_renamed, Forest.renamed_eq_map, List.isEmpty_map, isCommand]

/-! ## Roles -/

/-- A section with members reads as the same option title under its new name, or as
none under both. -/
def KeepsTitles (rename : Section -> String) : Prop :=
  forall subject : Section, subject.isCommand = false ->
    OptionTitle.parse? (rename subject) = OptionTitle.parse? subject.name

theorem option?_renamed (keeps : KeepsTitles rename) (subject : Section) :
    (subject.renamed rename).option? = subject.option? := by
  rw [option?, isCommand_renamed, name_renamed, option?]
  cases command : subject.isCommand with
  | true => rfl
  | false => rw [keeps subject command]

theorem isOption_renamed (keeps : KeepsTitles rename) (subject : Section) :
    (subject.renamed rename).isOption = subject.isOption := by
  rw [isOption, option?_renamed keeps, isOption]

/-! ## Levels and positions -/

theorem depth_renamed (subject : Section) : (subject.renamed rename).depth = subject.depth := by
  induction subject using member_induction with
  | above name members inductionHypothesis =>
      have below : Forest.depth (Forest.renamed rename members) = Forest.depth members := by
        induction members with
        | nil => rfl
        | cons first rest restHypothesis =>
            rw [Forest.renamed, Forest.depth, Forest.depth,
              inductionHypothesis first List.mem_cons_self,
              restHypothesis (fun member listed =>
                inductionHypothesis member (List.mem_cons_of_mem first listed))]
      rw [renamed, depth, depth, below]

/-- A path leads to the same section as before, under its new name. -/
theorem at?_renamed (path : List Nat) (subject : Section) :
    (subject.renamed rename).at? path = (subject.at? path).map (renamed rename) := by
  induction path generalizing subject with
  | nil => rfl
  | cons index rest inductionHypothesis =>
      rw [at?, at?, members_renamed, Forest.renamed_eq_map, List.getElem?_map]
      cases subject.members[index]? with
      | none => rfl
      | some member => exact inductionHypothesis member

end Section
end Guidebook
