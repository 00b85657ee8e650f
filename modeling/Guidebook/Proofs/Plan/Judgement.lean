import Guidebook.Plan.Compilation
import Mathlib.Data.List.Induction
import Mathlib.Data.List.Nodup

namespace Guidebook

/-!
# The judgement of a sibling group

A group passes when it has members, is of one kind, and repeats no index.  What
is wrong with a group that does not pass is described here by how its member
list splits: at the first member of the other kind, or at the first option whose
index an earlier one has.  Neither description mentions the scans that find the
place.  The laws of the judgement say that each of the three outcomes is reached
exactly on the groups described.
-/

namespace Section

theorem isOption_eq_true_iff (subject : Section) :
    subject.isOption = true ↔ Exists fun title => subject.option? = some title :=
  Option.isSome_iff_exists

theorem isOption_eq_false_iff (subject : Section) :
    subject.isOption = false ↔ subject.option? = none := by
  rw [isOption, Option.isSome_eq_false_iff, Option.isNone_iff_eq_none]

end Section

namespace Forest

/-! ## Groups of one kind -/

/-- Every member is an option. -/
def AllOptions (group : Forest) : Prop :=
  forall member, member ∈ group -> member.isOption = true

/-- No member is an option. -/
def NoOptions (group : Forest) : Prop :=
  forall member, member ∈ group -> member.isOption = false

/-- The indices of the options of a group, in order and with repetitions. -/
def indices (group : Forest) : List UInt32 :=
  (group.filterMap Section.option?).map OptionTitle.index

@[simp] theorem indices_nil : indices [] = [] := rfl

theorem indices_cons_option {first : Section} {title : OptionTitle}
    (read : first.option? = some title) (rest : Forest) :
    indices (first :: rest) = title.index :: indices rest := by
  rw [indices, List.filterMap_cons_some read, List.map_cons, indices]

theorem indices_cons_plain {first : Section} (plain : first.option? = none) (rest : Forest) :
    indices (first :: rest) = indices rest := by
  rw [indices, List.filterMap_cons_none plain, indices]

theorem indices_append (front back : Forest) :
    indices (front ++ back) = indices front ++ indices back := by
  rw [indices, List.filterMap_append, List.map_append, indices, indices]

theorem filterMap_option?_eq_nil_iff (group : Forest) :
    group.filterMap Section.option? = [] ↔ NoOptions group := by
  rw [List.filterMap_eq_nil_iff]
  simp only [NoOptions, Section.isOption_eq_false_iff]

theorem length_filterMap_option?_iff (group : Forest) :
    (group.filterMap Section.option?).length = group.length ↔ AllOptions group :=
  List.filterMap_length_eq_length

/-- A group with members is not of both kinds. -/
theorem not_noOptions_of_allOptions {group : Forest} (nonempty : group ≠ [])
    (options : AllOptions group) : ¬ NoOptions group := by
  intro plain
  cases group with
  | nil => exact nonempty rfl
  | cons first rest =>
      have isOption := options first List.mem_cons_self
      rw [plain first List.mem_cons_self] at isOption
      cases isOption

theorem isEmpty_titles {group : Forest} (notNone : ¬ NoOptions group) :
    (group.filterMap Section.option?).isEmpty = false :=
  List.isEmpty_eq_false_iff.mpr
    (fun empty => notNone ((filterMap_option?_eq_nil_iff group).mp empty))

/-- Where all members are options, their titles are read in order. -/
theorem map_option?_of_allOptions (group : Forest) (options : AllOptions group) :
    group.map Section.option? = (group.filterMap Section.option?).map some := by
  induction group with
  | nil => rfl
  | cons first rest inductionHypothesis =>
      have restOptions : AllOptions rest :=
        fun member listed => options member (List.mem_cons_of_mem first listed)
      rcases (Section.isOption_eq_true_iff first).mp (options first List.mem_cons_self) with
        ⟨title, read⟩
      rw [List.map_cons, List.filterMap_cons_some read, List.map_cons,
        inductionHypothesis restOptions, read]

/-! ## Groups in disorder -/

/-- What is wrong with a titled group of siblings at a position.  The offender of
a mixed group is its first member that is an option where the first member is
none, or the other way round; the repetition in a group of options is the first
one whose index an earlier sibling has. -/
inductive Disorder (title : String) (position : Position) (group : Forest) : Violation -> Prop
  | mixed {first offender : Section} {before after : Forest}
      (split : group = first :: (before ++ offender :: after))
      (alike : forall member, member ∈ before -> member.isOption = first.isOption)
      (differs : offender.isOption ≠ first.isOption) :
      Disorder title position group (.mixedSiblings title position offender.name
        (group.countP Section.isOption) (group.countP fun member => !member.isOption))
  | repeated {again : Section} {before after : Forest} {read : OptionTitle}
      (options : AllOptions group)
      (split : group = before ++ again :: after) (fresh : (indices before).Nodup)
      (titled : again.option? = some read) (known : read.index ∈ indices before) :
      Disorder title position group
        (.duplicateIndex again.name (position.child before.length) read.index)

/-- The offender is found at the first place where the kind changes. -/
theorem offender?_append {first offender : Section} {before after : Forest}
    (alike : forall member, member ∈ before -> member.isOption = first.isOption)
    (differs : offender.isOption ≠ first.isOption) :
    offender? (first :: (before ++ offender :: after)) = some offender := by
  rw [offender?]
  apply List.find?_eq_some_iff_append.mpr
  refine ⟨bne_iff_ne.mpr differs, before, after, rfl, fun member listed => ?_⟩
  rw [alike member listed, bne_self_eq_false, Bool.not_false]

/-- A group of neither kind changes its kind somewhere for the first time. -/
theorem exists_offender {first : Section} {rest : Forest}
    (notAll : ¬ AllOptions (first :: rest)) (notNone : ¬ NoOptions (first :: rest)) :
    Exists fun before => Exists fun offender => Exists fun after =>
      rest = before ++ offender :: after ∧
        (forall member, member ∈ before -> member.isOption = first.isOption) ∧
        offender.isOption ≠ first.isOption := by
  cases found : rest.find? fun member => member.isOption != first.isOption with
  | some offender =>
      rcases List.find?_eq_some_iff_append.mp found with ⟨differs, before, after, split, alike⟩
      refine ⟨before, offender, after, split, fun member listed => ?_, bne_iff_ne.mp differs⟩
      simpa using alike member listed
  | none =>
      have alike : forall member, member ∈ first :: rest -> member.isOption = first.isOption := by
        intro member listed
        rcases List.mem_cons.mp listed with same | later
        · rw [same]
        · simpa using List.find?_eq_none.mp found member later
      cases kind : first.isOption with
      | true => exact False.elim (notAll fun member listed => (alike member listed).trans kind)
      | false => exact False.elim (notNone fun member listed => (alike member listed).trans kind)

/-- The scan passes over options whose indices are new, and has seen them from
then on. -/
theorem repeated?_skip {before : Forest} {seen : List UInt32} (place : Nat) (after : Forest)
    (fresh : (indices before).Nodup)
    (unseen : forall index, index ∈ indices before -> index ∉ seen) :
    repeated? seen place (before ++ after) =
      repeated? ((indices before).reverse ++ seen) (place + before.length) after := by
  induction before generalizing seen place with
  | nil => rfl
  | cons first rest inductionHypothesis =>
      rw [List.cons_append, repeated?, List.length_cons, Nat.add_comm rest.length,
        ← Nat.add_assoc]
      cases opens : first.option? with
      | none =>
          rw [indices_cons_plain opens] at fresh unseen ⊢
          exact inductionHypothesis (place + 1) fresh unseen
      | some title =>
          -- The index read here joins those seen, so the rest must be new to it as well.
          rw [indices_cons_option opens] at fresh unseen ⊢
          have parts := List.nodup_cons.mp fresh
          have absent : seen.contains title.index = false := by
            have missing := unseen title.index List.mem_cons_self
            simpa using missing
          have later : forall index, index ∈ indices rest -> index ∉ title.index :: seen := by
            intro index listed inSeen
            rcases List.mem_cons.mp inSeen with same | earlier
            · exact parts.1 (same ▸ listed)
            · exact unseen index (List.mem_cons_of_mem _ listed) earlier
          simp only [absent, Bool.false_eq_true, if_false]
          rw [inductionHypothesis (place + 1) parts.2 later, List.reverse_cons,
            List.append_assoc, List.singleton_append]

/-- The repetition is found at the first place whose index stands before it. -/
theorem repeated?_append {again : Section} {before after : Forest} {read : OptionTitle}
    (fresh : (indices before).Nodup) (titled : again.option? = some read)
    (known : read.index ∈ indices before) :
    repeated? [] 0 (before ++ again :: after) = some (before.length, again, read.index) := by
  have seen : ((indices before).reverse ++ []).contains read.index = true := by
    rw [List.append_nil, List.contains_iff_mem, List.mem_reverse]
    exact known
  rw [repeated?_skip 0 (again :: after) fresh (fun _ _ => List.not_mem_nil), Nat.zero_add,
    repeated?, titled]
  simp only [seen, if_true]

theorem repeated?_eq_none {group : Forest} (fresh : (indices group).Nodup) :
    repeated? [] 0 group = none := by
  have skipped := repeated?_skip 0 [] fresh (fun _ _ => List.not_mem_nil)
  rw [List.append_nil] at skipped
  exact skipped

/-- Indices that are not all different repeat somewhere for the first time. -/
theorem exists_repetition {group : Forest} (repeats : ¬ (indices group).Nodup) :
    Exists fun before => Exists fun again => Exists fun after => Exists fun read =>
      group = before ++ again :: after ∧ (indices before).Nodup ∧
        again.option? = some read ∧ read.index ∈ indices before := by
  induction group using List.reverseRecOn with
  | nil => exact False.elim (repeats List.nodup_nil)
  | append_singleton front last inductionHypothesis =>
      by_cases fresh : (indices front).Nodup
      · cases titled : last.option? with
        | none =>
            rw [indices_append, indices_cons_plain titled, indices_nil, List.append_nil] at repeats
            exact False.elim (repeats fresh)
        | some read =>
            refine ⟨front, last, [], read, rfl, fresh, titled, ?_⟩
            rw [indices_append, indices_cons_option titled, indices_nil] at repeats
            by_cases known : read.index ∈ indices front
            · exact known
            · exact False.elim (repeats (List.nodup_append.mpr
                ⟨fresh, List.nodup_singleton _, fun left inFront right inLast same =>
                  known (List.mem_singleton.mp inLast ▸ same ▸ inFront)⟩))
      · rcases inductionHypothesis fresh with
          ⟨before, again, after, read, split, freshBefore, titled, known⟩
        refine ⟨before, again, after ++ [last], read, ?_, freshBefore, titled, known⟩
        rw [split, List.append_assoc, List.cons_append]

/-! ## What is judged -/

theorem shape_nil (title : String) (position : Position) :
    shape title position [] = .error (.emptyContainer title position) := rfl

theorem shape_of_noOptions (title : String) (position : Position) {group : Forest}
    (nonempty : group ≠ []) (plain : NoOptions group) :
    shape title position group = .ok .sequence := by
  have titles := (filterMap_option?_eq_nil_iff group).mpr plain
  simp only [shape, List.isEmpty_eq_false_iff.mpr nonempty, titles, List.isEmpty_nil,
    Bool.false_eq_true, if_false, if_true]

/-- Options with different indices make a choice of their titles. -/
theorem shape_of_allOptions (title : String) (position : Position) {group : Forest}
    (nonempty : group ≠ []) (options : AllOptions group) (fresh : (indices group).Nodup) :
    shape title position group = .ok (.choice (group.filterMap Section.option?)) := by
  have complete := (length_filterMap_option?_iff group).mpr options
  have titles := isEmpty_titles (not_noOptions_of_allOptions nonempty options)
  simp only [shape, List.isEmpty_eq_false_iff.mpr nonempty, titles, complete,
    bne_self_eq_false, repeated?_eq_none fresh, Bool.false_eq_true, if_false]

theorem countP_plain (group : Forest) :
    group.length - group.countP Section.isOption =
      group.countP fun member => !member.isOption := by
  have total := List.length_eq_countP_add_countP Section.isOption (l := group)
  simp only [Bool.not_eq_true, Bool.decide_eq_false] at total
  omega

/-- A group of neither kind is refused as mixed, with both kinds counted. -/
theorem shape_of_offender (title : String) (position : Position) {group : Forest}
    {offender : Section} (notAll : ¬ AllOptions group) (notNone : ¬ NoOptions group)
    (found : offender? group = some offender) :
    shape title position group = .error (.mixedSiblings title position offender.name
      (group.countP Section.isOption) (group.countP fun member => !member.isOption)) := by
  have nonempty : group ≠ [] := fun empty => notNone (empty ▸ List.forall_mem_nil _)
  have counted : (group.filterMap Section.option?).length = group.countP Section.isOption :=
    List.length_filterMap_eq_countP
  have incomplete : (group.countP Section.isOption != group.length) = true := by
    rw [← counted]
    exact bne_iff_ne.mpr fun equal => notAll ((length_filterMap_option?_iff group).mp equal)
  simp only [shape, List.isEmpty_eq_false_iff.mpr nonempty, isEmpty_titles notNone, counted,
    incomplete, found, countP_plain, Option.map_some, Option.getD_some, Bool.false_eq_true,
    if_false, if_true]

/-- Options with a repeated index are refused at the repetition. -/
theorem shape_of_repetition (title : String) (position : Position) {group : Forest}
    {place : Nat} {again : Section} {index : UInt32} (nonempty : group ≠ [])
    (options : AllOptions group) (found : repeated? [] 0 group = some (place, again, index)) :
    shape title position group =
      .error (.duplicateIndex again.name (position.child place) index) := by
  have complete := (length_filterMap_option?_iff group).mpr options
  have titles := isEmpty_titles (not_noOptions_of_allOptions nonempty options)
  simp only [shape, List.isEmpty_eq_false_iff.mpr nonempty, titles, complete,
    bne_self_eq_false, found, Bool.false_eq_true, if_false]

/-- A group in disorder is refused for that disorder. -/
theorem shape_of_disorder {title : String} {position : Position} {group : Forest}
    {violation : Violation} (disorder : Disorder title position group violation) :
    shape title position group = .error violation := by
  cases disorder with
  | @mixed first offender before after split alike differs =>
      have firstListed : first ∈ group := split ▸ List.mem_cons_self
      have offenderListed : offender ∈ group := split ▸ List.mem_cons_of_mem first
        (List.mem_append_right before List.mem_cons_self)
      apply shape_of_offender title position
      · intro options
        exact differs ((options offender offenderListed).trans (options first firstListed).symm)
      · intro plain
        exact differs ((plain offender offenderListed).trans (plain first firstListed).symm)
      · rw [split]
        exact offender?_append alike differs
  | @repeated again before after read options split fresh titled known =>
      have listed : again ∈ group := split ▸ List.mem_append_right before List.mem_cons_self
      apply shape_of_repetition title position (List.ne_nil_of_mem listed) options
      rw [split]
      exact repeated?_append fresh titled known

/-- A group that is not in order is in some disorder. -/
theorem exists_disorder (title : String) (position : Position) {group : Forest}
    (nonempty : group ≠ []) (notNone : ¬ NoOptions group)
    (notChoice : ¬ (AllOptions group ∧ (indices group).Nodup)) :
    Exists fun violation => Disorder title position group violation := by
  cases group with
  | nil => exact False.elim (nonempty rfl)
  | cons first rest =>
      by_cases options : AllOptions (first :: rest)
      · rcases exists_repetition (fun fresh => notChoice ⟨options, fresh⟩) with
          ⟨before, again, after, read, split, fresh, titled, known⟩
        exact ⟨_, .repeated options split fresh titled known⟩
      · rcases exists_offender options notNone with
          ⟨before, offender, after, split, alike, differs⟩
        exact ⟨_, .mixed (congrArg (first :: ·) split) alike differs⟩

/-- The three outcomes of judging a group with members. -/
theorem shape_cases (title : String) (position : Position) {group : Forest}
    (nonempty : group ≠ []) :
    (NoOptions group ∧ shape title position group = .ok .sequence) ∨
      ((AllOptions group ∧ (indices group).Nodup) ∧
        shape title position group = .ok (.choice (group.filterMap Section.option?))) ∨
      Exists fun violation => Disorder title position group violation ∧
        shape title position group = .error violation := by
  by_cases plain : NoOptions group
  · exact Or.inl ⟨plain, shape_of_noOptions title position nonempty plain⟩
  · by_cases choice : AllOptions group ∧ (indices group).Nodup
    · exact Or.inr (Or.inl ⟨choice, shape_of_allOptions title position nonempty choice.1 choice.2⟩)
    · rcases exists_disorder title position nonempty plain choice with ⟨violation, disorder⟩
      exact Or.inr (Or.inr ⟨violation, disorder, shape_of_disorder disorder⟩)

theorem nonempty_of_shape_ok {title : String} {position : Position} {group : Forest}
    {shape' : Shape} (judged : shape title position group = .ok shape') : group ≠ [] := by
  intro empty
  rw [empty, shape_nil] at judged
  cases judged

/-- A group becomes a sequence exactly when it has members and none is an option. -/
theorem shape_eq_sequence_iff (title : String) (position : Position) (group : Forest) :
    shape title position group = .ok .sequence ↔ group ≠ [] ∧ NoOptions group := by
  constructor
  · intro judged
    have nonempty := nonempty_of_shape_ok judged
    rcases shape_cases title position nonempty with ⟨plain, _⟩ | ⟨_, other⟩ | ⟨_, _, other⟩
    · exact ⟨nonempty, plain⟩
    · cases other.symm.trans judged
    · cases other.symm.trans judged
  · rintro ⟨nonempty, plain⟩
    exact shape_of_noOptions title position nonempty plain

/-- A group becomes a choice exactly when it has members, each of them has one
of the titles, and no two titles have the same index. -/
theorem shape_eq_choice_iff (title : String) (position : Position) (group : Forest)
    (titles : List OptionTitle) :
    shape title position group = .ok (.choice titles) ↔
      group ≠ [] ∧ group.map Section.option? = titles.map some ∧
        (titles.map OptionTitle.index).Nodup := by
  constructor
  · intro judged
    have nonempty := nonempty_of_shape_ok judged
    rcases shape_cases title position nonempty with ⟨_, other⟩ | ⟨choice, found⟩ | ⟨_, _, other⟩
    · cases other.symm.trans judged
    · cases found.symm.trans judged
      exact ⟨nonempty, map_option?_of_allOptions group choice.1, choice.2⟩
    · cases other.symm.trans judged
  · rintro ⟨nonempty, read, fresh⟩
    have titlesRead : group.filterMap Section.option? = titles := by
      have identified := congrArg (List.filterMap id) read
      simpa only [List.filterMap_map, Function.id_comp, Function.comp_def, id_eq,
        List.filterMap_some] using identified
    have options : AllOptions group := by
      rw [← length_filterMap_option?_iff, titlesRead]
      simpa only [List.length_map] using (congrArg List.length read).symm
    have passed := shape_of_allOptions title position nonempty options
      (by rw [indices, titlesRead]; exact fresh)
    rw [titlesRead] at passed
    exact passed

/-- A group passes exactly when it has members, is of one kind, and has no
index twice. -/
theorem exists_shape_iff (title : String) (position : Position) (group : Forest) :
    (Exists fun passed => shape title position group = .ok passed) ↔
      group ≠ [] ∧ (AllOptions group ∨ NoOptions group) ∧
        (AllOptions group -> (indices group).Nodup) := by
  constructor
  · rintro ⟨passed, judged⟩
    have nonempty := nonempty_of_shape_ok judged
    refine ⟨nonempty, ?_⟩
    rcases shape_cases title position nonempty with ⟨plain, _⟩ | ⟨choice, _⟩ | ⟨_, _, other⟩
    · refine ⟨Or.inr plain, fun _ => ?_⟩
      rw [indices, (filterMap_option?_eq_nil_iff group).mpr plain]
      exact List.nodup_nil
    · exact ⟨Or.inl choice.1, fun _ => choice.2⟩
    · cases other.symm.trans judged
  · rintro ⟨nonempty, options | plain, fresh⟩
    · exact ⟨_, shape_of_allOptions title position nonempty options (fresh options)⟩
    · exact ⟨_, shape_of_noOptions title position nonempty plain⟩

/-- A group with members is refused exactly for the disorder that it is in. -/
theorem shape_eq_error_iff (title : String) (position : Position) {group : Forest}
    (nonempty : group ≠ []) (violation : Violation) :
    shape title position group = .error violation ↔
      Disorder title position group violation := by
  constructor
  · intro refused
    rcases shape_cases title position nonempty with ⟨_, other⟩ | ⟨_, other⟩ | ⟨_, disorder, found⟩
    · cases other.symm.trans refused
    · cases other.symm.trans refused
    · cases found.symm.trans refused
      exact disorder
  · exact shape_of_disorder

end Forest
end Guidebook
