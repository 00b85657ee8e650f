import Guidebook.Outline.Basic
import Guidebook.Proofs.Text.Numeral

namespace Guidebook

/-!
# Drawings that tell their outlines apart

A label may look like a rail, and a rail may look like a label.  The lines of an
outline still determine it: what is drawn below a branch stands behind the rail
that its own line announces, and no such line starts like the line of another
branch.  So the lines below a branch are the run of lines with that start, and
this run ends where the next branch does.  Nothing is asked of the labels for
that.  Labels on one line are needed to find the lines in the drawing.
-/

namespace Outline

/-- A fact that passes from the branches to the outline above them holds of every
outline. -/
theorem branch_induction {motive : Outline -> Prop}
    (above : forall label branches,
      (forall branch, branch ∈ branches -> motive branch) -> motive ⟨label, branches⟩)
    (outline : Outline) : motive outline := by
  apply Outline.rec (motive_1 := motive)
    (motive_2 := fun branches => forall branch, branch ∈ branches -> motive branch)
  · exact above
  · exact List.forall_mem_nil _
  · intro first rest firstHolds restHold
    exact List.forall_mem_cons.mpr ⟨firstHolds, restHold⟩

/-- What is drawn side by side is known from its outlines, if each is known from its
own. -/
theorem eq_of_outlines_eq {Subject : Type} {outline : Subject -> Outline}
    {subjects others : List Subject}
    (each : forall subject, subject ∈ subjects -> forall other, other ∈ others ->
      outline subject = outline other -> subject = other)
    (same : subjects.map outline = others.map outline) : subjects = others := by
  induction subjects generalizing others with
  | nil =>
      cases others with
      | nil => rfl
      | cons other later => cases same
  | cons first rest inductionHypothesis =>
      cases others with
      | nil => cases same
      | cons other later =>
          rw [List.map_cons, List.map_cons, List.cons.injEq] at same
          have sameFirst := each first List.mem_cons_self other List.mem_cons_self same.1
          have sameRest := inductionHypothesis
            (fun subject listed another found => each subject (List.mem_cons_of_mem first listed)
              another (List.mem_cons_of_mem other found)) same.2
          rw [sameFirst, sameRest]

/-! ## Rails -/

namespace Rail

/-- The start of a line, as long as a rail. -/
def start (line : String) : List Char := line.toList.take 4

theorem of_eq_middle_or_last (later : List Outline) :
    Rail.of later = .middle ∨ Rail.of later = .last := by
  unfold Rail.of
  split
  · exact Or.inr rfl
  · exact Or.inl rfl

theorem length_corner (later : List Outline) : (Rail.of later).corner.toList.length = 4 := by
  rcases of_eq_middle_or_last later with middle | last
  · rw [middle]
    rfl
  · rw [last]
    rfl

theorem length_follow (later : List Outline) : (Rail.of later).follow.toList.length = 4 := by
  rcases of_eq_middle_or_last later with middle | last
  · rw [middle]
    rfl
  · rw [last]
    rfl

theorem start_corner (later : List Outline) (label : String) :
    start ((Rail.of later).corner ++ label) = (Rail.of later).corner.toList := by
  rw [start, String.toList_append]
  exact List.take_left' (length_corner later)

theorem start_follow (later : List Outline) (line : String) :
    start ((Rail.of later).follow ++ line) = (Rail.of later).follow.toList := by
  rw [start, String.toList_append]
  exact List.take_left' (length_follow later)

/-- A line of a branch does not start like a line below a branch. -/
theorem corner_ne_follow (later others : List Outline) :
    (Rail.of later).corner.toList ≠ (Rail.of others).follow.toList := by
  rcases of_eq_middle_or_last later with first | first <;>
    rcases of_eq_middle_or_last others with second | second <;>
    rw [first, second] <;> decide

/-- The line of a branch announces the rail of what is below it. -/
theorem follow_eq_of_corner {later others : List Outline}
    (same : (Rail.of later).corner.toList = (Rail.of others).corner.toList) :
    (Rail.of later).follow = (Rail.of others).follow := by
  rcases of_eq_middle_or_last later with first | first <;>
    rcases of_eq_middle_or_last others with second | second <;>
    rw [first, second] at same ⊢
  · exact absurd same (by decide)
  · exact absurd same (by decide)

end Rail

/-! ## Lines -/

/-- Lines behind an indentation. -/
def indented (indent : String) (lines : List String) : List String :=
  lines.map (indent ++ ·)

theorem indented_injective {indent : String} {lines others : List String}
    (same : indented indent lines = indented indent others) : lines = others := by
  apply (List.map_inj_right _).mp same
  intro line other alike
  have characters := congrArg String.toList alike
  simp only [String.toList_append, List.append_cancel_left_eq] at characters
  exact String.toList_inj.mp characters

/-- The outlines directly below. -/
def branches : Outline -> List Outline
  | ⟨_, branches⟩ => branches

theorem linesOfBranches_append (outline : Outline) (outer inner : String) :
    linesOfBranches (outer ++ inner) outline.branches =
      indented outer (linesOfBranches inner outline.branches) := by
  induction outline using branch_induction generalizing inner with
  | above label branches inductionHypothesis =>
      simp only [Outline.branches]
      induction branches with
      | nil => simp only [linesOfBranches, indented, List.map_nil]
      | cons first rest restHypothesis =>
          obtain ⟨firstLabel, below⟩ := first
          have firstBelow := inductionHypothesis _ List.mem_cons_self
            (inner ++ (Rail.of rest).follow)
          have later := restHypothesis
            (fun branch listed => inductionHypothesis branch (List.mem_cons_of_mem _ listed))
          simp only [Outline.branches] at firstBelow
          simp only [linesOfBranches, linesFrom, String.append_assoc, firstBelow, later,
            indented, List.map_append, List.map_cons]

theorem linesOfBranches_eq_indented (indent : String) (below : List Outline) :
    linesOfBranches indent below = indented indent (linesOfBranches "" below) := by
  have appended := linesOfBranches_append ⟨"", below⟩ indent ""
  rw [String.append_empty] at appended
  exact appended

theorem linesOfBranches_cons (label : String) (below rest : List Outline) :
    linesOfBranches "" (⟨label, below⟩ :: rest) =
      ((Rail.of rest).corner ++ label) ::
        (indented (Rail.of rest).follow (linesOfBranches "" below) ++ linesOfBranches "" rest) := by
  rw [linesOfBranches, linesFrom, String.empty_append, String.empty_append,
    linesOfBranches_eq_indented, List.cons_append]

/-! ## From the lines to the outline -/

/-- Whether a line stands below a branch that is followed by these. -/
def isBelow (later : List Outline) (line : String) : Bool :=
  Rail.start line = (Rail.of later).follow.toList

theorem isBelow_of_mem_indented {later : List Outline} {lines : List String} {line : String}
    (listed : line ∈ indented (Rail.of later).follow lines) : isBelow later line = true := by
  rcases List.mem_map.mp listed with ⟨inner, _, same⟩
  rw [isBelow, decide_eq_true_eq, ← same, Rail.start_follow]

/-- The lines below a branch end where the next branch starts. -/
theorem endsRun_linesOfBranches (later rest : List Outline) :
    EndsRun (isBelow later) (linesOfBranches "" rest) := by
  cases rest with
  | nil => exact endsRun_nil
  | cons first others =>
      obtain ⟨label, below⟩ := first
      rw [linesOfBranches_cons]
      apply endsRun_cons
      rw [isBelow, decide_eq_false_iff_not, Rail.start_corner]
      exact Rail.corner_ne_follow others later

/-- The first branch and the others are known from their lines, when the outlines
below a branch are known from theirs. -/
theorem cons_inj_of_lines {label otherLabel : String} {below otherBelow rest others : List Outline}
    (same : linesOfBranches "" (⟨label, below⟩ :: rest) =
      linesOfBranches "" (⟨otherLabel, otherBelow⟩ :: others)) :
    label = otherLabel ∧ linesOfBranches "" below = linesOfBranches "" otherBelow ∧
      linesOfBranches "" rest = linesOfBranches "" others := by
  rw [linesOfBranches_cons, linesOfBranches_cons, List.cons.injEq] at same
  rcases same with ⟨heads, tails⟩
  have characters := congrArg String.toList heads
  rw [String.toList_append, String.toList_append] at characters
  rcases List.append_inj characters (by rw [Rail.length_corner, Rail.length_corner]) with
    ⟨corners, labels⟩
  have follows := Rail.follow_eq_of_corner corners
  have sameBelow : isBelow rest = isBelow others := by
    funext line
    rw [isBelow, isBelow, follows]
  have otherInside : forall line, line ∈ indented (Rail.of others).follow
      (linesOfBranches "" otherBelow) -> isBelow rest line = true := by
    intro line listed
    rw [sameBelow]
    exact isBelow_of_mem_indented listed
  rcases run_inj (fun line => isBelow_of_mem_indented) (endsRun_linesOfBranches rest rest)
    otherInside (endsRun_linesOfBranches rest others) tails with ⟨belowLines, restLines⟩
  rw [follows] at belowLines
  exact ⟨String.toList_inj.mp labels, indented_injective belowLines, restLines⟩

theorem branches_injective (outline : Outline) (others : List Outline)
    (same : linesOfBranches "" outline.branches = linesOfBranches "" others) :
    outline.branches = others := by
  induction outline using branch_induction generalizing others with
  | above label branches inductionHypothesis =>
      simp only [Outline.branches] at same ⊢
      induction branches generalizing others with
      | nil =>
          cases others with
          | nil => rfl
          | cons other later =>
              obtain ⟨otherLabel, below⟩ := other
              rw [linesOfBranches_cons] at same
              cases same
      | cons first rest restHypothesis =>
          obtain ⟨firstLabel, below⟩ := first
          cases others with
          | nil =>
              rw [linesOfBranches_cons] at same
              cases same
          | cons other later =>
              obtain ⟨otherLabel, otherBelow⟩ := other
              rcases cons_inj_of_lines same with ⟨labels, belowLines, restLines⟩
              have sameBelow : below = otherBelow :=
                inductionHypothesis _ List.mem_cons_self otherBelow belowLines
              have sameRest : rest = later :=
                restHypothesis
                  (fun branch listed => inductionHypothesis branch (List.mem_cons_of_mem _ listed))
                  later restLines
              rw [labels, sameBelow, sameRest]

/-- An outline is known from its lines, whatever its labels are. -/
theorem lines_injective {left right : Outline} (same : left.lines = right.lines) :
    left = right := by
  obtain ⟨leftLabel, leftBranches⟩ := left
  obtain ⟨rightLabel, rightBranches⟩ := right
  simp only [lines, linesFrom, String.empty_append, List.cons.injEq] at same
  have sameBranches : leftBranches = rightBranches :=
    branches_injective ⟨leftLabel, leftBranches⟩ rightBranches same.2
  rw [same.1, sameBranches]

/-! ## From the drawing to the lines -/

/-- No line break stands in a text. -/
def IsLine (text : String) : Prop := '\n' ∉ text.toList

instance (text : String) : Decidable (IsLine text) :=
  inferInstanceAs (Decidable ('\n' ∉ text.toList))

/-- The label of an outline and all labels below it are lines. -/
inductive OneLine : Outline -> Prop
  | mk {label : String} {branches : List Outline} (line : IsLine label)
      (below : forall branch, branch ∈ branches -> OneLine branch) : OneLine ⟨label, branches⟩

theorem IsLine.append {left right : String} (first : IsLine left) (second : IsLine right) :
    IsLine (left ++ right) := by
  intro listed
  rw [String.toList_append] at listed
  rcases List.mem_append.mp listed with inLeft | inRight
  · exact first inLeft
  · exact second inRight

theorem isLine_toString (number : Nat) : IsLine (toString number) := by
  intro listed
  have decimal := Numeral.isDigit_of_mem_toString listed
  exact absurd decimal (by decide)

theorem isLine_corner (later : List Outline) : IsLine (Rail.of later).corner := by
  unfold IsLine
  rcases Rail.of_eq_middle_or_last later with middle | last
  · rw [middle]
    decide
  · rw [last]
    decide

theorem isLine_follow (later : List Outline) : IsLine (Rail.of later).follow := by
  unfold IsLine
  rcases Rail.of_eq_middle_or_last later with middle | last
  · rw [middle]
    decide
  · rw [last]
    decide

theorem isLine_of_mem_indented {indent : String} {lines : List String} (spaced : IsLine indent)
    (each : forall line, line ∈ lines -> IsLine line) :
    forall line, line ∈ indented indent lines -> IsLine line := by
  intro line listed
  rcases List.mem_map.mp listed with ⟨inner, innerListed, same⟩
  rw [← same]
  exact spaced.append (each inner innerListed)

theorem OneLine.isLine_of_mem_branches {outline : Outline} (oneLine : outline.OneLine) :
    forall line, line ∈ linesOfBranches "" outline.branches -> IsLine line := by
  induction oneLine with
  | @mk label branches line below inductionHypothesis =>
      simp only [Outline.branches]
      induction branches with
      | nil =>
          intro line impossible
          cases impossible
      | cons first rest restHypothesis =>
          have firstLine := below first List.mem_cons_self
          have firstBelow := inductionHypothesis first List.mem_cons_self
          have later := restHypothesis
            (fun branch listed => below branch (List.mem_cons_of_mem _ listed))
            (fun branch listed => inductionHypothesis branch (List.mem_cons_of_mem _ listed))
          obtain ⟨firstLabel, firstBranches⟩ := first
          cases firstLine with
          | mk labelLine _ =>
              intro line listed
              rw [linesOfBranches_cons] at listed
              rcases List.mem_cons.mp listed with same | listed
              · rw [same]
                exact (isLine_corner rest).append labelLine
              · rcases List.mem_append.mp listed with inFirst | inRest
                · exact isLine_of_mem_indented (isLine_follow rest) firstBelow line inFirst
                · exact later line inRest

theorem OneLine.isLine_of_mem_lines {outline : Outline} (oneLine : outline.OneLine) :
    forall line, line ∈ outline.lines -> IsLine line := by
  have below := oneLine.isLine_of_mem_branches
  obtain ⟨label, branches⟩ := outline
  cases oneLine with
  | mk labelLine _ =>
      intro line listed
      simp only [lines, linesFrom, String.empty_append] at listed
      rcases List.mem_cons.mp listed with same | listed
      · rw [same]
        exact labelLine
      · exact below line listed

/-- A line is known from the text that starts with it and its line break. -/
theorem line_inj {line other : String} {rest otherRest : List Char} (first : IsLine line)
    (second : IsLine other) (same : line.toList ++ '\n' :: rest = other.toList ++ '\n' :: otherRest) :
    line = other ∧ rest = otherRest := by
  have unbroken : forall text : String, IsLine text -> forall character,
      character ∈ text.toList -> (character != '\n') = true := by
    intro text isLine character listed
    rw [bne_iff_ne]
    intro broken
    exact isLine (broken ▸ listed)
  have ends : forall later : List Char, EndsRun (· != '\n') ('\n' :: later) :=
    fun later => endsRun_cons rfl
  rcases run_inj (unbroken line first) (ends rest) (unbroken other second) (ends otherRest) same
    with ⟨heads, tails⟩
  exact ⟨String.toList_inj.mp heads, List.tail_eq_of_cons_eq tails⟩

/-- Lines are known from the text that they make with a line break behind each. -/
theorem lines_inj_of_join {lines others : List String}
    (each : forall line, line ∈ lines -> IsLine line)
    (otherEach : forall line, line ∈ others -> IsLine line)
    (same : String.join (lines.map (· ++ "\n")) = String.join (others.map (· ++ "\n"))) :
    lines = others := by
  have characters := congrArg String.toList same
  simp only [String.toList_join, List.flatMap_map, String.toList_append] at characters
  clear same
  induction lines generalizing others with
  | nil =>
      cases others with
      | nil => rfl
      | cons other later => simp at characters
  | cons first rest inductionHypothesis =>
      cases others with
      | nil => simp at characters
      | cons other later =>
          simp only [List.flatMap_cons, List.append_assoc] at characters
          rcases line_inj (each first List.mem_cons_self) (otherEach other List.mem_cons_self)
            characters with ⟨sameFirst, tails⟩
          have sameRest := inductionHypothesis
            (fun line listed => each line (List.mem_cons_of_mem _ listed))
            (fun line listed => otherEach line (List.mem_cons_of_mem _ listed)) tails
          rw [sameFirst, sameRest]

/-- An outline of labels on one line is known from its drawing. -/
theorem draw_injective {left right : Outline} (leftLine : left.OneLine)
    (rightLine : right.OneLine) (same : left.draw = right.draw) : left = right :=
  lines_injective
    (lines_inj_of_join leftLine.isLine_of_mem_lines rightLine.isLine_of_mem_lines same)

end Outline
end Guidebook
