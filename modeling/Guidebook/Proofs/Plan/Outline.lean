import Guidebook.Outline.Subject
import Guidebook.Plan.Compilation
import Guidebook.Proofs.Outline.Lines
import Guidebook.Proofs.Plan.Members

namespace Guidebook

/-!
# Plans that are told apart by their drawings

The outline of a plan keeps everything: the kind of a step stands in front of its
title, and the index of a branch stands in brackets in front of its label.  A text
may begin like a kind or like an index; it stands behind one all the same, and the
digits of an index end at the first bracket.  So plans with the same outline are
the same, and where every text is on one line the drawing gives the outline.
-/

namespace Step

/-- The outline of a branch, with its body below. -/
def branchOutline (branch : Branch Step) : Outline :=
  ⟨"[" ++ toString branch.index.toNat ++ "] " ++ branch.label, [branch.body.outline]⟩

theorem outlines_eq_map (steps : List Step) : outlines steps = steps.map outline := by
  induction steps with
  | nil => rfl
  | cons first rest inductionHypothesis =>
      rw [outlines, inductionHypothesis, List.map_cons]

theorem branchOutlines_eq_map (branches : List (Branch Step)) :
    branchOutlines branches = branches.map branchOutline := by
  induction branches with
  | nil => rfl
  | cons first rest inductionHypothesis =>
      rw [branchOutlines, inductionHypothesis, List.map_cons]
      rfl

/-! ## From the outline to the plan -/

/-- The word for the kind of a step, which stands in front of its text. -/
def word : Step -> String
  | .task _ => "task: "
  | .sequence _ _ => "sequence: "
  | .choice _ _ => "choice: "

/-- The command or the title of a step. -/
def text : Step -> String
  | .task command => command
  | .sequence title _ => title
  | .choice title _ => title

/-- The outlines directly below a step. -/
def outlinesBelow : Step -> List Outline
  | .task _ => []
  | .sequence _ steps => outlines steps
  | .choice _ branches => branchOutlines branches

theorem outline_eq (step : Step) : step.outline = ⟨step.word ++ step.text, step.outlinesBelow⟩ := by
  cases step <;> rw [outline] <;> rfl

/-- The words of different kinds already differ in their first letter. -/
theorem word_eq_of_append {left right : Step} {leftText rightText : String}
    (same : left.word ++ leftText = right.word ++ rightText) : left.word = right.word := by
  have letters := congrArg (fun line => line.toList.head?) same
  cases left <;> cases right <;> first
    | rfl
    | simp [word, String.toList_append] at letters

/-- The index and the label of a branch are known from its line. -/
theorem branchLabel_inj {index otherIndex : UInt32} {label otherLabel : String}
    (same : "[" ++ toString index.toNat ++ "] " ++ label =
      "[" ++ toString otherIndex.toNat ++ "] " ++ otherLabel) :
    index = otherIndex ∧ label = otherLabel := by
  have characters := congrArg String.toList same
  simp only [String.toList_append, List.append_assoc] at characters
  have afterBracket := List.append_cancel_left characters
  have ends : forall text : List Char, EndsRun Numeral.isDigit ("] ".toList ++ text) :=
    fun text => endsRun_cons rfl
  rcases run_inj (fun _ => Numeral.isDigit_of_mem_toString) (ends _)
    (fun _ => Numeral.isDigit_of_mem_toString) (ends _) afterBracket with ⟨digits, labels⟩
  have sameIndex := Numeral.toString_injective digits
  exact ⟨UInt32.toNat_inj.mp sameIndex,
    String.toList_inj.mp (List.append_cancel_left labels)⟩

theorem outlines_injective {steps others : List Step}
    (each : forall step, step ∈ steps -> forall other, step.outline = other.outline ->
      step = other)
    (same : outlines steps = outlines others) : steps = others := by
  rw [outlines_eq_map, outlines_eq_map] at same
  exact Outline.eq_of_outlines_eq (fun step listed other _ => each step listed other) same

theorem branchOutlines_injective {branches others : List (Branch Step)}
    (each : forall branch, branch ∈ branches -> forall other, branch.body.outline = other.outline ->
      branch.body = other)
    (same : branchOutlines branches = branchOutlines others) : branches = others := by
  rw [branchOutlines_eq_map, branchOutlines_eq_map] at same
  refine Outline.eq_of_outlines_eq (fun branch listed other _ alike => ?_) same
  obtain ⟨index, label, body⟩ := branch
  obtain ⟨otherIndex, otherLabel, otherBody⟩ := other
  simp only [branchOutline, Outline.mk.injEq, List.cons.injEq, and_true] at alike
  rcases alike with ⟨labels, bodies⟩
  rcases branchLabel_inj labels with ⟨sameIndex, sameLabel⟩
  have sameBody : body = otherBody := each _ listed otherBody bodies
  rw [sameIndex, sameLabel, sameBody]

/-- A step is known from its outline, whatever its texts are. -/
theorem outline_injective {left right : Step} (same : left.outline = right.outline) :
    left = right := by
  induction left using member_induction generalizing right with
  | task command =>
      rw [outline_eq, outline_eq, Outline.mk.injEq] at same
      have words := word_eq_of_append same.1
      cases right with
      | task other =>
          have sameText : command = other := (String.append_right_inj _).mp same.1
          rw [sameText]
      | sequence title steps => simp [word] at words
      | choice title branches => simp [word] at words
  | sequence title steps inductionHypothesis =>
      rw [outline_eq, outline_eq, Outline.mk.injEq] at same
      have words := word_eq_of_append same.1
      cases right with
      | task other => simp [word] at words
      | sequence otherTitle others =>
          have sameSteps := outlines_injective
            (fun step listed other => inductionHypothesis step listed) same.2
          have sameText : title = otherTitle := (String.append_right_inj _).mp same.1
          rw [sameText, sameSteps]
      | choice otherTitle others => simp [word] at words
  | choice title branches inductionHypothesis =>
      rw [outline_eq, outline_eq, Outline.mk.injEq] at same
      have words := word_eq_of_append same.1
      cases right with
      | task other => simp [word] at words
      | sequence otherTitle others => simp [word] at words
      | choice otherTitle others =>
          have sameBranches := branchOutlines_injective
            (fun branch listed other => inductionHypothesis branch listed) same.2
          have sameText : title = otherTitle := (String.append_right_inj _).mp same.1
          rw [sameText, sameBranches]

/-! ## Texts on one line -/

/-- The commands, titles and labels of a step are lines. -/
inductive OneLine : Step -> Prop
  | task {command : String} (line : Outline.IsLine command) : OneLine (.task command)
  | sequence {title : String} {steps : List Step} (line : Outline.IsLine title)
      (members : forall step, step ∈ steps -> OneLine step) : OneLine (.sequence title steps)
  | choice {title : String} {branches : List (Branch Step)} (line : Outline.IsLine title)
      (labels : forall branch, branch ∈ branches -> Outline.IsLine branch.label)
      (members : forall branch, branch ∈ branches -> OneLine branch.body) :
      OneLine (.choice title branches)

theorem isLine_word (step : Step) : Outline.IsLine step.word := by
  unfold Outline.IsLine
  cases step <;> simp [word]

theorem isLine_branchLabel (index : UInt32) {label : String} (line : Outline.IsLine label) :
    Outline.IsLine ("[" ++ toString index.toNat ++ "] " ++ label) := by
  have digits := Outline.isLine_toString index.toNat
  have opening : Outline.IsLine "[" := by decide
  have closing : Outline.IsLine "] " := by decide
  exact ((opening.append digits).append closing).append line

theorem OneLine.outline {step : Step} (oneLine : step.OneLine) : step.outline.OneLine := by
  induction oneLine with
  | @task command line =>
      rw [outline_eq]
      exact .mk ((isLine_word (.task command)).append line) (List.forall_mem_nil _)
  | @sequence title steps line members inductionHypothesis =>
      rw [outline_eq, outlinesBelow, outlines_eq_map]
      exact .mk ((isLine_word (.sequence title steps)).append line)
        (List.forall_mem_map.mpr inductionHypothesis)
  | @choice title branches line labels members inductionHypothesis =>
      rw [outline_eq, outlinesBelow, branchOutlines_eq_map]
      refine .mk ((isLine_word (.choice title branches)).append line)
        (List.forall_mem_map.mpr ?_)
      intro branch listed
      exact .mk (isLine_branchLabel branch.index (labels branch listed))
        (List.forall_mem_singleton.mpr (inductionHypothesis branch listed))

end Step

namespace Plan

/-- The input of a plan and all texts of its root are lines. -/
structure OneLine (plan : Plan) : Prop where
  input : Outline.IsLine plan.input
  root : plan.root.OneLine

theorem OneLine.outline {plan : Plan} (oneLine : plan.OneLine) : plan.outline.OneLine := by
  have word : Outline.IsLine "plan: " := by decide
  exact .mk (word.append oneLine.input) (List.forall_mem_singleton.mpr oneLine.root.outline)

theorem outline_injective {left right : Plan} (same : left.outline = right.outline) :
    left = right := by
  obtain ⟨leftInput, leftRoot⟩ := left
  obtain ⟨rightInput, rightRoot⟩ := right
  simp only [outline, Outline.mk.injEq, List.cons.injEq, and_true] at same
  rw [(String.append_right_inj _).mp same.1, Step.outline_injective same.2]

/-- Plans whose texts are on one line are the same when their drawings are, and so
are steps. -/
theorem eq_of_draw_outline_eq :
    (forall left right : Plan, left.OneLine -> right.OneLine ->
      left.outline.draw = right.outline.draw -> left = right) ∧
      forall left right : Step, left.OneLine -> right.OneLine ->
        left.outline.draw = right.outline.draw -> left = right := by
  constructor
  · intro left right leftLine rightLine same
    exact outline_injective (Outline.draw_injective leftLine.outline rightLine.outline same)
  · intro left right leftLine rightLine same
    exact Step.outline_injective (Outline.draw_injective leftLine.outline rightLine.outline same)

/-- Texts that look like rails, kinds and indices. -/
def imitations (last : Step) : Plan :=
  ⟨"plan: ",
    .choice "├── task: [2] "
      [⟨2, "] [2] ", .task "└── task: "⟩, ⟨22, "│   └── ", .sequence "" [.task "choice: ", last]⟩]⟩

theorem oneLine_imitations {last : Step} (line : last.OneLine) : (imitations last).OneLine := by
  have input : Outline.IsLine "plan: " := by decide
  refine ⟨input, .choice (by decide) ?_ ?_⟩
  · simp only [List.forall_mem_cons]
    exact ⟨by decide, by decide, List.forall_mem_nil _⟩
  · simp only [List.forall_mem_cons]
    refine ⟨.task (by decide), .sequence (by decide) ?_, List.forall_mem_nil _⟩
    simp only [List.forall_mem_cons]
    exact ⟨.task (by decide), line, List.forall_mem_nil _⟩

/-- Sections that compile to texts of the same kind. -/
def imitationForest : Forest :=
  [⟨"Option 2: [22] task:", [.command "└── task: Option 2: x"]⟩,
    ⟨"Option 22: ] [2]", [.command "choice: "]⟩]

/-- The step that the sections compile to, as it is written by hand. -/
def writtenImitations : Step :=
  .choice "plan: "
    [⟨2, "[22] task:", .sequence "Option 2: [22] task:" [.task "└── task: Option 2: x"]⟩,
      ⟨22, "] [2]", .sequence "Option 22: ] [2]" [.task "choice: "]⟩]

theorem oneLine_writtenImitations : writtenImitations.OneLine := by
  refine .choice (by decide) ?_ ?_
  · simp only [List.forall_mem_cons]
    exact ⟨by decide, by decide, List.forall_mem_nil _⟩
  · simp only [List.forall_mem_cons]
    exact ⟨.sequence (by decide) (List.forall_mem_singleton.mpr (.task (by decide))),
      .sequence (by decide) (List.forall_mem_singleton.mpr (.task (by decide))),
      List.forall_mem_nil _⟩

/-- An empty command and an empty sequence make two drawings.  What is compiled is drawn as
what is written by hand, and is the same. -/
theorem eq_of_draw_outline_eq_imitations :
    (imitations (.task "")).OneLine ∧ (imitations (.sequence "" [])).OneLine ∧
      (imitations (.task "")).outline.draw ≠ (imitations (.sequence "" [])).outline.draw ∧
      Exists fun root => Forest.compile 64 "plan: " imitationForest = .ok root ∧
        root.outline.draw = writtenImitations.outline.draw ∧ root = writtenImitations := by
  have empty : Outline.IsLine "" := by decide
  have command := oneLine_imitations (.task empty)
  have sequence := oneLine_imitations (.sequence empty (List.forall_mem_nil _))
  refine ⟨command, sequence, fun same => ?_, ?_⟩
  · have alike := eq_of_draw_outline_eq.1 _ _ command sequence same
    exact absurd alike (by decide)
  · have line := oneLine_writtenImitations
    let root := (Forest.compile 64 "plan: " imitationForest).toOption.getD (.task "")
    have drawn : root.outline.draw = writtenImitations.outline.draw := by rfl
    exact ⟨root, rfl, drawn, eq_of_draw_outline_eq.2 root _ line line drawn⟩

end Plan
end Guidebook
