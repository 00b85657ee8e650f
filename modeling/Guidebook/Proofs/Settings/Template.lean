import Guidebook.Proofs.Toml.Reading
import Guidebook.Settings.Load

namespace Guidebook

/-!
# The file to start from

Every line of the file to start from is empty or a comment.  Such lines leave the document
that is read as it is, however many there are.  So the file is read as the overlay that
leaves everything out, and has no say in the settings wherever it is laid.
-/

namespace Toml

/-- Whether a line is empty or a comment; its end is not a part of it. -/
def isRemark : List Char -> Bool
  | [] => true
  | first :: text => first == '#' && text.all isPlain

/-- A line with its end. -/
def ended (line : List Char) : List Char := line ++ ['\n']

theorem afterLine?_comment {text : List Char}
    (plain : forall character, character ∈ text -> isPlain character = true) (left : List Char) :
    afterLine? ('#' :: (text ++ '\n' :: left)) = some left := by
  have ends : EndsRun isPlain ('\n' :: left) := endsRun_cons (by decide)
  have comment : afterComment (afterBlanks ('#' :: (text ++ '\n' :: left))) = '\n' :: left :=
    dropWhile_run plain ends
  rw [afterLine?, comment]
  rfl

theorem eq_comment_of_isRemark {first : Char} {text : List Char}
    (remark : isRemark (first :: text) = true) :
    first = '#' ∧ forall character, character ∈ text -> isPlain character = true := by
  rwa [isRemark, Bool.and_eq_true, beq_iff_eq, List.all_eq_true] at remark

/-- A remark adds nothing to the document so far. -/
theorem linesFrom_remark {line : List Char} (remark : isRemark line = true) (steps : Nat)
    (draft : Draft) (left : List Char) :
    linesFrom (steps + 1) draft (ended line ++ left) = linesFrom steps draft left := by
  cases line with
  | nil => rfl
  | cons first text =>
      rcases eq_comment_of_isRemark remark with ⟨rfl, plain⟩
      have written : ended ('#' :: text) ++ left = '#' :: (text ++ '\n' :: left) := by
        simp [ended]
      have visible : afterBlanks ('#' :: (text ++ '\n' :: left)) = '#' :: (text ++ '\n' :: left) :=
        rfl
      rw [written, linesFrom, visible]
      simp only [afterLine?_comment plain left]

theorem linesFrom_remarks {lines : List (List Char)} (remarks : forall line, line ∈ lines ->
    isRemark line = true) {steps : Nat} (long : lines.length < steps) (draft : Draft) :
    linesFrom steps draft (lines.flatMap ended) = .ok draft := by
  induction lines generalizing steps with
  | nil =>
      cases steps with
      | zero => cases long
      | succ steps => rfl
  | cons line lines inductionHypothesis =>
      rw [List.forall_mem_cons] at remarks
      cases steps with
      | zero => cases long
      | succ steps =>
          rw [List.flatMap_cons, linesFrom_remark remarks.1]
          exact inductionHypothesis remarks.2 (Nat.lt_of_succ_lt_succ long)

theorem length_le_flatMap_ended (lines : List (List Char)) :
    lines.length ≤ (lines.flatMap ended).length := by
  induction lines with
  | nil => exact Nat.zero_le _
  | cons line lines inductionHypothesis =>
      rw [List.flatMap_cons, List.length_append, List.length_cons, ended, List.length_append,
        List.length_singleton]
      omega

/-- A remark does not start with the mark that may open a text. -/
theorem head_flatMap_ended_ne_mark {lines : List (List Char)}
    (remarks : forall line, line ∈ lines -> isRemark line = true) :
    (lines.flatMap ended).head? ≠ some mark := by
  cases lines with
  | nil => exact nofun
  | cons line lines =>
      rw [List.flatMap_cons]
      cases line with
      | nil => exact fun same => absurd (Option.some.inj same) (by decide)
      | cons first text =>
          rcases eq_comment_of_isRemark (remarks _ List.mem_cons_self) with ⟨rfl, -⟩
          exact fun same => absurd (Option.some.inj same) (by decide)

/-- A text of remarks is a document without entries. -/
theorem document_remarks {lines : List (List Char)} (remarks : forall line, line ∈ lines ->
    isRemark line = true) : document (String.ofList (lines.flatMap ended)) = .ok [] :=
  document_of_linesFrom (head_flatMap_ended_ne_mark remarks)
    (linesFrom_remarks remarks (Nat.lt_succ_of_le (length_le_flatMap_ended lines)) .empty) rfl rfl

end Toml

namespace Settings

theorem template_eq :
    template = String.ofList ((templateLines.map String.toList).flatMap Toml.ended) := by
  have joined (texts : List String) : String.join (texts.map (· ++ "\n")) =
      String.ofList ((texts.map String.toList).flatMap Toml.ended) := by
    apply String.toList_inj.mp
    rw [String.toList_ofList, String.toList_join]
    simp [Toml.ended, List.flatMap_map]
  exact joined templateLines

/-- The file to start from leaves everything out. -/
theorem ofToml_template : Overlay.ofToml template = .ok .empty := by
  have remarks : forall line, line ∈ templateLines.map String.toList ->
      Toml.isRemark line = true := List.all_eq_true.mp (by decide +kernel)
  rw [Overlay.ofToml, template_eq, Toml.document_remarks remarks]
  rfl

end Settings
end Guidebook
