import Mathlib.Data.List.DropRight
import Guidebook.Proofs.Text.Numeral
import Guidebook.Text.Blank

namespace Guidebook
namespace Blank

/-!
# Trimmed texts

Trimming takes blanks away at both ends and nothing else, and a text that starts and
ends in other characters is what is left of it with any blanks around it.  A text
that goes on may lose blanks that stood at its end, but never a character of what
was left of it: what is left goes on too.
-/

theorem not_isBlank_of_isDigit {digit : Char} (decimal : Numeral.isDigit digit = true) :
    isBlank digit = false := by
  have bounds := (Numeral.isDigit_iff digit).mp decimal
  simp only [isBlank, ranges, List.any_cons, List.any_nil, Bool.or_false, Bool.or_eq_false_iff,
    Bool.and_eq_false_iff, decide_eq_false_iff_not]
  omega

/-! ## What is left -/

/-- What is left of a text without its leading blanks does not go on with blanks. -/
theorem endsRun_trimStart (text : List Char) : EndsRun isBlank (trimStart text) :=
  fun first leads => isBlank_of_head_trimStart text first leads

theorem trim_prefix_trimStart (text : List Char) : trim text <+: trimStart text :=
  List.rdropWhile_prefix isBlank (trimStart text)

/-- A trimmed text does not start with a blank. -/
theorem endsRun_trim (text : List Char) : EndsRun isBlank (trim text) := by
  intro first leads
  rcases trim_prefix_trimStart text with ⟨blanks, whole⟩
  apply endsRun_trimStart text first
  rw [← whole, List.head?_append, leads, Option.some_or]

/-- A trimmed text does not end in a blank. -/
theorem endsRun_reverse_trim (text : List Char) : EndsRun isBlank (trim text).reverse := by
  rw [trim, trimEnd, List.reverse_reverse]
  exact endsRun_trimStart _

/-- What trimming takes away is blank. -/
theorem exists_parts_trim (text : List Char) :
    Exists fun before => Exists fun after =>
      text = before ++ trim text ++ after ∧
        (forall character, character ∈ before -> isBlank character = true) ∧
        (forall character, character ∈ after -> isBlank character = true) := by
  let started := (trimStart text).reverse
  have back : started.takeWhile isBlank ++ started.dropWhile isBlank = started :=
    List.takeWhile_append_dropWhile
  have ended : trimStart text = trim text ++ (started.takeWhile isBlank).reverse := by
    rw [trim, trimEnd, ← List.reverse_append]
    exact (List.reverse_reverse _).symm.trans (congrArg List.reverse back.symm)
  refine ⟨text.takeWhile isBlank, (started.takeWhile isBlank).reverse, ?_, ?_, ?_⟩
  · rw [List.append_assoc, ← ended]
    exact List.takeWhile_append_dropWhile.symm
  · exact fun character member => List.all_eq_true.mp List.all_takeWhile character member
  · exact fun character member =>
      List.all_eq_true.mp List.all_takeWhile character (List.mem_reverse.mp member)

/-! ## Texts with blanks around them -/

section Around

variable {before word after : List Char}

theorem trimStart_append_of_blank
    (blankBefore : forall character, character ∈ before -> isBlank character = true)
    (leading : EndsRun isBlank word) : trimStart (before ++ word) = word :=
  dropWhile_run blankBefore leading

theorem trimEnd_append_of_blank
    (blankAfter : forall character, character ∈ after -> isBlank character = true)
    (trailing : EndsRun isBlank word.reverse) : trimEnd (word ++ after) = word := by
  have blankBack : forall character, character ∈ after.reverse -> isBlank character = true :=
    fun character member => blankAfter character (List.mem_reverse.mp member)
  rw [trimEnd, List.reverse_append, trimStart_append_of_blank blankBack trailing,
    List.reverse_reverse]

/-- A text that starts and ends in characters that are not blank is what is left of it
with blanks around it. -/
theorem trim_append (blankBefore : forall character, character ∈ before ->
      isBlank character = true)
    (blankAfter : forall character, character ∈ after -> isBlank character = true)
    (nonempty : word ≠ []) (leading : EndsRun isBlank word)
    (trailing : EndsRun isBlank word.reverse) : trim (before ++ word ++ after) = word := by
  have front : EndsRun isBlank (word ++ after) := by
    rcases List.exists_cons_of_ne_nil nonempty with ⟨first, later, rfl⟩
    exact endsRun_cons (leading first rfl)
  rw [trim, List.append_assoc, trimStart_append_of_blank blankBefore front,
    trimEnd_append_of_blank blankAfter trailing]

end Around

/-! ## Texts that go on -/

theorem trimStart_append {text : List Char} (some : trim text ≠ []) (more : List Char) :
    trimStart (text ++ more) = trimStart text ++ more := by
  have started : trimStart text ≠ [] := by
    intro blank
    rw [trim, blank] at some
    exact some rfl
  rw [trimStart, List.dropWhile_append, if_neg (by rwa [List.isEmpty_iff])]
  rfl

theorem trimEnd_prefix_trimEnd_append (text more : List Char) :
    trimEnd text <+: trimEnd (text ++ more) := by
  rw [trimEnd, trimEnd, List.reverse_append, trimStart, trimStart, List.dropWhile_append]
  split
  · exact List.prefix_refl _
  · rw [List.reverse_append, List.reverse_reverse]
    exact (List.rdropWhile_prefix isBlank text).trans (List.prefix_append text _)

/-- What is left of a text that is not blank stays when the text goes on. -/
theorem trim_prefix_trim_append {text : List Char} (some : trim text ≠ []) (more : List Char) :
    trim text <+: trim (text ++ more) := by
  rw [trim, trim, trimStart_append some more]
  exact trimEnd_prefix_trimEnd_append _ more

end Blank
end Guidebook
