import Mathlib.Data.List.Sort
import Mathlib.Data.String.Basic
import Guidebook.Settings.Basic

namespace Guidebook
namespace Settings

/-!
# Patterns for the list of extensions

Patterns are merged into a list one after the other, and the result is written in
ascending order.  So it is known from the texts that are in it: of each text the last
pattern that decides on it says whether it is, and the list that was there says it of
the texts on which none decides.  Nothing is asked of either list.  A text may be
empty or have exclamation marks in front; such a text stays in a list where it is, but
as a pattern it takes another text away and never adds itself.
-/

/-! ## What a pattern decides on -/

/-- A pattern decides on the text that it takes away, and on itself where it has no
exclamation mark in front. -/
def Decides (pattern text : String) : Prop :=
  pattern = "!" ++ text ∨ (pattern = text ∧ text.toList.head? ≠ some '!')

instance (pattern text : String) : Decidable (Decides pattern text) :=
  inferInstanceAs (Decidable (_ ∨ _))

/-- The last of some patterns that decides on a text. -/
def IsLast (patterns : List String) (text pattern : String) : Prop :=
  Exists fun before => Exists fun after =>
    patterns = before ++ pattern :: after ∧ Decides pattern text ∧
      forall later, later ∈ after -> ¬ Decides later text

theorem toList_taking (text : String) : ("!" ++ text).toList = '!' :: text.toList := by
  rw [String.toList_append]
  rfl

theorem taking_ne (text : String) : "!" ++ text ≠ text := by
  intro same
  have lengths := congrArg (fun written => written.toList.length) same
  rw [toList_taking, List.length_cons] at lengths
  omega

/-- A pattern takes a text away, or it is a text to be added. -/
theorem taking_or_adding (pattern : String) :
    (Exists fun text => pattern = "!" ++ text) ∨ pattern.toList.head? ≠ some '!' := by
  cases characters : pattern.toList with
  | nil => exact Or.inr (by simp)
  | cons first rest =>
      by_cases mark : first = '!'
      · refine Or.inl ⟨String.ofList rest, String.toList_inj.mp ?_⟩
        rw [toList_taking, characters, mark, String.toList_ofList]
      · exact Or.inr (by simpa using mark)

/-- Either no pattern decides on a text, or one of those that do is the last. -/
theorem silent_or_exists_last (patterns : List String) (text : String) :
    (forall pattern, pattern ∈ patterns -> ¬ Decides pattern text) ∨
      Exists fun pattern => IsLast patterns text pattern := by
  induction patterns with
  | nil => exact Or.inl (List.forall_mem_nil _)
  | cons first rest inductionHypothesis =>
      rcases inductionHypothesis with silent | ⟨pattern, before, after, split, decides, silent⟩
      · by_cases decides : Decides first text
        · exact Or.inr ⟨first, [], rest, rfl, decides, silent⟩
        · exact Or.inl (List.forall_mem_cons.mpr ⟨decides, silent⟩)
      · exact Or.inr ⟨pattern, first :: before, after, by rw [split]; rfl, decides, silent⟩

/-! ## Ascending lists -/

/-- Strictly ascending in the order of texts, and so without repetitions. -/
abbrev Ascending (texts : List String) : Prop := texts.Pairwise (· < ·)

theorem Ascending.eq_of_mem_iff {left right : List String} (leftAscends : Ascending left)
    (rightAscends : Ascending right) (same : forall text, text ∈ left ↔ text ∈ right) :
    left = right :=
  leftAscends.sortedLT.eq_of_mem_iff rightAscends.sortedLT same

theorem mem_insert {new text : String} {texts : List String} :
    text ∈ insert new texts ↔ text = new ∨ text ∈ texts := by
  induction texts with
  | nil => rw [insert, List.mem_singleton, or_iff_left List.not_mem_nil]
  | cons first rest inductionHypothesis =>
      rw [insert]
      split
      · exact List.mem_cons
      · split
        · next same =>
            rw [same, List.mem_cons, ← or_assoc, or_self]
        · rw [List.mem_cons, inductionHypothesis, List.mem_cons, or_left_comm]

theorem Ascending.insert {texts : List String} (ascends : Ascending texts) (new : String) :
    Ascending (insert new texts) := by
  induction texts with
  | nil => exact List.pairwise_singleton _ _
  | cons first rest inductionHypothesis =>
      have later := List.pairwise_cons.mp ascends
      rw [Settings.insert]
      split
      · next less =>
          refine List.pairwise_cons.mpr ⟨List.forall_mem_cons.mpr ⟨less, ?_⟩, ascends⟩
          exact fun text member => lt_trans less (later.1 text member)
      · next notLess =>
          split
          · exact ascends
          · next different =>
              refine List.pairwise_cons.mpr ⟨fun text member => ?_, inductionHypothesis later.2⟩
              rcases mem_insert.mp member with rfl | listed
              · exact lt_of_le_of_ne (not_lt.mp notLess) (Ne.symm different)
              · exact later.1 text listed

/-! ## One pattern -/

theorem applyPattern_taking (texts : List String) (text : String) :
    applyPattern texts ("!" ++ text) = texts.filter (· ≠ text) := by
  rw [applyPattern, toList_taking]
  simp only [String.ofList_toList]

theorem applyPattern_adding (texts : List String) {pattern : String}
    (adding : pattern.toList.head? ≠ some '!') :
    applyPattern texts pattern = insert pattern texts := by
  unfold applyPattern
  split
  · next taken characters =>
      rw [characters] at adding
      exact absurd rfl adding
  · rfl

theorem Ascending.applyPattern {texts : List String} (ascends : Ascending texts)
    (pattern : String) : Ascending (applyPattern texts pattern) := by
  rcases taking_or_adding pattern with ⟨text, rfl⟩ | adding
  · rw [applyPattern_taking]
    exact ascends.filter _
  · rw [applyPattern_adding texts adding]
    exact ascends.insert pattern

/-- After a pattern that decides on a text, the text is there if it is the pattern. -/
theorem mem_applyPattern_of_decides (texts : List String) {pattern text : String}
    (decides : Decides pattern text) : text ∈ applyPattern texts pattern ↔ pattern = text := by
  rcases decides with rfl | ⟨rfl, adding⟩
  · rw [applyPattern_taking, iff_false_right (taking_ne text), List.mem_filter]
    simp
  · rw [applyPattern_adding texts adding, iff_true_right rfl, mem_insert]
    exact Or.inl rfl

/-- A pattern that does not decide on a text leaves it there or away. -/
theorem mem_applyPattern_of_silent (texts : List String) {pattern text : String}
    (silent : ¬ Decides pattern text) : text ∈ applyPattern texts pattern ↔ text ∈ texts := by
  rcases taking_or_adding pattern with ⟨taken, rfl⟩ | adding
  · have different : text ≠ taken := by
      rintro rfl
      exact silent (Or.inl rfl)
    rw [applyPattern_taking, List.mem_filter, and_iff_left (by simpa using different)]
  · have different : text ≠ pattern := by
      rintro rfl
      exact silent (Or.inr ⟨rfl, adding⟩)
    rw [applyPattern_adding texts adding, mem_insert, or_iff_right different]

/-! ## All patterns -/

theorem Ascending.foldl_applyPattern {texts : List String} (ascends : Ascending texts)
    (patterns : List String) : Ascending (patterns.foldl Settings.applyPattern texts) := by
  induction patterns generalizing texts with
  | nil => exact ascends
  | cons first rest inductionHypothesis => exact inductionHypothesis (ascends.applyPattern first)

theorem mem_foldl_applyPattern_of_silent {patterns : List String} {text : String}
    (silent : forall pattern, pattern ∈ patterns -> ¬ Decides pattern text)
    (texts : List String) : text ∈ patterns.foldl applyPattern texts ↔ text ∈ texts := by
  induction patterns generalizing texts with
  | nil => exact Iff.rfl
  | cons first rest inductionHypothesis =>
      rw [List.forall_mem_cons] at silent
      rw [List.foldl_cons, inductionHypothesis silent.2, mem_applyPattern_of_silent texts silent.1]

theorem mem_foldl_applyPattern_of_last {patterns : List String} {text pattern : String}
    (last : IsLast patterns text pattern) (texts : List String) :
    text ∈ patterns.foldl applyPattern texts ↔ pattern = text := by
  rcases last with ⟨before, after, rfl, decides, silent⟩
  rw [List.foldl_append, List.foldl_cons, mem_foldl_applyPattern_of_silent silent,
    mem_applyPattern_of_decides _ decides]

/-! ## Merged lists -/

/-- A list in ascending order and without repetitions. -/
def ascending (texts : List String) : List String :=
  texts.foldl (fun texts text => insert text texts) []

theorem mergeList_eq_foldl (base patterns : List String) :
    mergeList base patterns = patterns.foldl applyPattern (ascending base) := rfl

theorem foldl_insert {texts : List String} (ascends : Ascending texts) (base : List String) :
    Ascending (base.foldl (fun texts text => insert text texts) texts) ∧
      forall text, text ∈ base.foldl (fun texts text => insert text texts) texts ↔
        text ∈ base ∨ text ∈ texts := by
  induction base generalizing texts with
  | nil => exact ⟨ascends, fun text => (or_iff_right List.not_mem_nil).symm⟩
  | cons first rest inductionHypothesis =>
      have further := inductionHypothesis (ascends.insert first)
      refine ⟨further.1, fun text => ?_⟩
      rw [List.foldl_cons, further.2, mem_insert, List.mem_cons, or_left_comm, or_assoc]

theorem ascends_ascending (base : List String) : Ascending (ascending base) :=
  (foldl_insert List.Pairwise.nil base).1

theorem mem_ascending {base : List String} {text : String} :
    text ∈ ascending base ↔ text ∈ base := by
  rw [ascending, (foldl_insert List.Pairwise.nil base).2, or_iff_left List.not_mem_nil]

/-- Only which texts a list holds is seen in its ascending form. -/
theorem ascending_congr {base other : List String}
    (same : forall text, text ∈ base ↔ text ∈ other) : ascending base = ascending other := by
  refine (ascends_ascending base).eq_of_mem_iff (ascends_ascending other) fun text => ?_
  rw [mem_ascending, mem_ascending, same]

theorem Ascending.ascending_eq {texts : List String} (ascends : Ascending texts) :
    ascending texts = texts :=
  (ascends_ascending texts).eq_of_mem_iff ascends fun _ => mem_ascending

theorem ascends_mergeList (base patterns : List String) : Ascending (mergeList base patterns) :=
  (ascends_ascending base).foldl_applyPattern patterns

theorem mem_mergeList_of_silent {patterns : List String} {text : String}
    (silent : forall pattern, pattern ∈ patterns -> ¬ Decides pattern text)
    (base : List String) : text ∈ mergeList base patterns ↔ text ∈ base := by
  rw [mergeList_eq_foldl, mem_foldl_applyPattern_of_silent silent, mem_ascending]

theorem mem_mergeList_of_last {patterns : List String} {text pattern : String}
    (last : IsLast patterns text pattern) (base : List String) :
    text ∈ mergeList base patterns ↔ pattern = text := by
  rw [mergeList_eq_foldl, mem_foldl_applyPattern_of_last last]

theorem mergeList_congr {base other : List String}
    (same : forall text, text ∈ base ↔ text ∈ other) (patterns : List String) :
    mergeList base patterns = mergeList other patterns := by
  rw [mergeList_eq_foldl, mergeList_eq_foldl, ascending_congr same]

/-- Patterns that are merged after others are merged together with them. -/
theorem mergeList_append (base patterns more : List String) :
    mergeList (mergeList base patterns) more = mergeList base (patterns ++ more) := by
  rw [mergeList_eq_foldl, (ascends_mergeList base patterns).ascending_eq, mergeList_eq_foldl,
    mergeList_eq_foldl, List.foldl_append]

/-- What some patterns have made of a list they make of it again. -/
theorem mergeList_again (base patterns : List String) :
    mergeList (mergeList base patterns) patterns = mergeList base patterns := by
  refine (ascends_mergeList _ patterns).eq_of_mem_iff (ascends_mergeList base patterns) ?_
  intro text
  rcases silent_or_exists_last patterns text with silent | ⟨pattern, last⟩
  · exact mem_mergeList_of_silent silent _
  · rw [mem_mergeList_of_last last, mem_mergeList_of_last last]

/-- A merged list ascends, and whether a text is in it is said by the last pattern that
decides on the text, or by the list that was there where none does.  So that list counts
as a set, the same patterns once more change nothing, and patterns that are merged one
list after the other are merged as one list. -/
theorem mergeList_follows_last_pattern (base patterns : List String) :
    Ascending (mergeList base patterns) ∧
      (forall text, (Exists fun pattern => pattern ∈ patterns ∧ Decides pattern text) ->
        Exists fun last => IsLast patterns text last ∧
          (text ∈ mergeList base patterns ↔ last = text)) ∧
      (forall text, (¬ Exists fun pattern => pattern ∈ patterns ∧ Decides pattern text) ->
        (text ∈ mergeList base patterns ↔ text ∈ base)) ∧
      (forall other : List String, (forall text, text ∈ base ↔ text ∈ other) ->
        mergeList base patterns = mergeList other patterns) ∧
      mergeList (mergeList base patterns) patterns = mergeList base patterns ∧
      forall more,
        mergeList (mergeList base patterns) more = mergeList base (patterns ++ more) := by
  refine ⟨ascends_mergeList base patterns, ?_, ?_, ?_, mergeList_again base patterns,
    mergeList_append base patterns⟩
  · rintro text ⟨pattern, listed, decides⟩
    rcases silent_or_exists_last patterns text with silent | ⟨last, isLast⟩
    · exact absurd decides (silent pattern listed)
    · exact ⟨last, isLast, mem_mergeList_of_last isLast base⟩
  · intro text silent
    exact mem_mergeList_of_silent
      (fun pattern listed decides => silent ⟨pattern, listed, decides⟩) base
  · exact fun other same => mergeList_congr same patterns

/-- Patterns that take away and add the same texts in turns. -/
def alternating : List String := ["!toml", "yml", "toml", "!!json", "!yml", "!", "!json"]

/-- One text is taken away and added again, one is taken away for having two exclamation
marks in a pattern, and one stays because no pattern decides on it.  The last list holds
the same texts without the repetition. -/
theorem mergeList_follows_last_pattern_alternating :
    (Exists fun last => IsLast alternating "toml" last ∧
      ("toml" ∈ mergeList ["toml", "!md", "toml"] alternating ↔ last = "toml")) ∧
    (Exists fun last => IsLast alternating "!json" last ∧
      ("!json" ∈ mergeList ["toml", "!md", "toml"] alternating ↔ last = "!json")) ∧
    ("!md" ∈ mergeList ["toml", "!md", "toml"] alternating ↔ "!md" ∈ ["toml", "!md", "toml"]) ∧
    mergeList ["toml", "!md", "toml"] alternating = mergeList ["!md", "toml"] alternating := by
  have merged := mergeList_follows_last_pattern ["toml", "!md", "toml"] alternating
  exact ⟨merged.2.1 "toml" (by decide), merged.2.1 "!json" (by decide),
    merged.2.2.1 "!md" (by decide), merged.2.2.2.1 ["!md", "toml"] (by simp [or_comm])⟩

end Settings
end Guidebook
