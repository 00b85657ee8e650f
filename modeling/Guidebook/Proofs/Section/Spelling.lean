import Guidebook.Proofs.Section.Grammar
import Guidebook.Proofs.Section.Renaming

namespace Guidebook

/-!
# The canonical spelling of a title

An option title is written with one space in its gap, without zeros in front of the
index, and with one space in front of the label.  Not every index and label can be
read back from this spelling.  Those that can are the ones that are read from any
title at all, since the index that is read is positive and the label that is read
is trimmed.  A title that was read can therefore be replaced by its spelling.
-/

namespace OptionTitle

/-! ## What can be read back -/

/-- The index counts from one, and the label is one trimmed line that is not empty. -/
structure IsCanonical (title : OptionTitle) : Prop where
  index_pos : 1 ≤ title.index
  label_ne_empty : title.label ≠ ""
  leading : forall first, title.label.toList.head? = some first -> Blank.isBlank first = false
  trailing : forall last, title.label.toList.getLast? = some last -> Blank.isBlank last = false
  oneLine : '\n' ∉ title.label.toList

/-- Whatever a title was read from, it is canonical. -/
theorem isCanonical_of_parse? {name : String} {title : OptionTitle}
    (read : parse? name = some title) : title.IsCanonical := by
  rcases read?_eq_some_iff.mp read with ⟨gap, digits, rest, cut⟩
  refine ⟨?_, ?_, ?_, ?_, ?_⟩
  · rw [UInt32.le_iff_toNat_le, ← cut.index]
    exact cut.bounds.1
  · intro empty
    exact cut.label_ne_nil (by rw [cut.label, empty, String.toList_empty])
  · rw [← cut.label]
    exact Blank.endsRun_trim rest
  · intro last ends
    rw [← cut.label, ← List.head?_reverse] at ends
    exact Blank.endsRun_reverse_trim rest last ends
  · rw [← cut.label]
    exact fun broken => cut.oneLine ((Blank.trim_prefix_trimStart rest).subset broken)

theorem toList_text (title : OptionTitle) :
    title.text.toList =
      keyword ++ [' '] ++ (toString title.index.toNat).toList ++
        ':' :: ' ' :: title.label.toList := by
  simp [text, keyword, List.append_assoc]

/-- A canonical title is cut from its spelling where the spelling put it together. -/
theorem IsCanonical.isCut_text {title : OptionTitle} (canonical : title.IsCanonical) :
    IsCut title.text.toList [' '] (toString title.index.toNat).toList
      (' ' :: title.label.toList) title := by
  have value := Numeral.value_toString title.index.toNat
  have labelled : title.label.toList ≠ [] := fun empty =>
    canonical.label_ne_empty (String.toList_eq_nil_iff.mp empty)
  have trailing : EndsRun Blank.isBlank title.label.toList.reverse := by
    intro last ends
    rw [List.head?_reverse] at ends
    exact canonical.trailing last ends
  have space : forall character, character ∈ [' '] -> Blank.isBlank character = true :=
    List.forall_mem_singleton.mpr (by decide)
  have trim : Blank.trim (' ' :: title.label.toList) = title.label.toList := by
    have trimmed := Blank.trim_append space (List.forall_mem_nil _) labelled canonical.leading
      trailing
    rwa [List.append_nil] at trimmed
  refine ⟨toList_text title, List.cons_ne_nil _ _, space, ?_,
    fun digit => Numeral.isDigit_of_mem_toString, value, ⟨?_, ?_⟩, trim, ?_, ?_⟩
  · rcases Numeral.exists_first_toString title.index.toNat with ⟨first, later, digits, _⟩
    rw [digits]
    exact List.cons_ne_nil first later
  · rw [value]
    exact UInt32.le_iff_toNat_le.mp canonical.index_pos
  · rw [value]
    exact title.index.toNat_lt_size
  · rw [trim]
    exact labelled
  · have started := Blank.trimStart_append_of_blank space canonical.leading
    rw [List.singleton_append] at started
    rw [started]
    exact canonical.oneLine

/-- The canonical spelling reads back as the title that it spells for canonical
titles only. -/
theorem parse?_text_iff (title : OptionTitle) :
    parse? title.text = some title ↔ title.IsCanonical :=
  ⟨isCanonical_of_parse?, fun canonical => read?_eq_some_iff.mpr ⟨_, _, _, canonical.isCut_text⟩⟩

/-- A title that was read from any name is read from its spelling too. -/
theorem parse?_text_of_parse? {name : String} {title : OptionTitle}
    (read : parse? name = some title) : parse? title.text = some title :=
  (parse?_text_iff title).mpr (isCanonical_of_parse? read)

-- A spelling may also be read as another title.
example : parse? (text ⟨1, " x"⟩) = some ⟨1, "x"⟩ := by cbv

end OptionTitle

namespace Section

/-! ## Sections under their spelling -/

/-- What a section is called when options are called by the spelling of their titles. -/
def spelling (subject : Section) : String :=
  match subject.role with
  | .option title => title.text
  | _ => subject.name

theorem spelling_of_option? {subject : Section} {title : OptionTitle}
    (titled : subject.option? = some title) : subject.spelling = title.text := by
  rw [option?] at titled
  rw [spelling, role]
  split at titled
  · cases titled
  · next some => rw [if_neg some, titled]

theorem spelling_of_no_option {subject : Section} (plain : subject.option? = none) :
    subject.spelling = subject.name := by
  rw [option?] at plain
  rw [spelling, role]
  split at plain
  · next command => rw [if_pos command]
  · next some => rw [if_neg some, plain]

/-- A section reads as the same option under its spelling, or as none. -/
theorem keepsTitles_spelling : KeepsTitles spelling := by
  intro subject members
  have own : subject.option? = OptionTitle.parse? subject.name := by
    rw [option?, members, if_neg Bool.false_ne_true]
  cases titled : subject.option? with
  | none => rw [spelling_of_no_option titled]
  | some title =>
      have read := own.symm.trans titled
      rw [spelling_of_option? titled, read, OptionTitle.parse?_text_of_parse? read]

-- A command is no option and keeps its text.
example : renamed spelling ⟨"Option  01:b ", [command "Option  2:c "]⟩ =
    ⟨"Option 1: b", [command "Option  2:c "]⟩ := by cbv

end Section
end Guidebook
