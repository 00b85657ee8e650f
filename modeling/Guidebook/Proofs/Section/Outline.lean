import Guidebook.Outline.Subject
import Guidebook.Proofs.Outline.Lines
import Guidebook.Proofs.Section.Spelling

namespace Guidebook

/-!
# Sections that are told apart by their drawings

The line of an option is its name and a mark, which repeats the index and the label
that are in the name already.  Another name may end in what looks like a mark.  It is
found out by this: a name that goes on is still the title of an option, with the
same index and with a label that goes on too.  So a longer name needs a longer mark,
and both cannot make the same line.  For the same reason a section without a mark
does not have the line of an option.

A line break would end the title, so all this is said of names on one line.
-/

namespace OptionTitle

/-! ## Names that go on -/

/-- A name that goes on in the same line keeps its index, and its label goes on. -/
theorem read?_append {name more : List Char} {title : OptionTitle}
    (read : read? name = some title) (line : '\n' ∉ more) :
    Exists fun label => read? (name ++ more) = some ⟨title.index, label⟩ ∧
      title.label.toList <+: label.toList := by
  rcases read?_eq_some_iff.mp read with ⟨gap, digits, rest, cut⟩
  have longer := Blank.trim_prefix_trim_append cut.label_ne_nil more
  refine ⟨String.ofList (Blank.trim (rest ++ more)),
    read?_eq_some_iff.mpr ⟨gap, digits, rest ++ more, ?_⟩, ?_⟩
  · refine ⟨?_, cut.gap_ne_nil, cut.gap_blank, cut.digits_ne_nil, cut.digits_decimal, cut.index,
      cut.bounds, String.toList_ofList.symm, longer.ne_nil cut.label_ne_nil, ?_⟩
    · rw [cut.whole, List.append_assoc, List.cons_append]
    · rw [Blank.trimStart_append cut.label_ne_nil more, List.mem_append, not_or]
      exact ⟨cut.oneLine, line⟩
  · rw [String.toList_ofList, ← cut.label]
    exact longer

/-! ## Marks -/

/-- The mark of an option, which stands behind its name. -/
def mark (title : OptionTitle) : String :=
  " [option " ++ toString title.index.toNat ++ ": " ++ title.label ++ "]"

theorem length_toList_mark (title : OptionTitle) :
    title.mark.toList.length =
      12 + (toString title.index.toNat).toList.length + title.label.toList.length := by
  simp only [mark, String.toList_append, List.length_append]
  have pieces : " [option ".toList.length = 9 ∧ ": ".toList.length = 2 ∧ "]".toList.length = 1 := by
    decide
  omega

theorem isLine_mark {title : OptionTitle} (canonical : title.IsCanonical) :
    Outline.IsLine title.mark := by
  have digits := Outline.isLine_toString title.index.toNat
  have words : Outline.IsLine " [option " ∧ Outline.IsLine ": " ∧ Outline.IsLine "]" := by decide
  rcases words with ⟨opening, colon, closing⟩
  exact (((opening.append digits).append colon).append canonical.oneLine).append closing

/-- A name that goes on has a longer mark, so what it goes on with is no part of the
mark of the shorter name. -/
theorem eq_nil_of_mark {name more : List Char} {title longer : OptionTitle}
    (read : read? name = some title) (longerRead : read? (name ++ more) = some longer)
    (line : '\n' ∉ more) (same : title.mark.toList = more ++ longer.mark.toList) : more = [] := by
  rcases read?_append read line with ⟨label, appended, goesOn⟩
  cases longerRead.symm.trans appended
  -- The marks have the same digits, and the label of the longer name is not shorter.
  have lengths := congrArg List.length same
  have labels := goesOn.length_le
  rw [List.length_append, length_toList_mark, length_toList_mark] at lengths
  dsimp only at lengths
  exact List.eq_nil_of_length_eq_zero (by omega)

/-- The name of an option is known from its line. -/
theorem name_eq_of_mark {name other : List Char} {title otherTitle : OptionTitle}
    (read : read? name = some title) (otherRead : read? other = some otherTitle)
    (line : '\n' ∉ name) (otherLine : '\n' ∉ other)
    (same : name ++ title.mark.toList = other ++ otherTitle.mark.toList) : name = other := by
  rcases List.append_eq_append_iff.mp same with ⟨more, rfl, marks⟩ | ⟨more, rfl, marks⟩
  · have nothing := eq_nil_of_mark read otherRead
      (fun broken => otherLine (List.mem_append_right name broken)) marks
    rw [nothing, List.append_nil]
  · have nothing := eq_nil_of_mark otherRead read
      (fun broken => line (List.mem_append_right other broken)) marks
    rw [nothing, List.append_nil]

end OptionTitle

namespace Section

/-! ## The line of a section -/

variable {name other : String} {first : Section} {rest : Forest}

theorem label_of_title {title : OptionTitle} (read : OptionTitle.parse? name = some title) :
    label ⟨name, first :: rest⟩ = name ++ title.mark := by
  have option : role ⟨name, first :: rest⟩ = .option title := by
    rw [role, name_mk, read]
    rfl
  rw [label, option, OptionTitle.mark]
  simp only [name_mk, String.append_assoc]

theorem label_of_no_title (read : OptionTitle.parse? name = none) :
    label ⟨name, first :: rest⟩ = name := by
  have plain : role ⟨name, first :: rest⟩ = .plain := by
    rw [role, name_mk, read]
    rfl
  rw [label, plain, name_mk]

/-- A section that is no option does not have the line of one. -/
theorem name_ne_of_mark {title : OptionTitle} (read : OptionTitle.parse? name = some title)
    (otherRead : OptionTitle.parse? other = none) : name ++ title.mark ≠ other := by
  rintro rfl
  have line := OptionTitle.isLine_mark (OptionTitle.isCanonical_of_parse? read)
  rcases OptionTitle.read?_append read line with ⟨label, appended, -⟩
  rw [OptionTitle.parse?, String.toList_append, appended] at otherRead
  cases otherRead

/-- The name of a section is known from its line and from what is below it. -/
theorem name_eq_of_label {members : Forest} (line : Outline.IsLine name)
    (otherLine : Outline.IsLine other) (same : label ⟨name, members⟩ = label ⟨other, members⟩) :
    name = other := by
  cases members with
  | nil => exact (String.append_right_inj "$ ").mp same
  | cons first rest =>
      cases read : OptionTitle.parse? name with
      | some title =>
          rw [label_of_title read] at same
          cases otherRead : OptionTitle.parse? other with
          | some otherTitle =>
              rw [label_of_title otherRead] at same
              have characters := congrArg String.toList same
              rw [String.toList_append, String.toList_append] at characters
              exact String.toList_inj.mp
                (OptionTitle.name_eq_of_mark read otherRead line otherLine characters)
          | none =>
              rw [label_of_no_title otherRead] at same
              exact absurd same (name_ne_of_mark read otherRead)
      | none =>
          rw [label_of_no_title read] at same
          cases otherRead : OptionTitle.parse? other with
          | some otherTitle =>
              rw [label_of_title otherRead] at same
              exact absurd same.symm (name_ne_of_mark otherRead read)
          | none => rwa [label_of_no_title otherRead] at same

theorem isLine_label {members : Forest} (line : Outline.IsLine name) :
    Outline.IsLine (label ⟨name, members⟩) := by
  cases members with
  | nil =>
      have dollar : Outline.IsLine "$ " := by decide
      exact dollar.append line
  | cons first rest =>
      cases read : OptionTitle.parse? name with
      | some title =>
          rw [label_of_title read]
          exact line.append (OptionTitle.isLine_mark (OptionTitle.isCanonical_of_parse? read))
      | none =>
          rw [label_of_no_title read]
          exact line

/-! ## Sections on one line each -/

/-- The name of a section and all names below it are lines. -/
inductive OneLine : Section -> Prop
  | mk {name : String} {members : Forest} (line : Outline.IsLine name)
      (below : forall member, member ∈ members -> OneLine member) : OneLine ⟨name, members⟩

theorem outlines_eq_map (forest : Forest) : outlines forest = forest.map outline := by
  induction forest with
  | nil => rfl
  | cons first rest inductionHypothesis =>
      rw [outlines, inductionHypothesis, List.map_cons]

theorem OneLine.outline {subject : Section} (oneLine : subject.OneLine) :
    subject.outline.OneLine := by
  induction oneLine with
  | @mk name members line below inductionHypothesis =>
      rw [Section.outline, outlines_eq_map]
      exact .mk (isLine_label line) (List.forall_mem_map.mpr inductionHypothesis)

/-- A section whose names are lines is known from its outline. -/
theorem eq_of_outline_eq {left right : Section} (leftLine : left.OneLine)
    (rightLine : right.OneLine) (same : left.outline = right.outline) : left = right := by
  induction leftLine generalizing right with
  | @mk name members line below inductionHypothesis =>
      cases rightLine with
      | @mk other others otherLine otherBelow =>
          rw [outline, outline, Outline.mk.injEq] at same
          -- A name is read for its role, which depends on what is below: this comes first.
          rcases same with ⟨labels, outlinesBelow⟩
          rw [outlines_eq_map, outlines_eq_map] at outlinesBelow
          have sameMembers : members = others :=
            Outline.eq_of_outlines_eq (fun member listed other found =>
              inductionHypothesis member listed (otherBelow other found)) outlinesBelow
          subst sameMembers
          rw [name_eq_of_label line otherLine labels]

/-- Sections whose names are on one line each are the same when their drawings are. -/
theorem eq_of_same_drawing {left right : Section} (leftLine : left.OneLine)
    (rightLine : right.OneLine) (same : left.outline.draw = right.outline.draw) : left = right :=
  eq_of_outline_eq leftLine rightLine
    (Outline.draw_injective leftLine.outline rightLine.outline same)

/-- An option whose names all go on with the same text. -/
def forged (more : String) : Section :=
  ⟨"Option 1: x" ++ more, [command ("$ " ++ more), ⟨"└── " ++ more, [command more]⟩]⟩

theorem oneLine_forged {more : String} (line : Outline.IsLine more) : (forged more).OneLine := by
  have words : Outline.IsLine "Option 1: x" ∧ Outline.IsLine "$ " ∧ Outline.IsLine "└── " := by decide
  rcases words with ⟨title, dollar, rail⟩
  refine .mk (title.append line) ?_
  simp only [List.forall_mem_cons]
  refine ⟨.mk (dollar.append line) (List.forall_mem_nil _), .mk (rail.append line) ?_,
    List.forall_mem_nil _⟩
  exact List.forall_mem_singleton.mpr (.mk line (List.forall_mem_nil _))

/-- A forged mark does not make the drawing of the section without it. -/
theorem eq_of_same_drawing_forged :
    (forged "").OneLine ∧ (forged " [option 1: x]").OneLine ∧
      (forged "").outline.draw ≠ (forged " [option 1: x]").outline.draw ∧
      forged "" = ofOption ⟨1, "x"⟩ [command "$ ", ⟨"└── ", [command ""]⟩] := by
  have lines : Outline.IsLine "" ∧ Outline.IsLine " [option 1: x]" := by decide
  rcases lines with ⟨emptyLine, markLine⟩
  have plain := oneLine_forged emptyLine
  have marked := oneLine_forged markLine
  refine ⟨plain, marked, ?_, eq_of_same_drawing plain plain rfl⟩
  intro same
  have alike := eq_of_same_drawing plain marked same
  exact absurd alike (by decide)

end Section
end Guidebook
