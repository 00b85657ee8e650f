import Guidebook.Document.Format
import Guidebook.Proofs.Json.Agreement
import Guidebook.Proofs.Text.Blank

namespace Guidebook

/-!
# Documents that are lists alone

A list of sections is a document as it stands, and in the field `tree` of an object.
The two are read by different readers, of which the second has one bracket less to open.
Whatever stands in the list, which need not be sections, they read the same forest from
it or they both fail, as long as its brackets are within what the second one admits.
-/

/-! ## Sections under different bounds -/

namespace Section

variable {members others : Json.Reader Forest}

theorem ofJson_refuses (nesting : Nat) {first : Char} {rest : List Char}
    (visible : Json.isBlank first = false) (noList : first ≠ '[') (noObject : first ≠ '\x7b') :
    Json.Refuses (ofJson nesting) (first :: rest) := by
  cases nesting with
  | zero => exact Json.record_refuses _ _ visible noList noObject
  | succ nesting => exact Json.record_refuses _ _ visible noList noObject

/-- A section that is written as a list is its name and its members; further elements are
left where the list should end. -/
theorem listed_agree {nesting : Nat} {first : Json.Element} {rest : List Json.Element}
    (spaced : forall element, element ∈ first :: rest -> element.Spaced)
    (wellFormed : forall element, element ∈ first :: rest -> Json.WellFormed nesting element.value)
    (alike : forall element, element ∈ first :: rest ->
      Json.ReadAlike members others element.value) (left right : List Char) :
    Json.Agree left right
      (Json.closeList (listed members
        (first.onto (Json.following Json.Element.onto rest [']']) ++ left)))
      (Json.closeList (listed others
        (first.onto (Json.following Json.Element.onto rest [']']) ++ right))) := by
  rw [Json.elements_append, Json.elements_append]
  rw [List.forall_mem_cons] at spaced wellFormed alike
  have starts := wellFormed.1.startsValue
  have firstRead := Json.item_agree (Json.nextElement_first starts spaced.1.before _)
    (Json.nextElement_first starts spaced.1.before _)
    (Json.string_alike "a string" wellFormed.1 [] _ _ Json.blanks_nil
      (spaced.1.ends rest left) (spaced.1.ends rest right))
  cases rest with
  | nil =>
      refine Json.Agree.closeList spaced.1.after (firstRead.bind fun name => ?_)
      cases name with
      | none => exact .error _ _
      | some name =>
          simp only [Json.following, Json.item_end members false spaced.1.after left,
            Json.item_end others false spaced.1.after right]
          exact .ok _
  | cons second rest =>
      simp only [List.forall_mem_cons] at spaced wellFormed alike
      have starts := wellFormed.2.1.startsValue
      have secondRead := Json.item_agree
        (Json.nextElement_later starts spaced.1.after spaced.2.1.before _)
        (Json.nextElement_later starts spaced.1.after spaced.2.1.before _)
        (alike.2.1 [] _ _ Json.blanks_nil
          (spaced.2.1.ends rest left) (spaced.2.1.ends rest right))
      refine Json.Agree.closeList_following spaced.2.1.after rest (firstRead.bind fun name => ?_)
      cases name with
      | none => exact .error _ _
      | some name => exact secondRead.bind fun found => .ok _

/-- The list of nothing is no section, since a section has a name. -/
theorem listed_agree_nil {blanks : List Char} (blank : Json.Blanks blanks)
    (left right : List Char) :
    Json.Agree left right (Json.closeList (listed members (blanks ++ [']'] ++ left)))
      (Json.closeList (listed others (blanks ++ [']'] ++ right))) := by
  have missing (reader : Json.Reader Forest) (left : List Char) : Exists fun failure =>
      listed reader (blanks ++ [']'] ++ left) = .error failure := by
    rw [List.append_assoc, List.singleton_append]
    simp only [listed, Json.item_end _ true blank]
    exact ⟨_, rfl⟩
  rcases missing members left with ⟨failure, failed⟩
  rcases missing others right with ⟨another, failedToo⟩
  rw [failed, failedToo]
  exact .error _ _

/-- The name is a text whatever the bound is, and fields of other names are passed over. -/
theorem field_alike {nesting : Nat} {subject : Json.Field} (spaced : subject.Spaced)
    (wellFormed : Json.WellFormed nesting subject.element.value)
    (alike : Json.ReadAlike members others subject.element.value) :
    Json.FieldAlike (field members) (field others) subject := by
  intro name draft left right ends endsToo
  unfold field
  by_cases isName : name = "name"
  · rw [if_pos isName, if_pos isName]
    exact (Json.once_agree spaced (Json.string_alike "a string" wellFormed) name draft.name ends
      endsToo).map fun value => { draft with name := value }
  · rw [if_neg isName, if_neg isName]
    by_cases isMembers : name = "children"
    · rw [if_pos isMembers, if_pos isMembers]
      exact (Json.once_agree spaced alike name draft.members ends endsToo).map
        fun value => { draft with members := value }
    · rw [if_neg isMembers, if_neg isMembers]
      exact Json.ignored_agree spaced wellFormed draft ends endsToo

/-- Make a section of its fields. -/
def Draft.close (gathered : Draft × List Char) : Except Json.Failure (Section × List Char) :=
  match gathered.1.name with
  | some name => .ok (⟨name, gathered.1.members.getD []⟩, gathered.2)
  | none => .error (.waiting (.missingField "name") gathered.2)

theorem named_eq (members : Json.Reader Forest) (text : List Char) :
    named members text = Json.fields (field members) ⟨none, none⟩ text >>= Draft.close := by
  simp only [named]
  cases Json.fields (field members) ⟨none, none⟩ text with
  | error failure => rfl
  | ok gathered =>
      simp only [Json.ok_bind, Draft.close]
      cases gathered.1.name with
      | none => rfl
      | some name => rfl

theorem close_agree (draft : Draft) (left right : List Char) :
    Json.Agree left right (Draft.close (draft, left)) (Draft.close (draft, right)) := by
  unfold Draft.close
  cases draft.name with
  | none => exact .error _ _
  | some name => exact .ok _

end Section

theorem Forest.ofJson_refuses (nesting : Nat) {first : Char} {rest : List Char}
    (visible : Json.isBlank first = false) (noList : first ≠ '[') :
    Json.Refuses (ofJson nesting) (first :: rest) := by
  cases nesting with
  | zero => exact Json.sequence_refuses _ visible noList
  | succ nesting => exact Json.sequence_refuses _ visible noList

/-- What is no list and no object is neither a section nor a forest, whatever the bounds
are. -/
theorem Section.ofJson_alike_of_flat (bound other : Nat) {first : Char} {rest : List Char}
    (visible : Json.isBlank first = false) (noList : first ≠ '[') (noObject : first ≠ '\x7b') :
    Json.ReadAlike (ofJson bound) (ofJson other) (first :: rest) ∧
      Json.ReadAlike (Forest.ofJson bound) (Forest.ofJson other) (first :: rest) := by
  constructor
  · exact (ofJson_refuses bound visible noList noObject).alike
      (ofJson_refuses other visible noList noObject)
  · exact (Forest.ofJson_refuses bound visible noList).alike
      (Forest.ofJson_refuses other visible noList)

/-- Two readers of sections agree on a well-formed value, and so do two readers of
forests, whatever they admit beyond its brackets. -/
theorem Section.ofJson_alike {nesting : Nat} {text : List Char}
    (wellFormed : Json.WellFormed nesting text) {bound other : Nat} (within : nesting ≤ bound)
    (withinToo : nesting ≤ other) :
    Json.ReadAlike (ofJson bound) (ofJson other) text ∧
      Json.ReadAlike (Forest.ofJson bound) (Forest.ofJson other) text := by
  -- Both kinds of reader go together, since the members of a section are a forest.
  induction wellFormed generalizing bound other with
  | word known =>
      rcases Json.exists_first_of_word known with ⟨first, rest, rfl, alone⟩
      exact ofJson_alike_of_flat bound other alone.visible alone.noList alone.noObject
  | number signed unsigned =>
      rcases Json.exists_first_of_number signed unsigned with ⟨first, rest, starts, alone⟩
      rw [starts]
      exact ofJson_alike_of_flat bound other alone.visible alone.noList alone.noObject
  | text isQuoted => exact ofJson_alike_of_flat bound other rfl (by decide) (by decide)
  | @emptyList nesting blanks blank =>
      rcases Nat.exists_eq_add_of_le' within with ⟨bound, rfl⟩
      rcases Nat.exists_eq_add_of_le' withinToo with ⟨other, rfl⟩
      exact ⟨Json.record_alike_list (listed_agree_nil blank) _,
        Json.sequence_alike (Json.elements_alike_nil blank)⟩
  | @list nesting first rest spaced each inductionHypothesis =>
      rcases Nat.exists_eq_add_of_le' within with ⟨bound, rfl⟩
      rcases Nat.exists_eq_add_of_le' withinToo with ⟨other, rfl⟩
      have inside (element : Json.Element) (listed : element ∈ first :: rest) :=
        inductionHypothesis element listed (Nat.le_add_left nesting bound)
          (Nat.le_add_left nesting other)
      constructor
      · exact Json.record_alike_list
          (listed_agree spaced each fun element listed => (inside element listed).2) _
      · exact Json.sequence_alike (Json.elements_alike spaced
          (fun element listed => (each element listed).startsValue)
          fun element listed => (inside element listed).1)
  | @emptyObject nesting blanks blank =>
      rcases Nat.exists_eq_add_of_le' within with ⟨bound, rfl⟩
      rcases Nat.exists_eq_add_of_le' withinToo with ⟨other, rfl⟩
      constructor
      · exact Json.record_alike_object (named_eq _) (named_eq _) close_agree
          (Json.fields_alike_nil _ blank) _
      · exact (Forest.ofJson_refuses _ rfl (by decide)).alike
          (Forest.ofJson_refuses _ rfl (by decide))
  | @object nesting first rest spaced each inductionHypothesis =>
      rcases Nat.exists_eq_add_of_le' within with ⟨bound, rfl⟩
      rcases Nat.exists_eq_add_of_le' withinToo with ⟨other, rfl⟩
      constructor
      · refine Json.record_alike_object (named_eq _) (named_eq _) close_agree
          (Json.fields_alike spaced (fun subject listed => ?_) _) _
        have inside := inductionHypothesis subject listed (Nat.le_add_left nesting bound)
          (Nat.le_add_left nesting other)
        exact field_alike (spaced subject listed) (each subject listed) inside.2
      · exact (Forest.ofJson_refuses _ rfl (by decide)).alike
          (Forest.ofJson_refuses _ rfl (by decide))

namespace Document

/-! ## The field around a forest -/

/-- The characters of the field `tree` in front of its value. -/
def treeName : List Char := ['"', 't', 'r', 'e', 'e', '"', ':']

/-- The field `tree` is gathered by the reader of forests. -/
theorem fields_tree (forest : Json.Reader Forest) (text : List Char) :
    Json.fields (field forest) none (treeName ++ text) =
      forest text >>= fun (result, left) =>
        Json.fieldsFrom (field forest) ((treeName ++ text).drop 1) false (some result) left := by
  have found : Json.nextName true (treeName ++ text) =
      .ok (some ("tree".toList.flatMap Json.escape ++ '"' :: ':' :: text)) :=
    Json.nextName_first Json.blanks_nil _
  have colon : Json.colon (':' :: text) = .ok text := Json.colon_blanks Json.blanks_nil text
  have opened : field forest "tree" none (':' :: text) =
      Json.once "tree" none forest (':' :: text) := if_pos rfl
  have start : treeName ++ text = '"' :: (treeName ++ text).drop 1 := rfl
  simp only [Json.fields]
  nth_rewrite 1 [start]
  rw [Json.fieldsFrom, found, Json.ok_bind]
  simp only [Json.quoted_escape, Json.ok_bind, opened, Json.once, colon]
  cases forest text with
  | error failure => rfl
  | ok outcome => rfl

/-- What is read of the value of the field `tree` is what is read of the object around it. -/
theorem record_agree {forest : Json.Reader Forest} {after text : List Char}
    (blank : Json.Blanks after) {bare : Except Json.Failure (Forest × List Char)}
    (agree : Json.Agree after (after ++ ['\x7d']) bare (forest text)) (wanted : String) :
    Json.Agree after [] bare (Json.record wanted (some ⟨listed forest, named forest⟩)
      ('\x7b' :: (treeName ++ text))) := by
  have gathered := fields_tree forest text
  unfold Json.record
  rw [Json.afterBlanks_cons rfl]
  simp only [named]
  generalize forest text = outcome at agree gathered
  cases agree with
  | ok result =>
      have ended : Json.fieldsFrom (field forest) ((treeName ++ text).drop 1) false (some result)
          (after ++ ['\x7d']) = .ok (some result, after ++ ['\x7d']) := by
        have start : (treeName ++ text).drop 1 = 't' :: (treeName ++ text).drop 2 := rfl
        rw [start, Json.fieldsFrom, Json.nextName_end false blank []]
        rfl
      rw [gathered.trans ended, Json.ok_bind]
      show Json.Agree after [] _ (Json.closeObject (.ok (result, after ++ ['\x7d'])))
      rw [Json.closeObject, Json.objectEnd_blanks blank]
      exact .ok result
  | error failure another =>
      rw [gathered]
      exact .error _ _

/-! ## Documents -/

/-- A text is a well-formed list, with at most so many brackets open at once and with
blanks around it. -/
inductive IsList (nesting : Nat) (text : String) : Prop
  | mk {before inside after : List Char} (blankBefore : Json.Blanks before)
      (blankAfter : Json.Blanks after) (wellFormed : Json.WellFormed nesting ('[' :: inside))
      (written : text.toList = before ++ ('[' :: inside ++ after))

/-- The object with a text in its field `tree`. -/
def inTree (text : String) : String := "\x7b\"tree\":" ++ text ++ "\x7d"

theorem toList_inTree (text : String) :
    (inTree text).toList = '\x7b' :: (treeName ++ (text.toList ++ ['\x7d'])) := by
  rw [inTree, String.toList_append, String.toList_append, List.append_assoc]
  rfl

/-- The blanks of a value are blank wherever a text is trimmed. -/
theorem isBlank_of_isBlank {character : Char} (blank : Json.isBlank character = true) :
    Blank.isBlank character = true := by
  simp only [Json.isBlank, Bool.or_eq_true, beq_iff_eq] at blank
  rcases blank with ((rfl | rfl) | rfl) | rfl <;> rfl

theorem isBare_of_isList {nesting : Nat} {text : String} (isList : IsList nesting text) :
    isBare text = true := by
  cases isList with
  | @mk before inside after blankBefore blankAfter wellFormed written =>
      have trimmed : Blank.trimStart (before ++ ('[' :: inside ++ after)) =
          '[' :: inside ++ after :=
        Blank.trimStart_append_of_blank
          (fun character listed => isBlank_of_isBlank (blankBefore character listed))
          (endsRun_cons rfl)
      rw [isBare, written, trimmed]
      rfl

theorem isBare_inTree (text : String) : isBare (inTree text) = false := by
  rw [isBare, toList_inTree]
  rfl

/-- The reader of a list alone and the reader of a document with its field agree on a
list and the object around it. -/
theorem whole_agree {text : String} (isList : IsList 126 text) :
    (Exists fun forest => Json.whole (Forest.ofJson Json.nestingLimit) text = .ok forest ∧
        Json.whole (wrapped Json.nestingLimit) (inTree text) = .ok forest) ∨
      (Exists fun failure => Json.whole (Forest.ofJson Json.nestingLimit) text = .error failure) ∧
        Exists fun failure =>
          Json.whole (wrapped Json.nestingLimit) (inTree text) = .error failure := by
  cases isList with
  | @mk before inside after blankBefore blankAfter wellFormed written =>
      have alike := (Section.ofJson_alike wellFormed (by decide : 126 ≤ 127) (Nat.le_refl 126)).2
      have agree := alike before after (after ++ ['\x7d']) blankBefore
        (List.append_nil after ▸ Json.endsRun_blanks blankAfter endsRun_nil)
        (Json.endsRun_objectEnd blankAfter [])
      have around := record_agree blankAfter agree "struct GuidebookDocument"
      have bareText : before ++ ('[' :: inside ++ after) = text.toList := written.symm
      have treeText : '\x7b' :: (treeName ++ (before ++ ('[' :: inside ++ (after ++ ['\x7d'])))) =
          (inTree text).toList := by
        rw [toList_inTree, written, List.append_assoc, List.append_assoc]
      rw [bareText, treeText] at around
      change Json.Agree after [] _ (wrapped Json.nestingLimit (inTree text).toList) at around
      generalize bareRead : Forest.ofJson 127 text.toList = bare at around
      generalize treeRead : wrapped Json.nestingLimit (inTree text).toList = tree at around
      cases around with
      | ok forest =>
          exact .inl ⟨forest, Json.whole_of_ok bareRead blankAfter,
            Json.whole_of_ok treeRead Json.blanks_nil⟩
      | error failure another =>
          exact .inr ⟨⟨failure, Json.whole_of_error bareRead⟩, another,
            Json.whole_of_error treeRead⟩

/-- A list is read as a document alone as it is in the field `tree` of an object. -/
theorem read_inTree_iff {text : String} (isList : IsList 126 text) :
    (forall forest, Format.json.read text = .ok forest ↔
        Format.json.read (inTree text) = .ok forest) ∧
      ((Exists fun message => Format.json.read text = .error message) ↔
        Exists fun message => Format.json.read (inTree text) = .error message) := by
  simp only [Format.read, ofJson, isBare_of_isList isList, isBare_inTree, if_true,
    Bool.false_eq_true, if_false]
  rcases whole_agree isList with ⟨forest, bare, around⟩ | ⟨⟨failure, bare⟩, another, around⟩
  · rw [bare, around]
    constructor
    · exact fun other => Iff.rfl
    · constructor
      · rintro ⟨message, failed⟩
        cases failed
      · rintro ⟨message, failed⟩
        cases failed
  · rw [bare, around]
    constructor
    · intro forest
      constructor
      · intro read
        cases read
      · intro read
        cases read
    · exact ⟨fun _ => ⟨_, rfl⟩, fun _ => ⟨_, rfl⟩⟩

/-- Two nodes: an object with a field that nobody asks for, in which half a character and
a number that is too great stand, and the list of a name and its members. -/
def specimen : String := " [\x7b\"name\":\"A\",\"x\":[\"\\ud800\", -1e999]\x7d,[\"B\",[]]]\n"

theorem isList_specimen : IsList 126 specimen := by
  have blank : Json.Blanks [' '] := List.all_eq_true.mp (by decide)
  have newline : Json.Blanks ['\n'] := List.all_eq_true.mp (by decide)
  have tight (text : List Char) : Json.Element.Spaced ⟨[], text, []⟩ :=
    ⟨Json.blanks_nil, Json.blanks_nil⟩
  have spaced (text : List Char) : Json.Element.Spaced ⟨[' '], text, []⟩ :=
    ⟨blank, Json.blanks_nil⟩
  have letter {nesting : Nat} {character : Char} (printable : ¬ character.toNat < 0x20)
      (noQuote : character ≠ '"') (noBackslash : character ≠ '\\') :
      Json.WellFormed nesting ['"', character, '"'] :=
    .text (.plain printable noQuote noBackslash .nil)
  have half : Json.WellFormed 123 ['"', '\\', 'u', 'd', '8', '0', '0', '"'] :=
    .text (.numbered (List.all_eq_true.mp (by decide)) .nil)
  have great : Json.WellFormed 123 ['-', '1', 'e', '9', '9', '9'] := by
    have one : Json.IsWhole ['1'] := .digits (List.all_eq_true.mp (by decide)) (by decide)
    have exponent : Json.IsExponent ['e', '9', '9', '9'] :=
      @Json.IsExponent.digits 'e' '9' [] ['9', '9'] (.inl rfl) (by decide)
        (List.all_eq_true.mp (by decide))
    exact @Json.WellFormed.number 123 ['-'] _ (by decide) (.mk one .absent exponent)
  have unknown := @Json.WellFormed.list 123 ⟨[], _, []⟩ [⟨[' '], _, []⟩]
    (List.forall_mem_cons.mpr ⟨tight _, List.forall_mem_singleton.mpr (spaced _)⟩)
    (List.forall_mem_cons.mpr ⟨half, List.forall_mem_singleton.mpr great⟩)
  have named : Json.IsQuoted ['n', 'a', 'm', 'e'] :=
    .plain (by decide) (by decide) (by decide) (.plain (by decide) (by decide) (by decide)
      (.plain (by decide) (by decide) (by decide) (.plain (by decide) (by decide) (by decide) .nil)))
  have object := @Json.WellFormed.object 124 ⟨[], _, [], ⟨[], _, []⟩⟩ [⟨[], ['x'], [], ⟨[], _, []⟩⟩]
    (List.forall_mem_cons.mpr ⟨⟨Json.blanks_nil, named, Json.blanks_nil, tight _⟩,
      List.forall_mem_singleton.mpr ⟨Json.blanks_nil, .plain (by decide) (by decide) (by decide) .nil,
        Json.blanks_nil, tight _⟩⟩)
    (List.forall_mem_cons.mpr ⟨@letter 124 'A' (by decide) (by decide) (by decide),
      List.forall_mem_singleton.mpr unknown⟩)
  have listed := @Json.WellFormed.list 124 ⟨[], _, []⟩ [⟨[], _, []⟩]
    (List.forall_mem_cons.mpr ⟨tight _, List.forall_mem_singleton.mpr (tight _)⟩)
    (List.forall_mem_cons.mpr ⟨@letter 124 'B' (by decide) (by decide) (by decide),
      List.forall_mem_singleton.mpr (.emptyList Json.blanks_nil)⟩)
  have document := @Json.WellFormed.list 125 ⟨[], _, []⟩ [⟨[], _, []⟩]
    (List.forall_mem_cons.mpr ⟨tight _, List.forall_mem_singleton.mpr (tight _)⟩)
    (List.forall_mem_cons.mpr ⟨object, List.forall_mem_singleton.mpr listed⟩)
  exact .mk blank newline document rfl

/-- The second node is read from the list of its two fields, and nothing is read of what
the first one has besides. -/
theorem read_inTree_specimen :
    IsList 126 specimen ∧ Format.json.read (inTree specimen) = .ok [⟨"A", []⟩, ⟨"B", []⟩] := by
  have bare : Format.json.read specimen = .ok [⟨"A", []⟩, ⟨"B", []⟩] := by decide +kernel
  exact ⟨isList_specimen, ((read_inTree_iff isList_specimen).1 _).mp bare⟩

end Document
end Guidebook
