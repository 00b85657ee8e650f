import Guidebook.Proofs.Document.Json
import Guidebook.Proofs.Toml.Header

namespace Guidebook

/-!
# TOML documents are read back

A forest is written in the order of the document: every section has the header of its
level and its name, and the sections below it follow.  No header says which section it
is below, and none is closed.  A section goes to the last one that was written on the
level above, which is the one that it belongs to.

A header has a part for every level, so many more levels can be read from these lines
than from the brackets of the other format.
-/

/-! ## Writing -/

namespace Section

/-- The line with the name of a section. -/
def nameLine (name : String) : Toml.Line :=
  ⟨"name", Toml.spell name.toList .quoted, .text name⟩

mutual
/-- The lines of a section with its header, and those of the sections below it. -/
def tomlLines (header : List String) : Section -> List Char
  | ⟨name, members⟩ =>
    Toml.writeHeader header ++
      ((nameLine name).write ++ tomlLinesOfAll (header ++ ["children"]) members)

/-- The lines of the sections of a forest, all with the same header. -/
def tomlLinesOfAll (header : List String) : Forest -> List Char
  | [] => []
  | first :: rest => first.tomlLines header ++ tomlLinesOfAll header rest
end

mutual
/-- The table that a section is read as. -/
def table : Section -> Toml.Table
  | ⟨name, members⟩ => (Toml.Table.ofLines [nameLine name]).filled "children" (tables members)

/-- The tables of the sections of a forest. -/
def tables : Forest -> List Toml.Table
  | [] => []
  | first :: rest => first.table :: tables rest
end

end Section

namespace Document

/-- The text of a document with a header for every section. -/
def toml (forest : Forest) : String :=
  String.ofList (Section.tomlLinesOfAll ["tree"] forest)

end Document

example :
    Document.toml [⟨"A", [⟨"B", [.command "c \"d\""]⟩, .command "e"]⟩, .command "f"] =
      "[[tree]]\nname = \"A\"\n[[tree.children]]\nname = \"B\"\n" ++
        "[[tree.children.children]]\nname = \"c \\\"d\\\"\"\n" ++
        "[[tree.children]]\nname = \"e\"\n[[tree]]\nname = \"f\"\n" := by
  decide +kernel

/-! ## Tables under their headers -/

namespace Section

/-- The lines of a table put it under a key, whatever was read before: at the end of the
list that is there, or as the only table. -/
def Places (path : List String) (key : String) (text : List Char) (table : Toml.Table) : Prop :=
  forall (draft : Toml.Draft) (root result : Toml.Table), draft.close? = some root ->
    root.appended? path key table = some result ->
      Exists fun next => Toml.ReadsLines draft text next ∧ next.close? = some result

theorem isBarePart_tree : Toml.IsBarePart "tree" :=
  ⟨by decide, List.all_eq_true.mp (by decide)⟩

theorem isBarePart_children : Toml.IsBarePart "children" :=
  ⟨by decide, List.all_eq_true.mp (by decide)⟩

theorem isReadable_nameLine (name : String) : (nameLine name).IsReadable where
  nonempty := (by decide : "name".toList ≠ [])
  bare := List.all_eq_true.mp (by decide : "name".toList.all Toml.isBare = true)
  reads := Toml.spell_reads _ trivial

theorem readsLines_tables {path : List String} {key : String} {members : Forest}
    (each : forall member, member ∈ members ->
      Places path key (member.tomlLines (path ++ [key])) member.table)
    {draft : Toml.Draft} {root result : Toml.Table} (closed : draft.close? = some root)
    (appended : root.appendedAll? path key (tables members) = some result) :
    Exists fun next =>
      Toml.ReadsLines draft (tomlLinesOfAll (path ++ [key]) members) next ∧
        next.close? = some result := by
  induction members generalizing draft root with
  | nil =>
      cases appended
      exact ⟨draft, .nil draft, closed⟩
  | cons first rest inductionHypothesis =>
      rw [List.forall_mem_cons] at each
      rcases Option.bind_eq_some_iff.mp appended with ⟨middle, firstAppended, restAppended⟩
      rcases each.1 draft root middle closed firstAppended with ⟨next, read, closed⟩
      rcases inductionHypothesis each.2 closed restAppended with ⟨last, readRest, closed⟩
      exact ⟨last, read.trans readRest, closed⟩

/-- A section is put under its header: its own lines make a table there, and each section
below is appended to what that table has come to be. -/
theorem places_table (subject : Section) (path : List String) (key : String)
    (bare : forall part, part ∈ path ++ [key] -> Toml.IsBarePart part)
    (few : (path ++ [key]).length + subject.depth ≤ Toml.nestingBound) :
    Places path key (subject.tomlLines (path ++ [key])) subject.table := by
  induction subject using member_induction generalizing path key with
  | above name members inductionHypothesis =>
      intro draft root result closed appended
      have levels := (depth_mk_le_iff name members (path ++ [key]).length 79).mp few
      have level : (path ++ [key]).length < Toml.nestingBound := Nat.lt_succ_of_le levels.1
      rcases Toml.Table.exists_appended? appended (.ofLines [nameLine name]) with
        ⟨named, namedAppended⟩
      have header := Toml.ReadsLines.header (by simp) bare level
        (Toml.Draft.open?_repeated closed appended)
      have line : Toml.ReadsLines ⟨root, some ⟨path ++ [key], true⟩, .empty .header⟩
          (nameLine name).write ⟨root, some ⟨path ++ [key], true⟩, .ofLines [nameLine name]⟩ :=
        .line (isReadable_nameLine name) (List.forall_mem_nil _)
      -- With its name alone the section is in its place, where the sections below fill it.
      have namedClosed := (Toml.Draft.close?_repeated root path key _).trans namedAppended
      have filled := Toml.Table.appendedAll?_filled
        (rfl : (Toml.Table.ofLines [nameLine name]).find? "children" = none) [] (tables members)
      have inside := (Toml.Table.appendedAll?_inside namedAppended filled).trans appended
      have each (member : Section) (listed : member ∈ members) :
          Places (path ++ [key]) "children" (member.tomlLines (path ++ [key] ++ ["children"]))
            member.table := by
        refine inductionHypothesis member listed _ _ (fun part member => ?_) ?_
        · rcases List.mem_append.mp member with above | last
          · exact bare part above
          · rw [List.mem_singleton.mp last]
            exact isBarePart_children
        · rw [List.length_append]
          exact levels.2 member listed
      rcases readsLines_tables each namedClosed inside with ⟨last, read, lastClosed⟩
      exact ⟨last, header.trans (line.trans read), lastClosed⟩

/-! ## Tables as sections -/

theorem toValue_table_command (name : String) :
    (table ⟨name, []⟩).toValue = .table [("name", .text name)] := rfl

theorem listValues_eq_map (tables : List Toml.Table) :
    Toml.Table.listValues tables = tables.map Toml.Table.toValue := by
  induction tables with
  | nil => rfl
  | cons first rest inductionHypothesis =>
      rw [Toml.Table.listValues, inductionHypothesis, List.map_cons]

theorem toValue_tables (listed : List Toml.Table) :
    (Toml.Item.tables listed.reverse).toValue = .list (listed.map Toml.Table.toValue) := by
  rw [Toml.Item.toValue, listValues_eq_map, List.map_reverse, List.reverse_reverse]

theorem toValue_table_of_members (name : String) {members : Forest} (nonempty : members ≠ []) :
    (table ⟨name, members⟩).toValue =
      .table [("name", .text name), ("children", .list ((tables members).map Toml.Table.toValue))] := by
  rcases List.exists_cons_of_ne_nil nonempty with ⟨first, rest, rfl⟩
  rw [← toValue_tables]
  rfl

theorem forestOfToml_tables {members : Forest}
    (each : forall member, member ∈ members -> ofToml member.table.toValue = .ok member) :
    forestOfToml ((tables members).map Toml.Table.toValue) = .ok members := by
  induction members with
  | nil => rfl
  | cons first rest inductionHypothesis =>
      rw [List.forall_mem_cons] at each
      rw [tables, List.map_cons, forestOfToml, each.1, inductionHypothesis each.2]
      rfl

/-- The table of a section is read as the section. -/
theorem ofToml_table (subject : Section) : ofToml subject.table.toValue = .ok subject := by
  induction subject using member_induction with
  | above name members inductionHypothesis =>
      by_cases empty : members = []
      · subst members
        rw [toValue_table_command]
        rfl
      · have below := forestOfToml_tables inductionHypothesis
        rw [toValue_table_of_members name empty]
        simp only [ofToml, ofEntries, Toml.Value.asText, listOfToml, below]
        rfl

end Section

/-! ## Documents -/

namespace Document

theorem document_toml {forest : Forest} (nonempty : forest ≠ [])
    (each : forall root, root ∈ forest -> root.depth < Toml.nestingBound) :
    Toml.document (toml forest) =
      .ok [("tree", .list ((Section.tables forest).map Toml.Table.toValue))] := by
  have places (root : Section) (listed : root ∈ forest) :
      Section.Places [] "tree" (root.tomlLines ["tree"]) root.table :=
    root.places_table [] "tree" (List.forall_mem_singleton.mpr Section.isBarePart_tree)
      (Nat.add_comm 1 root.depth ▸ each root listed)
  have appended := Toml.Table.appendedAll?_filled
    (rfl : (Toml.Table.empty .header).find? "tree" = none) [] (Section.tables forest)
  have started : Toml.Draft.empty.close? =
      some ((Toml.Table.empty .header).filled "tree" []) := rfl
  rcases Section.readsLines_tables places started appended with ⟨draft, read, closed⟩
  have unmarked : (Section.tomlLinesOfAll ["tree"] forest).head? ≠ some Toml.mark := by
    rcases List.exists_cons_of_ne_nil nonempty with ⟨⟨name, members⟩, rest, rfl⟩
    show some '[' ≠ some Toml.mark
    decide
  apply Toml.document_of_linesFrom unmarked read.linesFrom_eq closed
  rw [← Section.toValue_tables]
  rcases List.exists_cons_of_ne_nil nonempty with ⟨first, rest, rfl⟩
  rfl

/-- The lines of a forest are read back, with fewer levels than a key may have parts. -/
theorem ofToml_toml {forest : Forest} (nonempty : forest ≠ [])
    (each : forall root, root ∈ forest -> root.depth < Toml.nestingBound) :
    ofToml (toml forest) = .ok forest := by
  have read := Section.forestOfToml_tables fun root (_ : root ∈ forest) => root.ofToml_table
  rw [ofToml, document_toml nonempty each]
  simp only [List.find?_cons, decide_true, Section.listOfToml, read]
  rfl

/-- The same forest is read from its lines and from its brackets. -/
theorem read_toml_of_depth {forest : Forest} (nonempty : forest ≠ [])
    (each : forall root, root ∈ forest -> root.depth ≤ 63) :
    Format.toml.read (toml forest) = .ok forest ∧ Format.json.read (json forest) = .ok forest := by
  constructor
  · have shallow : forall root, root ∈ forest -> root.depth < Toml.nestingBound :=
      fun root listed => Nat.lt_of_le_of_lt (each root listed) (by decide)
    rw [Format.read, ofToml_toml nonempty shallow]
    rfl
  · exact read_json_eq_ok ((ofJson_json forest).1 ((forest.depth_le_iff 63).mpr each))

/-- A command after a deeper section, next to a section, and under the name of a key; and
names that have to be escaped. -/
def scattered : Forest :=
  [⟨"\"\\\n\t\u0001\u007f é", [.command "", ⟨"deep", [⟨"deeper", [.command "]"]⟩]⟩, .command "after"]⟩,
    .command "[[tree]]", ⟨"last", [.command "name = \"x\""]⟩]

theorem read_toml_scattered :
    Format.toml.read (toml scattered) = .ok scattered ∧
      Format.json.read (json scattered) = .ok scattered :=
  read_toml_of_depth (by decide) (by decide)

end Document
end Guidebook
