import Guidebook.Proofs.Section.Position
import Guidebook.Proofs.Text.Numeral

namespace Guidebook

/-!
# Positions in document order

A position stands for a section in two ways.  Its written form belongs to no other
position, whatever the number of indices and of their digits: an index has a digit
and no slash, so that even the position of the forest, which is written as a slash
alone, is told from all others.  And positions are ordered as their sections are.

The order of positions looks at indices only and knows of no forest.  Document order
is that of a walk, which comes by a section before its members and by everything
below one member before the next member.  That the two agree is proved for the walk
over any forest, and no position is assumed to lead to a section.
-/

namespace Position

/-! ## Written positions -/

theorem noSlash_of_isDigit {text : List Char}
    (decimal : forall digit, digit ∈ text -> Numeral.isDigit digit = true) : '/' ∉ text := by
  intro listed
  exact absurd (decimal '/' listed) (by decide)

/-- What stands between the slashes of a written position, behind the first one. -/
theorem splitOn_text (position : Position) :
    (position.text.toList.drop 1).splitOn '/' =
      if position.indices = [] then [[]]
      else position.indices.map fun index => (toString index).toList := by
  have behind : position.text.toList.drop 1 =
      ['/'].intercalate (position.indices.map fun index => (toString index).toList) := by
    have slash : "/".toList = ['/'] := rfl
    rw [text, String.toList_append, String.toList_intercalate, List.map_map, slash]
    rfl
  rw [behind]
  split
  · next isRoot =>
      rw [isRoot]
      rfl
  · next nonempty =>
      refine List.splitOn_intercalate '/' ?_ (fun none => nonempty (List.map_eq_nil_iff.mp none))
      intro numeral listed
      rcases List.mem_map.mp listed with ⟨index, -, rfl⟩
      exact noSlash_of_isDigit fun _ written => Numeral.isDigit_of_mem_toString written

theorem map_toString_ne_blank {indices : List Nat} :
    indices.map (fun index => (toString index).toList) ≠ [[]] := by
  intro same
  rcases List.map_eq_singleton_iff.mp same with ⟨index, -, blank⟩
  rcases Numeral.exists_first_toString index with ⟨first, later, digits, -⟩
  rw [digits] at blank
  cases blank

/-- A position is known from its written form. -/
theorem text_injective {left right : Position} (same : left.text = right.text) :
    left = right := by
  have pieces := congrArg (fun text => (text.toList.drop 1).splitOn '/') same
  simp only [splitOn_text] at pieces
  rcases left with ⟨lefts⟩
  rcases right with ⟨rights⟩
  split at pieces
  · next leftRoot =>
      split at pieces
      · next rightRoot => exact congrArg Position.mk (leftRoot.trans rightRoot.symm)
      · exact absurd pieces.symm map_toString_ne_blank
  · split at pieces
    · exact absurd pieces map_toString_ne_blank
    · have sameIndices := (List.map_inj_right fun _ _ => Numeral.toString_injective).mp pieces
      exact congrArg Position.mk sameIndices

/-! ## The order of positions -/

/-- Document order of positions: one that is above another comes before it, and so
does one at or below an earlier member of what both are below. -/
inductive Precedes : Position -> Position -> Prop
  | above (position : Position) (index : Nat) (below : List Nat) :
      Precedes position ⟨position.indices ++ index :: below⟩
  | beside (around : Position) {first second : Nat} (earlier : first < second)
      (firstBelow secondBelow : List Nat) :
      Precedes ⟨around.indices ++ first :: firstBelow⟩ ⟨around.indices ++ second :: secondBelow⟩

theorem compare_append (common left right : List Nat) :
    compare (common ++ left) (common ++ right) = compare left right := by
  induction common with
  | nil => rfl
  | cons index rest inductionHypothesis =>
      have same : compare index index = .eq := Nat.compare_eq_eq.mpr rfl
      rw [List.cons_append, List.cons_append, List.compare_cons_cons, same, inductionHypothesis]
      rfl

theorem precedes_of_compare {left right : List Nat} (smaller : compare left right = .lt)
    (common : List Nat) : Precedes ⟨common ++ left⟩ ⟨common ++ right⟩ := by
  -- What the two have in common is moved to the front, one index at a time.
  induction left generalizing right common with
  | nil =>
      cases right with
      | nil => cases smaller
      | cons index below =>
          rw [List.append_nil]
          exact .above ⟨common⟩ index below
  | cons first firstBelow inductionHypothesis =>
      cases right with
      | nil => cases smaller
      | cons second secondBelow =>
          rw [List.compare_cons_cons, Ordering.then_eq_lt, Nat.compare_eq_lt,
            Nat.compare_eq_eq] at smaller
          rcases smaller with earlier | ⟨rfl, further⟩
          · exact .beside ⟨common⟩ earlier firstBelow secondBelow
          · rw [List.append_cons common first firstBelow, List.append_cons common first secondBelow]
            exact inductionHypothesis further (common ++ [first])

theorem compare_eq_lt_iff (left right : Position) :
    compare left right = .lt ↔ left.Precedes right := by
  rw [compare_eq]
  constructor
  · intro smaller
    exact precedes_of_compare smaller []
  · intro precedes
    cases precedes with
    | above _ index below =>
        calc
          compare left.indices (left.indices ++ index :: below) =
              compare (left.indices ++ []) (left.indices ++ index :: below) := by
            rw [List.append_nil]
          _ = .lt := compare_append left.indices [] (index :: below)
    | beside around earlier firstBelow secondBelow =>
        rw [compare_append, List.compare_cons_cons, Nat.compare_eq_lt.mpr earlier]
        rfl

end Position

/-! ## The walk over a forest -/

mutual
/-- A section at a position and everything below it, each with its position, in
document order. -/
def Section.placed (position : Position) : Section -> List (Position × Section)
  | ⟨name, members⟩ => (position, ⟨name, members⟩) :: Forest.placedFrom position 0 members

/-- The members of what is at a position, from a member with this index on, and
everything below them, each with its position, in document order. -/
def Forest.placedFrom (around : Position) (index : Nat) : Forest -> List (Position × Section)
  | [] => []
  | first :: rest => first.placed (around.child index) ++ Forest.placedFrom around (index + 1) rest
end

/-- The sections of a forest on all levels with their positions, in document order. -/
def Forest.placed (forest : Forest) : List (Position × Section) :=
  forest.placedFrom .root 0

mutual
/-- The walk comes by all sections, in document order. -/
theorem Section.map_snd_placed (position : Position) : (subject : Section) ->
    (subject.placed position).map Prod.snd = subject.sections
  | ⟨name, members⟩ => by
      rw [Section.placed, List.map_cons, Forest.map_snd_placedFrom position 0 members,
        Section.sections]

theorem Forest.map_snd_placedFrom (around : Position) (index : Nat) : (forest : Forest) ->
    (forest.placedFrom around index).map Prod.snd = forest.sections
  | [] => by rw [Forest.placedFrom, List.map_nil, Forest.sections_nil]
  | first :: rest => by
      rw [Forest.placedFrom, List.map_append, Section.map_snd_placed _ first,
        Forest.map_snd_placedFrom around (index + 1) rest, Forest.sections_cons]
end

mutual
/-- The walk comes by whatever a path leads to, and by nothing else. -/
theorem Section.mem_placed_iff (start position : Position) (inner : Section) :
    (subject : Section) ->
      ((position, inner) ∈ subject.placed start ↔
        Exists fun path => position = ⟨start.indices ++ path⟩ ∧ subject.at? path = some inner)
  | ⟨name, members⟩ => by
      rw [Section.placed, List.mem_cons, Forest.mem_placedFrom_iff start 0 position inner members]
      constructor
      · rintro (same | ⟨offset, path, member, listed, rfl, reached⟩)
        · cases same
          exact ⟨[], by rw [List.append_nil], rfl⟩
        · rw [Nat.zero_add]
          exact ⟨offset :: path, rfl,
            (Section.at?_cons_eq_some_iff offset path _ inner).mpr ⟨member, listed, reached⟩⟩
      · rintro ⟨path, rfl, reached⟩
        cases path with
        | nil =>
            cases reached
            exact Or.inl (by rw [List.append_nil])
        | cons offset below =>
            rcases (Section.at?_cons_eq_some_iff offset below _ inner).mp reached with
              ⟨member, listed, onward⟩
            exact Or.inr ⟨offset, below, member, listed, by rw [Nat.zero_add], onward⟩

theorem Forest.mem_placedFrom_iff (around : Position) (index : Nat) (position : Position)
    (inner : Section) : (forest : Forest) ->
      ((position, inner) ∈ forest.placedFrom around index ↔
        Exists fun offset => Exists fun path => Exists fun member =>
          forest[offset]? = some member ∧
            position = ⟨around.indices ++ (index + offset) :: path⟩ ∧
            member.at? path = some inner)
  | [] => by simp [Forest.placedFrom]
  | first :: rest => by
      rw [Forest.placedFrom, List.mem_append,
        Section.mem_placed_iff (around.child index) position inner first,
        Forest.mem_placedFrom_iff around (index + 1) position inner rest]
      constructor
      · rintro (⟨path, rfl, reached⟩ | ⟨offset, path, member, listed, rfl, reached⟩)
        · exact ⟨0, path, first, rfl, by simp, reached⟩
        · exact ⟨offset + 1, path, member, listed, by rw [Nat.add_right_comm, Nat.add_assoc],
            reached⟩
      · rintro ⟨offset, path, member, listed, rfl, reached⟩
        cases offset with
        | zero =>
            cases listed
            exact Or.inl ⟨path, by simp, reached⟩
        | succ offset =>
            exact Or.inr ⟨offset, path, member, listed, by rw [Nat.add_right_comm, Nat.add_assoc],
              reached⟩
end

/-- A section is what a path leads to: from a root, with the index of the root in front. -/
theorem Forest.mem_placed_iff (forest : Forest) (position : Position) (inner : Section) :
    (position, inner) ∈ forest.placed ↔
      Exists fun index => Exists fun path => Exists fun root =>
        forest[index]? = some root ∧ position = ⟨index :: path⟩ ∧ root.at? path = some inner := by
  rw [Forest.placed, Forest.mem_placedFrom_iff]
  simp [Position.root]

mutual
/-- Of any two sections that the walk comes by, the position of the first one
precedes that of the other. -/
theorem Section.pairwise_placed (start : Position) : (subject : Section) ->
    (subject.placed start).Pairwise fun left right => left.1.Precedes right.1
  | ⟨name, members⟩ => by
      rw [Section.placed]
      refine List.pairwise_cons.mpr ⟨?_, Forest.pairwise_placedFrom start 0 members⟩
      rintro ⟨position, inner⟩ below
      rcases (Forest.mem_placedFrom_iff start 0 position inner members).mp below with
        ⟨offset, path, -, -, rfl, -⟩
      exact .above start (0 + offset) path

theorem Forest.pairwise_placedFrom (around : Position) (index : Nat) : (forest : Forest) ->
    (forest.placedFrom around index).Pairwise fun left right => left.1.Precedes right.1
  | [] => by
      rw [Forest.placedFrom]
      exact .nil
  | first :: rest => by
      rw [Forest.placedFrom]
      refine List.pairwise_append.mpr ⟨Section.pairwise_placed (around.child index) first,
        Forest.pairwise_placedFrom around (index + 1) rest, ?_⟩
      rintro ⟨left, leftInner⟩ leftListed ⟨right, rightInner⟩ rightListed
      rcases (Section.mem_placed_iff (around.child index) left leftInner first).mp leftListed with
        ⟨leftPath, rfl, -⟩
      rcases (Forest.mem_placedFrom_iff around (index + 1) right rightInner rest).mp rightListed
        with ⟨offset, rightPath, -, -, rfl, -⟩
      rw [Position.indices_child, List.append_assoc, List.singleton_append]
      exact .beside around (by omega) leftPath rightPath
end

/-- The written form of a position belongs to no other position, and positions are
ordered as document order has it.  The sections of a forest with their positions are
those that paths lead to, and where they stand in document order is told by comparing
their positions. -/
theorem Forest.positions_identify_sections :
    (forall left right : Position, left.text = right.text ↔ left = right) ∧
    (forall left right : Position, compare left right = .lt ↔ left.Precedes right) ∧
    forall forest : Forest,
      forest.placed.map Prod.snd = forest.sections ∧
      (forall position inner, (position, inner) ∈ forest.placed ↔
        Exists fun index => Exists fun path => Exists fun root =>
          forest[index]? = some root ∧ position = ⟨index :: path⟩ ∧ root.at? path = some inner) ∧
      forall first second : Fin forest.placed.length,
        compare forest.placed[first].1 forest.placed[second].1 = compare first second := by
  refine ⟨fun left right => ⟨Position.text_injective, congrArg Position.text⟩,
    Position.compare_eq_lt_iff, fun forest => ?_⟩
  refine ⟨Forest.map_snd_placedFrom .root 0 forest, forest.mem_placed_iff, ?_⟩
  have ordered (first second : Fin forest.placed.length) (earlier : first < second) :
      compare forest.placed[first].1 forest.placed[second].1 = .lt := by
    have precedes := List.pairwise_iff_getElem.mp (Forest.pairwise_placedFrom .root 0 forest)
    exact (Position.compare_eq_lt_iff _ _).mpr
      (precedes first second first.isLt second.isLt earlier)
  intro first second
  rcases Nat.lt_trichotomy first second with earlier | same | later
  · rw [ordered first second earlier]
    exact (Nat.compare_eq_lt.mpr earlier).symm
  · cases Fin.ext same
    have reflexive (indices : List Nat) : compare indices indices = .eq := Std.ReflCmp.compare_self
    rw [Position.compare_eq, reflexive]
    exact (Nat.compare_eq_eq.mpr rfl).symm
  · have turned := ordered second first later
    rw [Position.compare_eq, Std.OrientedOrd.eq_swap, ← Position.compare_eq, turned]
    exact (Nat.compare_eq_gt.mpr later).symm

end Guidebook
