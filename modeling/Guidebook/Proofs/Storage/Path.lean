import Mathlib.Data.List.TakeWhile
import Guidebook.Storage.Path

namespace Guidebook
namespace Path

/-!
# Paths below a folder

The path of an entry is the path of its folder with a name put behind it, and so
on for every level.  However the folder is written, each name is then one more
part: a slash is put in front of it when there is none yet, and the name itself
has none.  Paths are compared part by part, and the order of the parts makes theirs.
-/

/-- A name that something in a folder can have. -/
structure IsName (name : Name) : Prop where
  nonempty : name ≠ []
  noSlash : slash ∉ name
  notHere : name ≠ [point]
  notUp : name ≠ [point, point]

instance (name : Name) : Decidable (IsName name) :=
  decidable_of_iff
    (name ≠ [] ∧ slash ∉ name ∧ name ≠ [point] ∧ name ≠ [point, point])
    ⟨fun ⟨nonempty, noSlash, notHere, notUp⟩ => ⟨nonempty, noSlash, notHere, notUp⟩,
      fun isName => ⟨isName.nonempty, isName.noSlash, isName.notHere, isName.notUp⟩⟩

/-- The path to what has some names below a folder, one level after the other. -/
def under (folder : Path) (names : List Name) : Path :=
  names.foldl (fun folder name => folder.join ⟨name⟩) folder

theorem under_cons (folder : Path) (name : Name) (names : List Name) :
    folder.under (name :: names) = (folder.join ⟨name⟩).under names := rfl

/-! ## Runs -/

theorem splitFrom_ne_nil (between : UInt8) (run text : Bytes) :
    splitFrom between run text ≠ [] := by
  induction text generalizing run with
  | nil => exact List.cons_ne_nil _ _
  | cons byte rest inductionHypothesis =>
      rw [splitFrom]
      split
      · exact List.cons_ne_nil _ _
      · exact inductionHypothesis (byte :: run)

theorem splitFrom_of_not_mem {between : UInt8} {text : Bytes} (absent : between ∉ text)
    (run : Bytes) : splitFrom between run text = [run.reverse ++ text] := by
  induction text generalizing run with
  | nil => rw [splitFrom, List.append_nil]
  | cons byte rest inductionHypothesis =>
      have other : ¬ byte = between := fun same => absent (same ▸ List.mem_cons_self)
      rw [splitFrom, if_neg other,
        inductionHypothesis (fun later => absent (List.mem_cons_of_mem byte later)),
        List.reverse_cons, List.append_assoc, List.singleton_append]

theorem splitFrom_append (between : UInt8) (run left right : Bytes) :
    splitFrom between run (left ++ between :: right) =
      splitFrom between run left ++ splitFrom between [] right := by
  induction left generalizing run with
  | nil => simp only [List.nil_append, splitFrom, if_true, List.singleton_append]
  | cons byte rest inductionHypothesis =>
      rw [List.cons_append, splitFrom, splitFrom]
      split
      · rw [inductionHypothesis, List.cons_append]
      · exact inductionHypothesis (byte :: run)

/-! ## Parts -/

/-- The parts that the runs of a path write. -/
def partsOfRuns (isAbsolute : Bool) : List Bytes -> List Part
  | [] => []
  | first :: rest =>
    (if isAbsolute then [.root]
      else if first = [point] then [.here]
      else (Part.ofRun? first).toList)
      ++ rest.filterMap Part.ofRun?

theorem parts_eq (path : Path) : path.parts = partsOfRuns path.isAbsolute path.runs := by
  rw [parts]
  cases path.runs with
  | nil => rfl
  | cons first rest => rfl

/-- Runs behind the first one write their parts alone. -/
theorem partsOfRuns_append (isAbsolute : Bool) {runs : List Bytes} (nonempty : runs ≠ [])
    (more : List Bytes) :
    partsOfRuns isAbsolute (runs ++ more) =
      partsOfRuns isAbsolute runs ++ more.filterMap Part.ofRun? := by
  cases runs with
  | nil => exact absurd rfl nonempty
  | cons first rest =>
      rw [List.cons_append, partsOfRuns, partsOfRuns, List.filterMap_append, List.append_assoc]

theorem Part.ofRun?_of_isName {name : Name} (isName : IsName name) :
    Part.ofRun? name = some (.name name) := by
  simp [Part.ofRun?, isName.nonempty, isName.notHere, isName.notUp]

/-- What stands behind a slash adds its own parts. -/
theorem parts_append_slash (before after : Bytes) :
    parts ⟨before ++ slash :: after⟩ =
      parts ⟨before ++ [slash]⟩ ++ (runs ⟨after⟩).filterMap Part.ofRun? := by
  have sameStart : isAbsolute ⟨before ++ slash :: after⟩ = isAbsolute ⟨before ++ [slash]⟩ := by
    cases before with
    | nil => rfl
    | cons byte rest => rfl
  have started := splitFrom_ne_nil slash [] before
  rw [parts_eq, parts_eq, sameStart, runs, runs, splitFrom_append, splitFrom_append,
    partsOfRuns_append _ started, partsOfRuns_append _ started, List.append_assoc]
  rfl

/-- A slash at the end writes no part, unless it is the root. -/
theorem parts_append_slash_nil {before : Bytes} (nonempty : before ≠ []) :
    parts ⟨before ++ [slash]⟩ = parts ⟨before⟩ := by
  have sameStart : isAbsolute ⟨before ++ [slash]⟩ = isAbsolute ⟨before⟩ := by
    cases before with
    | nil => exact absurd rfl nonempty
    | cons byte rest => rfl
  rw [parts_eq, parts_eq, sameStart, runs, splitFrom_append,
    partsOfRuns_append _ (splitFrom_ne_nil slash [] before)]
  exact List.append_nil _

theorem runs_of_isName {name : Name} (isName : IsName name) : runs ⟨name⟩ = [name] :=
  splitFrom_of_not_mem isName.noSlash []

theorem isAbsolute_of_isName {name : Name} (isName : IsName name) :
    isAbsolute ⟨name⟩ = false := by
  cases name with
  | nil => rfl
  | cons byte rest =>
      have other : byte ≠ slash := fun same => isName.noSlash (same ▸ List.mem_cons_self)
      simpa [isAbsolute] using other

theorem parts_of_isName {name : Name} (isName : IsName name) : parts ⟨name⟩ = [.name name] := by
  rw [parts_eq, isAbsolute_of_isName isName, runs_of_isName isName, partsOfRuns,
    if_neg Bool.false_ne_true, if_neg isName.notHere, Part.ofRun?_of_isName isName]
  rfl

/-- A name put behind a folder is one more part. -/
theorem parts_join (folder : Path) {name : Name} (isName : IsName name) :
    (folder.join ⟨name⟩).parts = folder.parts ++ [.name name] := by
  have own : (runs ⟨name⟩).filterMap Part.ofRun? = [.name name] := by
    rw [runs_of_isName isName, List.filterMap_cons_some (Part.ofRun?_of_isName isName),
      List.filterMap_nil]
  have behindSlash (before : Bytes) :
      parts ⟨before ++ slash :: name⟩ = parts ⟨before ++ [slash]⟩ ++ [.name name] := by
    rw [parts_append_slash, own]
  rcases folder with ⟨bytes⟩
  rw [join, isAbsolute_of_isName isName, if_neg Bool.false_ne_true]
  -- The three ways to write a folder: no bytes, with a slash at the end, without one.
  by_cases empty : bytes = []
  · subst empty
    exact parts_of_isName isName
  by_cases ended : bytes.getLast? = some slash
  · rcases List.getLast?_eq_some_iff.mp ended with ⟨before, rfl⟩
    simp [isFolderLike, behindSlash]
  · simp [isFolderLike, empty, ended, behindSlash, parts_append_slash_nil]

theorem parts_under {folder : Path} {names : List Name}
    (areNames : forall name, name ∈ names -> IsName name) :
    (folder.under names).parts = folder.parts ++ names.map Part.name := by
  induction names generalizing folder with
  | nil => exact (List.append_nil _).symm
  | cons name rest inductionHypothesis =>
      have isName := areNames name List.mem_cons_self
      have later := fun name listed => areNames name (List.mem_cons_of_mem _ listed)
      rw [under_cons, inductionHypothesis later, parts_join folder isName, List.map_cons,
        List.append_assoc, List.singleton_append]

theorem names_of_parts {folder found : Path} {left right : List Name}
    (first : found.parts = folder.parts ++ left.map Part.name)
    (second : found.parts = folder.parts ++ right.map Part.name) : left = right := by
  have same := List.append_cancel_left (first.symm.trans second)
  exact (List.map_inj_right fun _ _ => Part.name.inj).mp same

/-! ## Order -/

theorem orderBytes_eq (left right : Bytes) : orderBytes left right = compare left right := by
  induction left generalizing right with
  | nil =>
      cases right with
      | nil => rfl
      | cons byte rest => rfl
  | cons byte rest inductionHypothesis =>
      cases right with
      | nil => rfl
      | cons other others =>
          rw [orderBytes, inductionHypothesis, List.compare_cons_cons]

def Part.bytes : Part -> Bytes
  | .name written => written
  | _ => []

/-- Parts are compared by kind first, and parts of one kind by their names. -/
theorem Part.order_eq : Part.order = compareLex (compareOn Part.rank) (compareOn Part.bytes) := by
  funext left right
  cases left with
  | name written =>
      cases right with
      | name other => exact orderBytes_eq written other
      | _ => rfl
  | _ => cases right <;> rfl

theorem Part.eq_of_rank_bytes {left right : Part} (sameRank : left.rank = right.rank)
    (sameBytes : left.bytes = right.bytes) : left = right := by
  cases left with
  | name written =>
      cases right with
      | name other => exact congrArg Part.name sameBytes
      | _ => cases sameRank
  | _ => cases right <;> first | rfl | cases sameRank

instance : Std.TransCmp Part.order :=
  Part.order_eq ▸ inferInstance

instance : Std.LawfulEqCmp Part.order where
  eq_of_compare {left right} same := by
    rw [Part.order_eq, compareLex_eq_eq] at same
    exact Part.eq_of_rank_bytes (Std.LawfulEqOrd.eq_of_compare same.1)
      (Std.LawfulEqOrd.eq_of_compare same.2)

theorem orderParts_eq : orderParts = List.compareLex Part.order := by
  funext left right
  induction left generalizing right with
  | nil =>
      cases right with
      | nil => rfl
      | cons part rest => rfl
  | cons part rest inductionHypothesis =>
      cases right with
      | nil => rfl
      | cons other others =>
          rw [orderParts, inductionHypothesis, List.compareLex_cons_cons]

instance : Std.TransCmp orderParts :=
  orderParts_eq ▸ inferInstance

instance : Std.LawfulEqCmp orderParts :=
  orderParts_eq ▸ inferInstance

theorem isOrdered_eq (left right : Path) :
    left.isOrdered right = (orderParts left.parts right.parts).isLE := by
  rw [isOrdered]
  cases orderParts left.parts right.parts <;> rfl

theorem isOrdered_trans {first second third : Path} (front : first.isOrdered second = true)
    (back : second.isOrdered third = true) : first.isOrdered third = true := by
  rw [isOrdered_eq] at front back ⊢
  exact Std.TransCmp.isLE_trans front back

theorem isOrdered_total (left right : Path) :
    (left.isOrdered right || right.isOrdered left) = true := by
  have turned : orderParts right.parts left.parts = (orderParts left.parts right.parts).swap :=
    Std.OrientedCmp.eq_swap
  rw [isOrdered_eq, isOrdered_eq, turned]
  cases orderParts left.parts right.parts <;> rfl

/-- Paths in order with different parts are in strict order. -/
theorem order_eq_lt {left right : Path} (ordered : left.isOrdered right = true)
    (different : left.parts ≠ right.parts) : orderParts left.parts right.parts = .lt := by
  rw [isOrdered_eq] at ordered
  cases found : orderParts left.parts right.parts with
  | lt => rfl
  | eq => exact absurd (Std.LawfulEqCmp.eq_of_compare found) different
  | gt =>
      rw [found] at ordered
      cases ordered

-- A folder comes before its neighbours, whatever bytes compare less than a slash.
example : orderParts (ofText "a/x").parts (ofText "a-b/x").parts = .lt := by decide

/-! ## Extensions -/

/-- A file name with one of some extensions: the extension is a text behind the
last point, with something in front of the point, and is one of those wanted when
the case of ASCII letters does not count. -/
def IsNamedWith (extensions : List String) (name : Name) : Prop :=
  Exists fun stem => Exists fun extension => Exists fun text => Exists fun wanted =>
    name = stem ++ point :: extension ∧ stem ≠ [] ∧ point ∉ extension ∧
      Bytes.text? extension = some text ∧
      wanted ∈ extensions ∧ lowered wanted = lowered text

theorem extensionOf?_of_split {stem extension : Bytes} (nonempty : stem ≠ [])
    (absent : point ∉ extension) :
    extensionOf? (stem ++ point :: extension) = some extension := by
  have behind : forall byte, byte ∈ extension.reverse -> decide (byte ≠ point) = true := by
    intro byte listed
    exact decide_eq_true fun same => absent (same ▸ List.mem_reverse.mp listed)
  have reversed : (stem ++ point :: extension).reverse =
      extension.reverse ++ point :: stem.reverse := by
    rw [List.reverse_append, List.reverse_cons, List.append_assoc, List.singleton_append]
  simp only [extensionOf?, reversed, List.takeWhile_append_of_pos behind,
    List.dropWhile_append_of_pos behind]
  cases inFront : stem.reverse with
  | nil => exact absurd (List.reverse_eq_nil_iff.mp inFront) nonempty
  | cons byte rest => simp

theorem extensionOf?_eq_some_iff {name : Name} {extension : Bytes} :
    extensionOf? name = some extension ↔
      Exists fun stem => name = stem ++ point :: extension ∧ stem ≠ [] ∧ point ∉ extension := by
  constructor
  · intro found
    have whole := List.takeWhile_append_dropWhile (p := (· ≠ point)) (l := name.reverse)
    simp only [extensionOf?] at found
    split at found
    · rename_i first second rest dropped
      cases found
      have stopped := List.head?_dropWhile_not (fun byte => decide (byte ≠ point)) name.reverse
      rw [dropped] at stopped
      have isPoint : first = point := not_not.mp (of_decide_eq_false stopped)
      rw [dropped, isPoint] at whole
      refine ⟨(second :: rest).reverse, ?_, List.reverse_ne_nil_iff.mpr (List.cons_ne_nil _ _), ?_⟩
      · calc
          name = name.reverse.reverse := (List.reverse_reverse name).symm
          _ = _ := by
            rw [← whole, List.reverse_append, List.reverse_cons, List.append_assoc,
              List.singleton_append, whole]
      · intro listed
        have other := List.mem_takeWhile_imp (List.mem_reverse.mp listed)
        exact of_decide_eq_true other rfl
    · cases found
  · rintro ⟨stem, rfl, nonempty, absent⟩
    exact extensionOf?_of_split nonempty absent

theorem fileName?_under (folder : Path) {names : List Name} {name : Name}
    (areNames : forall name, name ∈ names -> IsName name) (last : names.getLast? = some name) :
    (folder.under names).fileName? = some name := by
  rcases List.getLast?_eq_some_iff.mp last with ⟨front, rfl⟩
  rw [fileName?, parts_under areNames, List.map_append, ← List.append_assoc]
  simp

/-- What stands below a folder has one of some extensions when its last name has. -/
theorem hasExtension_under_iff (folder : Path) {names : List Name} {name : Name}
    (areNames : forall name, name ∈ names -> IsName name) (last : names.getLast? = some name)
    (extensions : List String) :
    (folder.under names).hasExtension extensions = true ↔ IsNamedWith extensions name := by
  have found : (folder.under names).extension? = (extensionOf? name).bind Bytes.text? := by
    rw [extension?, fileName?_under folder areNames last]
    rfl
  rw [hasExtension, found, Option.any_eq_true]
  constructor
  · rintro ⟨text, isText, matched⟩
    rcases Option.bind_eq_some_iff.mp isText with ⟨extension, isExtension, reads⟩
    rcases extensionOf?_eq_some_iff.mp isExtension with ⟨stem, split, nonempty, absent⟩
    rcases List.any_eq_true.mp matched with ⟨wanted, listed, same⟩
    exact ⟨stem, extension, text, wanted, split, nonempty, absent, reads, listed,
      eq_of_beq same⟩
  · rintro ⟨stem, extension, text, wanted, split, nonempty, absent, reads, listed, same⟩
    have isExtension := extensionOf?_eq_some_iff.mpr ⟨stem, split, nonempty, absent⟩
    exact ⟨text, Option.bind_eq_some_iff.mpr ⟨extension, isExtension, reads⟩,
      List.any_eq_true.mpr ⟨wanted, listed, beq_iff_eq.mpr same⟩⟩

end Path
end Guidebook
