import Guidebook.Proofs.Storage.Resolution

namespace Guidebook

/-!
# The folder around a path

The parent of a path is written as the path was, without its last part and without the
slashes and points that stood in front of this part.  So it is a folder's own path less
an ending of slashes and points.  The ending has no step but such that stay; from either
path a name leads to the same place.
-/

namespace Path

open Storage (bareSteps)

/-! ## Runs joined by slashes -/

theorem splitFrom_eq (between : UInt8) (run text : Bytes) :
    splitFrom between run text = List.splitOnPPrepend (· == between) text run := by
  induction text generalizing run with
  | nil => rfl
  | cons byte rest inductionHypothesis =>
      rw [splitFrom, List.splitOnPPrepend, inductionHypothesis, inductionHypothesis]
      by_cases same : byte = between <;> simp [same]

/-- The runs of a path are what stands between its slashes. -/
theorem intercalate_runs (bytes : Bytes) : [slash].intercalate (runs ⟨bytes⟩) = bytes := by
  have split : runs ⟨bytes⟩ = bytes.splitOn slash := splitFrom_eq slash [] bytes
  rw [split, List.intercalate_splitOn]

theorem runs_append_slash (front : Bytes) {run : Bytes} (noSlash : slash ∉ run) :
    runs ⟨front ++ slash :: run⟩ = runs ⟨front⟩ ++ [run] := by
  have own : splitFrom slash [] run = [run] := splitFrom_of_not_mem noSlash []
  rw [runs, splitFrom_append, own]
  rfl

theorem exists_last_run {bytes : Bytes} (member : slash ∈ bytes) :
    Exists fun front => Exists fun run => bytes = front ++ slash :: run ∧ slash ∉ run := by
  rcases List.eq_append_cons_of_mem (List.mem_reverse.mpr member) with ⟨run, front, same, absent⟩
  refine ⟨front.reverse, run.reverse, ?_, fun listed => absent (List.mem_reverse.mp listed)⟩
  calc
    bytes = bytes.reverse.reverse := (List.reverse_reverse bytes).symm
    _ = _ := by
      rw [same, List.reverse_append, List.reverse_cons, List.append_assoc, List.singleton_append]

/-! ## Endings that lead nowhere else -/

/-- Bytes that a path can have more at its end without leading elsewhere. -/
structure IsEnding (kept whole : Bytes) : Prop where
  bytes : Exists fun ending => whole = kept ++ ending ∧
    forall byte, byte ∈ ending -> byte = slash ∨ byte = point
  steps : Exists fun stays => bareSteps ⟨whole⟩ = bareSteps ⟨kept⟩ ++ stays ∧
    forall step, step ∈ stays -> step = .stay

theorem IsEnding.refl (bytes : Bytes) : IsEnding bytes bytes :=
  ⟨⟨[], (List.append_nil _).symm, List.forall_mem_nil _⟩,
    ⟨[], (List.append_nil _).symm, List.forall_mem_nil _⟩⟩

/-- What stands behind a slash is an ending when it is one on its own. -/
theorem IsEnding.append {kept front run : Bytes} (first : IsEnding kept front)
    (second : IsEnding [] run) : IsEnding kept (front ++ slash :: run) := by
  rcases first with ⟨⟨ending, rfl, only⟩, stays, steps, allStay⟩
  rcases second with ⟨⟨_, rfl, moreOnly⟩, others, moreSteps, othersStay⟩
  refine ⟨⟨ending ++ slash :: run, List.append_assoc _ _ _, ?_⟩, stays ++ others, ?_, ?_⟩
  · exact List.forall_mem_append.mpr ⟨only, List.forall_mem_cons.mpr ⟨Or.inl rfl, moreOnly⟩⟩
  · rw [Storage.bareSteps_append_slash, steps, moreSteps, List.append_assoc]
    rfl
  · exact List.forall_mem_append.mpr ⟨allStay, othersStay⟩

theorem ofRun?_eq_none_iff {run : Bytes} : Part.ofRun? run = none ↔ run = [] ∨ run = [point] := by
  rw [Part.ofRun?]
  split
  · next uncounted => simpa using uncounted
  · next counted =>
      have other : ¬ (run = [] ∨ run = [point]) := by simpa using counted
      simp only [other, iff_false]
      split <;> exact Option.some_ne_none _

/-- A run that does not count is an ending. -/
theorem isEnding_of_uncounted {run : Bytes} (uncounted : Part.ofRun? run = none) :
    IsEnding [] run := by
  rcases ofRun?_eq_none_iff.mp uncounted with rfl | rfl
  · exact .refl []
  · exact ⟨⟨[point], rfl, List.forall_mem_singleton.mpr (Or.inr rfl)⟩,
      [.stay], rfl, List.forall_mem_singleton.mpr rfl⟩

/-! ## Trimmed paths -/

/-- What is left of a path without the runs at its end that do not count. -/
def trimmed (isRelative : Bool) (bytes : Bytes) : Bytes :=
  [slash].intercalate (countedFrom isRelative (runs ⟨bytes⟩).reverse).reverse

theorem trimmed_append (isRelative : Bool) (front : Bytes) {run : Bytes} (noSlash : slash ∉ run) :
    trimmed isRelative (front ++ slash :: run) =
      if (Part.ofRun? run).isSome then front ++ slash :: run else trimmed isRelative front := by
  have more : (runs ⟨front⟩).reverse.isEmpty = false := by
    rw [List.isEmpty_reverse, List.isEmpty_eq_false_iff]
    exact splitFrom_ne_nil slash [] front
  have backward : (runs ⟨front ++ slash :: run⟩).reverse = run :: (runs ⟨front⟩).reverse := by
    rw [runs_append_slash front noSlash, List.reverse_append, List.reverse_singleton,
      List.singleton_append]
  rw [trimmed, backward, countedFrom, more, Bool.and_false, Bool.false_and, Bool.or_false]
  split
  · rw [← backward, List.reverse_reverse, intercalate_runs]
  · rfl

theorem trimmed_of_not_mem (isRelative : Bool) {run : Bytes} (noSlash : slash ∉ run) :
    trimmed isRelative run =
      if (Part.ofRun? run).isSome || (isRelative && run = [point]) then run else [] := by
  have alone : runs ⟨run⟩ = [run] := splitFrom_of_not_mem noSlash []
  rw [trimmed, alone, List.reverse_singleton, countedFrom, List.isEmpty_nil, Bool.and_true]
  split
  · exact List.append_nil run
  · rfl

/-- What is trimmed away is an ending. -/
theorem isEnding_trimmed (isRelative : Bool) (bytes : Bytes) :
    IsEnding (trimmed isRelative bytes) bytes := by
  -- The last run is taken off; what is in front of it has an ending of its own.
  by_cases member : slash ∈ bytes
  · rcases exists_last_run member with ⟨front, run, rfl, noSlash⟩
    rw [trimmed_append isRelative front noSlash]
    cases counts : Part.ofRun? run with
    | some part => exact .refl _
    | none => exact (isEnding_trimmed isRelative front).append (isEnding_of_uncounted counts)
  · rw [trimmed_of_not_mem isRelative member]
    cases counts : Part.ofRun? bytes with
    | some part => exact .refl _
    | none =>
        split
        · exact .refl _
        · exact isEnding_of_uncounted counts
  termination_by bytes.length
  decreasing_by subst_vars; simp

/-- A relative path is not trimmed down to nothing. -/
theorem trimmed_ne_nil {bytes : Bytes} (nonempty : bytes ≠ [])
    (isRelative : bytes.head? ≠ some slash) : trimmed true bytes ≠ [] := by
  by_cases member : slash ∈ bytes
  · rcases exists_last_run member with ⟨front, run, rfl, noSlash⟩
    have started : front ≠ [] := by
      rintro rfl
      exact isRelative rfl
    rw [trimmed_append true front noSlash]
    split
    · exact nonempty
    · refine trimmed_ne_nil started fun absolute => isRelative ?_
      rw [List.head?_append, absolute, Option.some_or]
  · rw [trimmed_of_not_mem true member]
    split
    · exact nonempty
    · next uncounted =>
        have isBare : Part.ofRun? bytes = none := by
          simpa using fun counts => uncounted ((Bool.or_eq_true _ _).mpr (Or.inl counts))
        rcases ofRun?_eq_none_iff.mp isBare with rfl | rfl
        · exact absurd rfl nonempty
        · exact absurd rfl uncounted
  termination_by bytes.length
  decreasing_by subst_vars; simp

/-! ## Parents -/

theorem IsEnding.isAbsolute_eq {kept whole : Bytes} (ending : IsEnding kept whole)
    (nonempty : kept ≠ []) : isAbsolute ⟨whole⟩ = isAbsolute ⟨kept⟩ := by
  rcases ending.bytes with ⟨_, rfl, -⟩
  rcases List.exists_cons_of_ne_nil nonempty with ⟨first, rest, rfl⟩
  rfl

/-- A slash in front is no step and does not end a path. -/
theorem IsEnding.slash_cons {kept whole : Bytes} (ending : IsEnding kept whole) :
    IsEnding (slash :: kept) (slash :: whole) := by
  rcases ending with ⟨⟨more, same, only⟩, stays, steps, allStay⟩
  exact ⟨⟨more, congrArg (slash :: ·) same, only⟩, stays, steps, allStay⟩

theorem IsEnding.trans {first second third : Bytes} (front : IsEnding first second)
    (back : IsEnding second third) : IsEnding first third := by
  rcases front with ⟨⟨ending, rfl, only⟩, stays, steps, allStay⟩
  rcases back with ⟨⟨more, rfl, moreOnly⟩, others, moreSteps, othersStay⟩
  refine ⟨⟨ending ++ more, List.append_assoc _ _ _, List.forall_mem_append.mpr ⟨only, moreOnly⟩⟩,
    stays ++ others, ?_, List.forall_mem_append.mpr ⟨allStay, othersStay⟩⟩
  rw [moreSteps, steps, List.append_assoc]

/-- A name stands behind a slash, which the folder may have already. -/
theorem exists_front_join {folder : Path} {name : Name} (nonempty : folder.bytes ≠ [])
    (isName : IsName name) :
    Exists fun front =>
      (folder.join ⟨name⟩).bytes = front ++ slash :: name ∧
        (folder.bytes = front ∨ folder.bytes = front ++ [slash]) := by
  rw [bytes_join folder isName, isFolderLike]
  by_cases ended : folder.bytes.getLast? = some slash
  · rcases List.getLast?_eq_some_iff.mp ended with ⟨front, bytes⟩
    exact ⟨front, by simp [bytes], Or.inr bytes⟩
  · exact ⟨folder.bytes, by simp [nonempty, ended], Or.inl rfl⟩

section Parent

variable {name : Name} (isName : IsName name)
include isName

theorem countedFrom_name (isRelative : Bool) (before : List Bytes) :
    countedFrom isRelative (before ++ [name]).reverse = name :: before.reverse := by
  rw [List.reverse_append, List.reverse_singleton, List.singleton_append, countedFrom,
    Part.ofRun?_of_isName isName, Option.isSome_some, Bool.true_or, if_pos rfl]

theorem parent?_relative {front : Bytes} (relative : isAbsolute ⟨front ++ slash :: name⟩ = false) :
    parent? ⟨front ++ slash :: name⟩ = some ⟨trimmed true front⟩ := by
  simp only [parent?, relative, Bool.not_false, if_true,
    runs_append_slash front isName.noSlash, countedFrom_name isName]
  rfl

theorem parent?_absolute (front : Bytes) :
    parent? ⟨slash :: front ++ slash :: name⟩ = some ⟨slash :: trimmed false front⟩ := by
  have absolute : isAbsolute ⟨slash :: front ++ slash :: name⟩ = true := rfl
  have written : runs ⟨slash :: front ++ slash :: name⟩ = [] :: (runs ⟨front⟩ ++ [name]) :=
    runs_append_slash (slash :: front) isName.noSlash
  simp only [parent?, absolute, Bool.not_true, Bool.false_eq_true, if_false, written,
    List.drop_one, List.tail_cons, countedFrom_name isName]
  rfl

theorem parent?_root : parent? ⟨slash :: name⟩ = some ⟨[slash]⟩ := by
  have absolute : isAbsolute ⟨slash :: name⟩ = true := rfl
  have written : runs ⟨slash :: name⟩ = [] :: ([] ++ [name]) :=
    runs_append_slash [] isName.noSlash
  simp only [parent?, absolute, Bool.not_true, Bool.false_eq_true, if_false, written,
    List.drop_one, List.tail_cons, countedFrom_name isName]
  rfl

/-- The parent of a path is the folder in which its last name is, without an ending. -/
theorem parent?_join {folder : Path} (nonempty : folder.bytes ≠ []) :
    Exists fun parent =>
      (folder.join ⟨name⟩).parent? = some parent ∧ parent.bytes ≠ [] ∧
        IsEnding parent.bytes folder.bytes := by
  rcases exists_front_join nonempty isName with ⟨front, bytes, same⟩
  have written : folder.join ⟨name⟩ = ⟨front ++ slash :: name⟩ := congrArg Path.mk bytes
  have ending : IsEnding front folder.bytes := by
    rcases same with same | same <;> rw [same]
    · exact .refl front
    · exact (IsEnding.refl front).append (.refl [])
  rw [written]
  -- A path from the root keeps its first slash, and the root itself is nothing else.
  rcases front with _ | ⟨first, rest⟩
  · have isRoot : folder.bytes = [slash] := same.resolve_left nonempty
    exact ⟨_, parent?_root isName, List.cons_ne_nil _ _, isRoot ▸ .refl _⟩
  · by_cases absolute : first = slash
    · subst absolute
      exact ⟨_, parent?_absolute isName rest, List.cons_ne_nil _ _,
        (isEnding_trimmed false rest).slash_cons.trans ending⟩
    · have relative : isAbsolute ⟨first :: rest ++ slash :: name⟩ = false := by
        simpa [isAbsolute] using absolute
      have notSlash : (first :: rest).head? ≠ some slash := fun same =>
        absolute (Option.some.inj same)
      exact ⟨_, parent?_relative isName relative, trimmed_ne_nil (List.cons_ne_nil _ _) notSlash,
        (isEnding_trimmed true (first :: rest)).trans ending⟩

end Parent

end Path

namespace Storage

open Guidebook.Path (IsName IsEnding)

/-! ## Where names behind a trimmed path lead -/

section Stays

variable {storage : Storage} {stays more : List Step}
variable (allStay : forall step, step ∈ stays -> step = .stay) (someMore : more ≠ [])
include allStay someMore

/-- Steps that stay change nothing in front of others. -/
theorem walk_stays {jump : Location -> List Step -> Except Fault Target}
    (jumped : forall folder steps,
      jump folder (steps ++ (stays ++ more)) = jump folder (steps ++ more))
    (folder : Location) (steps : List Step) :
    walk storage true jump folder (steps ++ (stays ++ more)) =
      walk storage true jump folder (steps ++ more) := by
  induction steps generalizing folder with
  | nil =>
      clear jumped
      induction stays with
      | nil => rfl
      | cons step rest inductionHypothesis =>
          rw [allStay step List.mem_cons_self]
          exact inductionHypothesis fun other listed =>
            allStay other (List.mem_cons_of_mem _ listed)
  | cons step rest inductionHypothesis =>
      cases step with
      | stay => exact inductionHypothesis folder
      | up => exact inductionHypothesis folder.dropLast
      | enter name =>
          have goesOn : (rest ++ more).isEmpty = false := by simp [someMore]
          have goesOnToo : (rest ++ (stays ++ more)).isEmpty = false := by simp [someMore]
          have behind (target : List Step) (base : Location) :
              jump base (target ++ (rest ++ (stays ++ more))) =
                jump base (target ++ (rest ++ more)) := by
            rw [← List.append_assoc target, jumped, List.append_assoc]
          simp only [List.cons_append, walk, goesOn, goesOnToo, inductionHypothesis, behind]

theorem follow_stays (links : Nat) (folder : Location) (steps : List Step) :
    storage.follow true links folder (steps ++ (stays ++ more)) =
      storage.follow true links folder (steps ++ more) := by
  induction links generalizing folder steps with
  | zero => exact walk_stays allStay someMore (fun _ _ => rfl) folder steps
  | succ links inductionHypothesis =>
      exact walk_stays allStay someMore inductionHypothesis folder steps

end Stays

/-! ## Files in a trimmed folder -/

theorem contains_zero_join {folder : Path} {name : Name} (isName : IsName name) :
    (folder.join ⟨name⟩).bytes.contains 0 = (folder.bytes.contains 0 || name.contains 0) := by
  rw [Path.bytes_join folder isName]
  split
  · simp
  · simp [Path.slash]

theorem length_join {folder : Path} {name : Name} (isName : IsName name) :
    folder.bytes.length + name.length ≤ (folder.join ⟨name⟩).bytes.length ∧
      (folder.join ⟨name⟩).bytes.length ≤ folder.bytes.length + 1 + name.length := by
  rw [Path.bytes_join folder isName]
  split
  · rw [List.length_append]
    omega
  · rw [List.length_append, List.length_cons]
    omega

/-- A path to a name below a folder that is short enough is followed step by step. -/
theorem resolve_join (storage : Storage) {folder : Path} {name : Name}
    (nonempty : folder.bytes ≠ []) (isName : IsName name)
    (short : (folder.join ⟨name⟩).bytes.length < pathBound) :
    storage.resolve true (folder.join ⟨name⟩) =
      if folder.bytes.contains 0 || name.contains 0 then .error .zeroByte
      else
        storage.follow true linkLimit (if folder.isAbsolute then [] else storage.here)
          (bareSteps folder ++ [.enter name]) := by
  have written : (folder.join ⟨name⟩).bytes.isEmpty = false :=
    List.isEmpty_eq_false_iff.mpr (Path.bytes_join_ne_nil folder isName)
  rw [resolve, resolveSteps, contains_zero_join isName, written, if_neg Bool.false_ne_true,
    if_neg (Nat.not_le_of_lt short), steps_join nonempty isName,
    Path.isAbsolute_join nonempty isName]

/-- From a path that has an ending and from one without it a name leads to the same place,
if the longer path is not too long. -/
theorem entry?_join_of_isEnding (storage : Storage) {kept whole : Path} {name : Name}
    (ending : IsEnding kept.bytes whole.bytes) (nonempty : kept.bytes ≠ []) (isName : IsName name)
    (short : (whole.join ⟨name⟩).bytes.length < pathBound) :
    storage.entry? (whole.join ⟨name⟩) = storage.entry? (kept.join ⟨name⟩) := by
  rcases ending.bytes with ⟨more, bytes, only⟩
  rcases ending.steps with ⟨stays, steps, allStay⟩
  have sameStart : whole.isAbsolute = kept.isAbsolute := ending.isAbsolute_eq nonempty
  -- With an ending the longer path makes up for a slash that the shorter one has not yet.
  rcases List.eq_nil_or_concat more with rfl | ⟨front, last, rfl⟩
  · rw [List.append_nil] at bytes
    rcases kept with ⟨_⟩
    rcases whole with ⟨_⟩
    cases bytes
    rfl
  · have wholeNonempty : whole.bytes ≠ [] := by simp [bytes]
    have noZero : whole.bytes.contains 0 = kept.bytes.contains 0 := by
      have absent : (0 : UInt8) ∉ front.concat last := fun listed =>
        (only 0 listed).elim (fun same => absurd same (by decide)) fun same =>
          absurd same (by decide)
      rw [bytes, List.contains_append, Bool.eq_false_iff.mpr (List.contains_iff_mem.not.mpr absent),
        Bool.or_false]
    have shortToo : (kept.join ⟨name⟩).bytes.length < pathBound := by
      have longer := (@length_join whole name isName).1
      have atMost := (@length_join kept name isName).2
      have lengths := congrArg List.length bytes
      simp only [List.length_append, List.length_concat] at lengths
      omega
    unfold entry?
    rw [resolve_join storage wholeNonempty isName short,
      resolve_join storage nonempty isName shortToo, noZero, sameStart, steps, List.append_assoc,
      follow_stays allStay (List.cons_ne_nil _ _)]

end Storage
end Guidebook
