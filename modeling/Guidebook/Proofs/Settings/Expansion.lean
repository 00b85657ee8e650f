import Guidebook.Proofs.Text.Numeral
import Guidebook.Settings.Expansion

namespace Guidebook

/-!
# Expansion is all or nothing

A folder is taken here as it is written: characters that stand for themselves, and
references to variables in either spelling.  Each dollar sign starts a reference,
and a name without braces ends where an ASCII character comes that is none of names,
or at the end.  Expansion reads the references one by one, and any of them may be the
first one without a value.  Still there are two outcomes only: with one variable
missing nothing is expanded, and with all of them there every reference has its
value in its place.

Nothing is assumed of the values.  They may hold dollar signs, braces and tildes, and
none of these is looked at again.
-/

namespace Expansion

/-! ## Names and what follows them -/

/-- A character of the names that are in use: a letter, a digit or an underscore of
ASCII. -/
def isPlainName (character : Char) : Bool :=
  character.isAlphanum || character == '_'

/-- The letters and the digits of ASCII by their numbers. -/
theorem isAlphanum_iff (character : Char) :
    character.isAlphanum = true ↔
      ((65 ≤ character.toNat ∧ character.toNat ≤ 90) ∨
        (97 ≤ character.toNat ∧ character.toNat ≤ 122)) ∨
        (48 ≤ character.toNat ∧ character.toNat ≤ 57) := by
  have upper : character.isUpper = true ↔ 65 ≤ character.toNat ∧ character.toNat ≤ 90 :=
    decide_eq_true_iff
  have lower : character.isLower = true ↔ 97 ≤ character.toNat ∧ character.toNat ≤ 122 :=
    Bool.and_eq_true_iff.trans (and_congr decide_eq_true_iff decide_eq_true_iff)
  have digit : character.isDigit = true ↔ 48 ≤ character.toNat ∧ character.toNat ≤ 57 :=
    Bool.and_eq_true_iff.trans (and_congr decide_eq_true_iff decide_eq_true_iff)
  rw [← upper, ← lower, ← digit, ← Bool.or_eq_true, ← Bool.or_eq_true]
  rfl

/-- Behind the digits and the letters of ASCII the table has no character of ASCII. -/
theorem le_of_mem_ranges {range : Nat × Nat} (listed : range ∈ Alphanumeric.ranges.drop 3) :
    128 ≤ range.1 := by
  have all : (Alphanumeric.ranges.drop 3).all (fun range => 128 ≤ range.1) = true := by
    decide +kernel
  exact of_decide_eq_true (List.all_eq_true.mp all range listed)

/-- For a character of ASCII it does not matter that names may be of any script. -/
theorem isNameCharacter_of_lt {character : Char} (ascii : character.toNat < 128) :
    isNameCharacter character = isPlainName character := by
  have front : Alphanumeric.ranges =
      [(0x30, 0x39), (0x41, 0x5A), (0x61, 0x7A)] ++ Alphanumeric.ranges.drop 3 := rfl
  have back : (Alphanumeric.ranges.drop 3).any
      (fun range => range.1 ≤ character.toNat && character.toNat ≤ range.2) = false := by
    refine List.any_eq_false.mpr fun range listed inside => ?_
    have low : range.1 ≤ character.toNat :=
      of_decide_eq_true (Bool.and_eq_true_iff.mp inside).1
    have high := le_of_mem_ranges listed
    omega
  rw [isNameCharacter, isPlainName, Alphanumeric.isAlphanumeric, front, List.any_append, back,
    Bool.or_false]
  congr 1
  rw [Bool.eq_iff_iff, isAlphanum_iff]
  simp only [List.any_cons, List.any_nil, Bool.or_false, Bool.or_eq_true, Bool.and_eq_true,
    decide_eq_true_eq]
  omega

theorem lt_of_isPlainName {character : Char} (plain : isPlainName character = true) :
    character.toNat < 128 := by
  rcases (Bool.or_eq_true _ _).mp plain with letterOrDigit | underscore
  · have bounds := (isAlphanum_iff character).mp letterOrDigit
    omega
  · rw [beq_iff_eq.mp underscore]
    decide

theorem isNameCharacter_of_isPlainName {character : Char} (plain : isPlainName character = true) :
    isNameCharacter character = true := by
  rw [isNameCharacter_of_lt (lt_of_isPlainName plain), plain]

/-! ## Folders as they are written -/

/-- A piece of a written folder. -/
inductive Piece where
  /-- A character that stands for itself. -/
  | plain (character : Char)
  /-- A reference behind a dollar sign alone. -/
  | named (name : List Char)
  /-- A reference between braces. -/
  | braced (name : List Char)

namespace Piece

/-- A piece as it is written. -/
def written : Piece -> List Char
  | plain character => [character]
  | named name => '$' :: name
  | braced name => '$' :: '\x7b' :: (name ++ ['\x7d'])

/-- The variable that a piece refers to. -/
def named? : Piece -> Option String
  | plain _ => none
  | named name => some (String.ofList name)
  | braced name => some (String.ofList name)

/-- What a piece stands for: the value of its variable, or itself. -/
def value? (environment : Environment) (piece : Piece) : Option (List Char) :=
  match piece.named? with
  | some name => (environment.get? name).map String.toList
  | none => some piece.written

/-- A piece with the value of its variable in its place. -/
def replaced (environment : Environment) (piece : Piece) : List Char :=
  (piece.value? environment).getD []

theorem length_written_pos (piece : Piece) : 0 < piece.written.length := by
  cases piece <;> simp [written]

end Piece

/-- Pieces as they are written, one after the other. -/
def written (pieces : List Piece) : List Char := pieces.flatMap Piece.written

/-- Pieces that are read back as they are meant.  A dollar sign is no character that
stands for itself; a name without braces is as long as can be, and a name between
braces ends at the first closing brace and has no default behind it. -/
inductive AreReferences : List Piece -> Prop
  | nil : AreReferences []
  | plain {character : Char} {rest : List Piece} (noDollar : character ≠ '$')
      (later : AreReferences rest) : AreReferences (.plain character :: rest)
  | named {name : List Char} {rest : List Piece} (nonempty : name ≠ [])
      (areNames : forall character, character ∈ name -> isPlainName character = true)
      (ends : forall character, (written rest).head? = some character ->
        character.toNat < 128 ∧ isPlainName character = false)
      (later : AreReferences rest) : AreReferences (.named name :: rest)
  | braced {name : List Char} {rest : List Piece} (closed : '\x7d' ∉ name)
      (noDefault : ¬ [':', '-'] <:+: name)
      (later : AreReferences rest) : AreReferences (.braced name :: rest)

theorem written_cons (piece : Piece) (rest : List Piece) :
    written (piece :: rest) = piece.written ++ written rest := List.flatMap_cons

/-! ## Reading one piece -/

/-- Without a colon before a hyphen there is no default. -/
theorem splitDefault_of_not_infix {name : List Char} (noDefault : ¬ [':', '-'] <:+: name) :
    splitDefault name = (name, none) := by
  induction name with
  | nil => rfl
  | cons first rest inductionHypothesis =>
      have later : ¬ [':', '-'] <:+: rest := fun found => noDefault (found.trans
        (List.suffix_cons first rest).isInfix)
      have onward := inductionHypothesis later
      rw [splitDefault, onward]
      rintro after rfl rfl
      exact noDefault (List.prefix_append [':', '-'] after).isInfix

theorem braced_of_not_infix {name : List Char} (noDefault : ¬ [':', '-'] <:+: name) :
    braced name = (name, none) := by
  rw [braced, splitDefault_of_not_infix noDefault]
  cases name <;> rfl

theorem bind_map_append (found later : Option (List Char)) :
    (do
      let value <- found
      let rest <- later
      return value ++ rest) = found.bind fun value => later.map (value ++ ·) := by
  cases found <;> cases later <;> rfl

section Steps

variable {environment : Environment} {rest : List Piece} (steps : Nat)

theorem substituteFrom_plain {character : Char} (noDollar : character ≠ '$') :
    substituteFrom (lookup environment) (steps + 1) (written (.plain character :: rest)) =
      (substituteFrom (lookup environment) steps (written rest)).map ([character] ++ ·) := by
  rw [written_cons]
  simp [Piece.written, substituteFrom, noDollar]

theorem substituteFrom_named {name : List Char} (nonempty : name ≠ [])
    (areNames : forall character, character ∈ name -> isPlainName character = true)
    (ends : forall character, (written rest).head? = some character ->
      character.toNat < 128 ∧ isPlainName character = false) :
    substituteFrom (lookup environment) (steps + 1) (written (.named name :: rest)) =
      (lookup environment name).bind fun value =>
        (substituteFrom (lookup environment) steps (written rest)).map (value ++ ·) := by
  have inside : forall character, character ∈ name -> isNameCharacter character = true :=
    fun character listed => isNameCharacter_of_isPlainName (areNames character listed)
  have outside : EndsRun isNameCharacter (written rest) := by
    intro character leads
    rcases ends character leads with ⟨ascii, noName⟩
    rw [isNameCharacter_of_lt ascii, noName]
  have taken := takeWhile_run inside outside
  have dropped := dropWhile_run inside outside
  rcases List.exists_cons_of_ne_nil nonempty with ⟨first, later, rfl⟩
  have isName := areNames first List.mem_cons_self
  rw [written_cons, Piece.written, List.cons_append]
  rw [List.cons_append] at taken dropped ⊢
  rw [substituteFrom]
  · rw [taken, dropped, List.isEmpty_cons, if_neg Bool.false_ne_true]
    exact bind_map_append _ _
  -- The first character of a name starts neither of the other spellings.
  · rintro text same
    cases same
    exact absurd isName (by decide)
  · rintro text same
    cases same
    exact absurd isName (by decide)

theorem substituteFrom_braced {name : List Char} (closed : '\x7d' ∉ name)
    (noDefault : ¬ [':', '-'] <:+: name) :
    substituteFrom (lookup environment) (steps + 1) (written (.braced name :: rest)) =
      (lookup environment name).bind fun value =>
        (substituteFrom (lookup environment) steps (written rest)).map (value ++ ·) := by
  have inside : forall character, character ∈ name -> decide (character ≠ '\x7d') = true :=
    fun character listed => decide_eq_true fun same => closed (same ▸ listed)
  have outside : EndsRun (fun character => decide (character ≠ '\x7d'))
      ('\x7d' :: written rest) := endsRun_cons (by decide)
  have whole : written (.braced name :: rest) =
      '$' :: '\x7b' :: (name ++ '\x7d' :: written rest) := by
    rw [written_cons, Piece.written, List.cons_append, List.cons_append, List.append_assoc,
      List.singleton_append]
  have hasEnd : (name ++ '\x7d' :: written rest).contains '\x7d' = true := by simp
  rw [whole, substituteFrom, hasEnd, takeWhile_run inside outside, dropWhile_run inside outside,
    braced_of_not_infix noDefault]
  simp only [Option.or_none, if_true, List.drop_one, List.tail_cons]
  exact bind_map_append _ _

end Steps

/-- One step reads one piece, and stops where it stands for nothing. -/
theorem substituteFrom_cons (environment : Environment) {piece : Piece} {rest : List Piece}
    (references : AreReferences (piece :: rest)) (steps : Nat) :
    substituteFrom (lookup environment) (steps + 1) (written (piece :: rest)) =
      (piece.value? environment).bind fun value =>
        (substituteFrom (lookup environment) steps (written rest)).map (value ++ ·) := by
  cases references with
  | plain noDollar later => exact substituteFrom_plain steps noDollar
  | named nonempty areNames ends later => exact substituteFrom_named steps nonempty areNames ends
  | braced closed noDefault later => exact substituteFrom_braced steps closed noDefault

/-! ## Reading all pieces -/

theorem AreReferences.tail {piece : Piece} {rest : List Piece}
    (references : AreReferences (piece :: rest)) : AreReferences rest := by
  cases references <;> assumption

section Run

variable {environment : Environment} {pieces : List Piece}

/-- With a piece that stands for nothing the run comes to nothing, whatever was put in
place before. -/
theorem substituteFrom_eq_none (references : AreReferences pieces) {piece : Piece}
    (listed : piece ∈ pieces) (missing : piece.value? environment = none) {steps : Nat}
    (enough : pieces.length < steps) :
    substituteFrom (lookup environment) steps (written pieces) = none := by
  induction pieces generalizing steps with
  | nil => cases listed
  | cons first rest inductionHypothesis =>
      cases steps with
      | zero => cases enough
      | succ steps =>
          rw [substituteFrom_cons environment references]
          rcases List.mem_cons.mp listed with rfl | later
          · rw [missing, Option.bind_none]
          · have onward := inductionHypothesis references.tail later (Nat.lt_of_succ_lt_succ enough)
            rw [onward]
            exact Option.bind_eq_none_iff.mpr fun _ _ => rfl

/-- Where every piece stands for something, it is put in the place of the piece. -/
theorem substituteFrom_eq_some (references : AreReferences pieces)
    (given : forall piece, piece ∈ pieces -> piece.value? environment ≠ none) {steps : Nat}
    (enough : pieces.length < steps) :
    substituteFrom (lookup environment) steps (written pieces) =
      some (pieces.flatMap (Piece.replaced environment)) := by
  induction pieces generalizing steps with
  | nil =>
      cases steps with
      | zero => cases enough
      | succ steps => rfl
  | cons first rest inductionHypothesis =>
      cases steps with
      | zero => cases enough
      | succ steps =>
          have onward := inductionHypothesis references.tail
            (fun piece later => given piece (List.mem_cons_of_mem first later))
            (Nat.lt_of_succ_lt_succ enough)
          rcases Option.ne_none_iff_exists'.mp (given first List.mem_cons_self) with
            ⟨value, stands⟩
          rw [substituteFrom_cons environment references, onward, stands, List.flatMap_cons,
            Piece.replaced, stands]
          rfl

end Run

/-- Every piece takes up a character at least. -/
theorem length_le_written (pieces : List Piece) : pieces.length ≤ (written pieces).length := by
  induction pieces with
  | nil => exact Nat.le_refl 0
  | cons piece rest inductionHypothesis =>
      have positive := piece.length_written_pos
      rw [written_cons, List.length_append, List.length_cons]
      omega

/-! ## Tildes -/

/-- A text whose tilde stands for the home folder: there is nothing behind it, or a slash. -/
def LeadsHome (text : List Char) : Prop := text = ['~'] ∨ ['~', '/'] <+: text

theorem expandTilde_of_leadsHome {environment : Environment} {home : String}
    (known : environment.home? = some home) {text : List Char} (leads : LeadsHome text) :
    expandTilde environment text = home.toList ++ text.drop 1 := by
  rcases leads with rfl | ⟨rest, rfl⟩
  · simp [expandTilde, known]
  · simp [expandTilde, known]

theorem expandTilde_of_not {environment : Environment} {text : List Char}
    (other : ¬ (LeadsHome text ∧ environment.home? ≠ none)) :
    expandTilde environment text = text := by
  unfold expandTilde
  split
  · next known => exact absurd ⟨Or.inl rfl, known ▸ Option.some_ne_none _⟩ other
  · next known =>
      exact absurd ⟨Or.inr (List.prefix_append _ _), known ▸ Option.some_ne_none _⟩ other
  · rfl

end Expansion

open Expansion in
/-- A folder is expanded as a whole or not at all.  When a variable that it refers to is
missing, it stays as it was written, with all other references and a tilde in front.
When none is missing, every reference has its value in its place, once; and where the
folder itself starts with a tilde, which then stands alone or before a slash, the home
folder is put in its place, if it is known. -/
theorem Environment.expand_all_or_nothing (environment : Environment) {pieces : List Piece}
    (references : AreReferences pieces) :
    ((Exists fun piece => piece ∈ pieces ∧ Exists fun name =>
        piece.named? = some name ∧ environment.get? name = none) ->
      environment.expand (String.ofList (written pieces)) = String.ofList (written pieces)) ∧
    ((forall piece, piece ∈ pieces -> forall name, piece.named? = some name ->
        environment.get? name ≠ none) ->
      let replaced := pieces.flatMap (Piece.replaced environment)
      (forall home, environment.home? = some home -> (written pieces).head? = some '~' ->
        LeadsHome replaced ->
          environment.expand (String.ofList (written pieces)) =
            String.ofList (home.toList ++ replaced.drop 1)) ∧
      (¬ ((written pieces).head? = some '~' ∧ LeadsHome replaced ∧ environment.home? ≠ none) ->
        environment.expand (String.ofList (written pieces)) = String.ofList replaced)) := by
  have enough : pieces.length < (written pieces).length + 1 :=
    Nat.lt_succ_of_le (length_le_written pieces)
  constructor
  · rintro ⟨piece, listed, name, refers, unset⟩
    have missing : piece.value? environment = none := by
      rw [Piece.value?, refers]
      simp only [unset, Option.map_none]
    rw [Environment.expand, substitute?, String.toList_ofList,
      substituteFrom_eq_none references listed missing enough]
  · intro set
    have given : forall piece, piece ∈ pieces -> piece.value? environment ≠ none := by
      intro piece listed
      rw [Piece.value?]
      split
      · next name refers =>
          intro none
          exact set piece listed name refers (Option.map_eq_none_iff.mp none)
      · exact Option.some_ne_none _
    have substituted := substituteFrom_eq_some references given enough
    have starts : startsWithTilde (written pieces) = true ↔
        (written pieces).head? = some '~' := beq_iff_eq
    constructor
    · intro home known tilde leads
      rw [Environment.expand, substitute?, String.toList_ofList, substituted]
      simp only [starts.mpr tilde, if_true, expandTilde_of_leadsHome known leads]
    · intro other
      rw [Environment.expand, substitute?, String.toList_ofList, substituted]
      simp only
      split
      · next tilde =>
          rw [expandTilde_of_not fun both => other ⟨starts.mp tilde, both⟩]
      · rfl

/-- A tilde, and two references in different spellings. -/
def tildePieces : List Expansion.Piece :=
  [.plain '~', .braced ['A'], .plain '/', .named ['B']]

/-- A value with a tilde and what looks like a reference. -/
def tildeEnvironment : Environment :=
  ⟨[("HOME", "/h"), ("A", "/$B~"), ("B", "b")], none⟩

theorem areReferences_tildePieces : Expansion.AreReferences tildePieces := by
  refine .plain (by decide) (.braced (by decide) (by decide) (.plain (by decide) ?_))
  have areNames : ['B'].all Expansion.isPlainName = true := by decide
  exact .named (by decide) (List.all_eq_true.mp areNames) (fun _ leads => nomatch leads) .nil

/-- The tilde of the folder is expanded and that of the value is not.  Without the second
variable neither the tilde nor the first variable is. -/
theorem Environment.expand_all_or_nothing_tildes :
    Expansion.AreReferences tildePieces ∧
      tildeEnvironment.expand "~$\x7bA\x7d/$B" = "/h/$B~/b" ∧
      (Environment.mk [("HOME", "/h"), ("A", "/$B~")] none).expand "~$\x7bA\x7d/$B" =
        "~$\x7bA\x7d/$B" := by
  refine ⟨areReferences_tildePieces, ?_, ?_⟩
  · have given : forall piece, piece ∈ tildePieces -> forall name, piece.named? = some name ->
        tildeEnvironment.get? name ≠ none := by
      simp [tildePieces, Expansion.Piece.named?, Environment.get?, tildeEnvironment]
    have expanded := ((tildeEnvironment.expand_all_or_nothing areReferences_tildePieces).2 given).1
    exact expanded "/h" (by decide) rfl (Or.inr ⟨"$B~/b".toList, by decide⟩)
  · exact ((Environment.mk _ none).expand_all_or_nothing areReferences_tildePieces).1
      ⟨.named ['B'], by simp [tildePieces], "B", rfl, by decide⟩

end Guidebook
