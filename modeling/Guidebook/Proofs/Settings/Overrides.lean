import Guidebook.Proofs.Settings.Layers

namespace Guidebook

/-!
# What a variable is taken for

The text of a variable is guessed to be a truth value, a number, a list or a text
before the setting is asked what it wants.  A format is never lost in this way, an
integer that fits a word is the depth that it writes, and a text that is neither a
truth value nor a number is taken as it stands.  The rest is not: a word that a depth
has no use for and a list that looks like a number leave the layers below in force,
a switch and a fraction are taken for integers where a depth is wanted, and a folder that
looks like a number is written anew.
-/

/-! ## Written numbers -/

/-- The characters of written numbers, of infinities and of undefined results. -/
def isNumberCharacter (character : Char) : Bool :=
  Numeral.isDigit character || ['.', '-', 'i', 'n', 'f', 'N', 'a'].contains character

theorem isNumberCharacter_of_isDigit {digit : Char} (decimal : Numeral.isDigit digit = true) :
    isNumberCharacter digit = true := by
  rw [isNumberCharacter, decimal, Bool.true_or]

theorem isNumberCharacter_of_mem_toString {number : Int} {character : Char}
    (member : character ∈ (toString number).toList) : isNumberCharacter character = true := by
  cases number with
  | ofNat size => exact isNumberCharacter_of_isDigit (Numeral.isDigit_of_mem_toString member)
  | negSucc size =>
      have split : (toString (Int.negSucc size)).toList = '-' :: (toString (size + 1)).toList := by
        have written : toString (Int.negSucc size) = "-" ++ toString (size + 1) := rfl
        rw [written, String.toList_append]
        rfl
      rw [split] at member
      rcases List.mem_cons.mp member with rfl | digit
      · decide
      · exact isNumberCharacter_of_isDigit (Numeral.isDigit_of_mem_toString digit)

namespace Decimal

theorem isNumberCharacter_of_mem_positional {decimal : Decimal} {character : Char}
    (member : character ∈ decimal.positional) : isNumberCharacter character = true := by
  have digits : forall digit, digit ∈ decimal.digitChars -> isNumberCharacter digit = true := by
    intro digit written
    rw [digitChars, ← Numeral.toList_toString] at written
    exact isNumberCharacter_of_isDigit (Numeral.isDigit_of_mem_toString written)
  have zeros {count : Nat} : forall zero, zero ∈ List.replicate count '0' ->
      isNumberCharacter zero = true := by
    intro zero written
    rw [List.eq_of_mem_replicate written]
    decide
  unfold positional at member
  dsimp only at member
  split at member
  · exact (List.mem_append.mp member).elim (digits _) (zeros _)
  · have padded : forall places, forall digit,
        digit ∈ List.replicate places '0' ++ decimal.digitChars -> isNumberCharacter digit = true :=
      fun _ digit written => (List.mem_append.mp written).elim (zeros _) (digits _)
    rcases List.mem_append.mp member with front | back
    · exact padded _ _ (List.mem_of_mem_take front)
    · rcases List.mem_cons.mp back with rfl | fraction
      · decide
      · exact padded _ _ (List.mem_of_mem_drop fraction)

theorem isNumberCharacter_of_mem_text {number : Float} {character : Char}
    (member : character ∈ (text plain number).toList) : isNumberCharacter character = true := by
  have words : forall word, word ∈ ["NaN", "-inf", "inf"] ->
      forall letter, letter ∈ word.toList -> isNumberCharacter letter = true := by
    have all : forall word, word ∈ ["NaN", "-inf", "inf"] ->
        word.toList.all isNumberCharacter = true := by
      decide
    exact fun word listed => List.all_eq_true.mp (all word listed)
  unfold text at member
  split at member
  · exact words "NaN" List.mem_cons_self character member
  · split at member
    · exact words "-inf" (List.mem_cons_of_mem _ List.mem_cons_self) character member
    · exact words "inf" (List.mem_cons_of_mem _ (List.mem_cons_of_mem _ List.mem_cons_self))
        character member
  · rw [String.toList_ofList] at member
    split at member
    · rcases List.mem_cons.mp member with rfl | digit
      · decide
      · exact isNumberCharacter_of_mem_positional digit
    · exact isNumberCharacter_of_mem_positional member

end Decimal

namespace Environment

/-- No format has a name like a number. -/
theorem not_namesFormat_of_number {text : String} {format : OutputFormat}
    (number : forall character, character ∈ text.toList -> isNumberCharacter character = true) :
    ¬ NamesFormat text format := by
  intro names
  have letters : 't' ∈ text.toList.map Char.toLower ∨ 'j' ∈ text.toList.map Char.toLower := by
    cases format with
    | tree => exact Or.inl (names.isInfix.subset (by decide))
    | json => exact Or.inr (names.isInfix.subset (by decide))
  have without : forall character, isNumberCharacter character = true ->
      character.toLower ≠ 't' ∧ character.toLower ≠ 'j' := by
    intro character written
    simp only [isNumberCharacter, Bool.or_eq_true, List.contains_eq_mem, decide_eq_true_eq,
      List.mem_cons, List.not_mem_nil, or_false] at written
    rcases written with digit | rfl | rfl | rfl | rfl | rfl | rfl | rfl
    · rw [toLower_of_isDigit digit]
      exact ⟨Numeral.ne_of_isDigit digit (by decide), Numeral.ne_of_isDigit digit (by decide)⟩
    all_goals decide
  rcases letters with letter | letter
  · rcases List.mem_map.mp letter with ⟨character, member, same⟩
    exact (without character (number character member)).1 same
  · rcases List.mem_map.mp letter with ⟨character, member, same⟩
    exact (without character (number character member)).2 same

/-! ## Readings of a text -/

/-- The words for truth values, beside the plain ones, that a depth is read from too. -/
def switchWords : List String := ["on", "yes", "off", "no"]

/-- What a text is taken for where a depth is wanted: the integer that it writes, a truth
value as one or nothing, and any other number rounded and cut to a word. -/
inductive TakenForDepth (text : String) : Int -> Prop where
  | word {number : Int} (writes : WritesWord text number) : TakenForDepth text number
  | boolean {value : Bool} (writes : WritesBoolean text value) :
      TakenForDepth text (if value then 1 else 0)
  | on (isWord : lowered text ∈ ["on", "yes"]) : TakenForDepth text 1
  | off (isWord : lowered text ∈ ["off", "no"]) : TakenForDepth text 0
  | float {number : Float} (writes : WritesFloat text number) :
      TakenForDepth text number.round.toInt64.toInt

/-- A word for a switch is neither a truth value nor a number. -/
theorem isPlain_of_switchWord {text : String} (listed : lowered text ∈ switchWords) :
    IsPlain text := by
  have noK : forall word, word ∈ switchWords -> 'k' ∉ word.toList ∧ '\u212A' ∉ word.toList := by
    decide
  have opens : forall word, word ∈ switchWords ->
      (word.toList.head?.any fun first => !startsNumber first) = true := by
    decide
  have others : forall word, word ∈ switchWords -> word ∉ ["true", "false"] ++ numberWords := by
    decide
  have letters : text.toList.map Char.toLower = (lowered text).toList := by
    rw [← map_lower_eq_iff (noK _ listed).1 (noK _ listed).2, lowered, String.toList_ofList]
  have headOpens := opens _ listed
  rw [← letters, List.head?_map] at headOpens
  cases starts : text.toList with
  | nil =>
      rw [starts] at headOpens
      cases headOpens
  | cons first later =>
      rw [starts] at headOpens
      have outside : startsNumber first = false := by
        cases number : startsNumber first with
        | false => rfl
        | true => simp [(startsNumber_spec number).1, number] at headOpens
      refine isPlain_of_head starts outside fun word member same => ?_
      exact others _ listed (String.toList_injective (letters.symm.trans same) ▸ member)

theorem not_namesFormat_toString (value : Bool) (format : OutputFormat) :
    ¬ NamesFormat (toString value) format := by
  rw [← ofLoose?_eq_some_iff]
  cases value <;> cases format <;> decide

namespace Reading

/-- Every text can be written as a text again.  Where that names a format, it is the
text as it was. -/
theorem exists_asText? (text : String) :
    Exists fun written => (Reading.of false text).asText? = some written ∧
      forall format, NamesFormat written format -> NamesFormat text format := by
  rcases of_cases false text with
    ⟨value, -, same⟩ | ⟨number, -, same⟩ | ⟨value, -, same⟩ | ⟨-, same⟩
  · refine ⟨toString value, congrArg asText? same, fun format names => ?_⟩
    exact absurd names (not_namesFormat_toString value format)
  · refine ⟨toString number, congrArg asText? same, fun format names => ?_⟩
    exact absurd names (not_namesFormat_of_number fun _ => isNumberCharacter_of_mem_toString)
  · refine ⟨Decimal.text Decimal.plain value, congrArg asText? same, fun format names => ?_⟩
    exact absurd names (not_namesFormat_of_number fun _ => Decimal.isNumberCharacter_of_mem_text)
  · exact ⟨text, congrArg asText? same, fun format names => names⟩

theorem asText?_of_word {text : String} {number : Int} (writes : WritesWord text number) :
    (Reading.of false text).asText? = some (toString number) :=
  congrArg asText? (of_word writes false)

theorem asText?_of_boolean {text : String} {value : Bool} (writes : WritesBoolean text value) :
    (Reading.of false text).asText? = some (toString value) :=
  congrArg asText? (of_boolean writes false)

theorem asText?_of_float {text : String} {number : Float} (writes : WritesFloat text number) :
    (Reading.of false text).asText? = some (Decimal.text Decimal.plain number) :=
  congrArg asText? (of_float writes false)

theorem asInteger?_of_plain {text : String} (plain : IsPlain text)
    (noSwitch : lowered text ∉ switchWords) : (Reading.of false text).asInteger? = none := by
  have noTrue : lowered text ≠ "true" := fun same =>
    plain.notBoolean true ((lowered_eq_iff text true).mp same)
  have noFalse : lowered text ≠ "false" := fun same =>
    plain.notBoolean false ((lowered_eq_iff text false).mp same)
  simp only [switchWords, List.mem_cons, List.not_mem_nil, or_false, not_or] at noSwitch
  rw [of_plain plain, if_neg Bool.false_ne_true, asInteger?]
  simp [noTrue, noFalse, noSwitch]

theorem asInteger?_of_takenForDepth {text : String} {number : Int}
    (taken : TakenForDepth text number) : (Reading.of false text).asInteger? = some number := by
  cases taken with
  | word writes => rw [of_word writes, asInteger?]
  | boolean writes => rw [of_boolean writes, asInteger?]
  | float writes => rw [of_float writes, asInteger?]
  | on isWord =>
      have plain := isPlain_of_switchWord (List.mem_append_left ["off", "no"] isWord)
      rw [of_plain plain, if_neg Bool.false_ne_true, asInteger?]
      rcases List.mem_pair.mp isWord with same | same <;> rw [same] <;> rfl
  | off isWord =>
      have plain := isPlain_of_switchWord (List.mem_append_right ["on", "yes"] isWord)
      rw [of_plain plain, if_neg Bool.false_ne_true, asInteger?]
      rcases List.mem_pair.mp isWord with same | same <;> rw [same] <;> rfl

/-- There is no other text that a depth is read from. -/
theorem takenForDepth_or_isPlain (text : String) :
    (Exists fun number => TakenForDepth text number) ∨
      IsPlain text ∧ lowered text ∉ switchWords := by
  rcases of_cases false text with
    ⟨value, writes, -⟩ | ⟨number, writes, -⟩ | ⟨number, writes, -⟩ | ⟨plain, -⟩
  · exact Or.inl ⟨_, .boolean writes⟩
  · exact Or.inl ⟨_, .word writes⟩
  · exact Or.inl ⟨_, .float writes⟩
  · by_cases listed : lowered text ∈ switchWords
    · have halves : switchWords = ["on", "yes"] ++ ["off", "no"] := rfl
      rcases List.mem_append.mp (halves ▸ listed) with isWord | isWord
      · exact Or.inl ⟨_, .on isWord⟩
      · exact Or.inl ⟨_, .off isWord⟩
    · exact Or.inr ⟨plain, listed⟩

theorem asList?_of_not_plain {text : String} (guessed : ¬ IsPlain text) :
    (Reading.of true text).asList? = none := by
  rcases of_cases true text with ⟨_, -, same⟩ | ⟨_, -, same⟩ | ⟨_, -, same⟩ | ⟨plain, -⟩
  · exact congrArg asList? same
  · exact congrArg asList? same
  · exact congrArg asList? same
  · exact absurd plain guessed

end Reading

/-! ## Settings of a variable -/

section Given

variable {environment : Environment} {setting name text : String}

theorem namesFormat_of_format {format : Option OutputFormat}
    (given : environment.text? "format" = some text) (read : environment.format = .ok format) :
    Exists fun found => format = some found ∧ NamesFormat text found := by
  rcases Reading.exists_asText? text with ⟨written, kept, names⟩
  have shown : (environment.reading? "format").bind Reading.asText? = some written := by
    rw [reading?_of_text? given]
    exact kept
  unfold Environment.format at read
  rw [shown] at read
  cases named : OutputFormat.ofLoose? written with
  | none =>
      simp only [named] at read
      cases read
  | some found =>
      simp only [named] at read
      cases read
      exact ⟨found, rfl, names found (ofLoose?_eq_some_iff.mp named)⟩

theorem depth_of_text? (noList : setting ≠ "extensions")
    (given : environment.text? setting = some text) :
    environment.depth setting name =
      match (Reading.of false text).asInteger? with
      | none => .ok none
      | some value => if value < 0 then .error (.negative name value) else .ok (some value.toNat) := by
  unfold Environment.depth
  rw [reading?_of_text? given, decide_eq_false noList]
  rfl

theorem exists_of_depth {size : Option Nat} {number : Int} (noList : setting ≠ "extensions")
    (given : environment.text? setting = some text) (taken : TakenForDepth text number)
    (read : environment.depth setting name = .ok size) :
    Exists fun levels : Nat => size = some levels ∧ (levels : Int) = number := by
  rw [depth_of_text? noList given, Reading.asInteger?_of_takenForDepth taken] at read
  dsimp only at read
  split at read
  · cases read
  · next notNegative =>
      cases read
      exact ⟨number.toNat, rfl, Int.toNat_of_nonneg (Int.not_lt.mp notNegative)⟩

theorem eq_none_of_depth {size : Option Nat} (noList : setting ≠ "extensions")
    (given : environment.text? setting = some text) (plain : IsPlain text)
    (noSwitch : lowered text ∉ switchWords) (read : environment.depth setting name = .ok size) :
    size = none := by
  rw [depth_of_text? noList given, Reading.asInteger?_of_plain plain noSwitch] at read
  cases read
  rfl

end Given

end Environment

/-! ## What is loaded -/

namespace Settings

open Environment

section Loaded

variable {environment : Environment} {storage : Storage} {folder : Option Path}
variable {settings : Settings} {text : String} {number : Int}

theorem format_of_load (loaded : load environment storage folder = .ok settings)
    (given : environment.text? "format" = some text) : NamesFormat text settings.format := by
  rcases load_eq_ok_iff.mp loaded with ⟨own, near, global, ownRead, -, -, rfl⟩
  rcases overlay_eq_ok_iff.mp ownRead with ⟨format, -⟩
  rcases namesFormat_of_format given format with ⟨found, specified, names⟩
  simpa only [layered, topmost_of_specified specified, Option.getD_some] using names

theorem maxDepth_of_load (loaded : load environment storage folder = .ok settings)
    (given : environment.text? "max_depth" = some text) (taken : TakenForDepth text number) :
    (settings.maxDepth : Int) = number := by
  rcases load_eq_ok_iff.mp loaded with ⟨own, near, global, ownRead, -, -, rfl⟩
  rcases overlay_eq_ok_iff.mp ownRead with ⟨-, -, depth, -⟩
  rcases exists_of_depth (by decide) given taken depth with ⟨levels, specified, same⟩
  simpa only [layered, topmost_of_specified specified, Option.getD_some] using same

theorem exists_scanDepth_of_load (loaded : load environment storage folder = .ok settings)
    (given : environment.text? "scan_depth" = some text) (taken : TakenForDepth text number) :
    Exists fun levels : Nat => settings.scanDepth = some levels ∧ (levels : Int) = number := by
  rcases load_eq_ok_iff.mp loaded with ⟨own, near, global, ownRead, -, -, rfl⟩
  rcases overlay_eq_ok_iff.mp ownRead with ⟨-, -, -, depth, -⟩
  rcases exists_of_depth (by decide) given taken depth with ⟨levels, specified, same⟩
  exact ⟨levels, topmost_of_specified specified, same⟩

/-- A folder is expanded as its guess is written again. -/
theorem guidebookDir_of_load {written : String}
    (loaded : load environment storage folder = .ok settings)
    (given : environment.text? "guidebook_dir" = some text)
    (guess : (Reading.of false text).asText? = some written) :
    settings.guidebookDir = some (environment.expand written) := by
  rcases load_eq_ok_iff.mp loaded with ⟨own, near, global, ownRead, -, -, rfl⟩
  rcases overlay_eq_ok_iff.mp ownRead with ⟨-, -, -, -, -, dir⟩
  have specified : own.guidebookDir = some written := by
    rw [← dir, reading?_of_text? given]
    exact guess
  simp only [layered, topmost_of_specified specified, Option.map_some]

theorem extensions_of_load (loaded : load environment storage folder = .ok settings)
    (given : environment.text? "extensions" = some text) (plain : IsPlain text) :
    HasParts text settings.extensions := by
  rcases load_eq_ok_iff.mp loaded with ⟨own, near, global, ownRead, -, -, rfl⟩
  rcases overlay_eq_ok_iff.mp ownRead with ⟨-, -, -, -, extensions, -⟩
  have specified : own.extensions = some (splitCommas text) := by
    rw [← extensions, reading?_of_text? given]
    exact Reading.asList?_of_parts ⟨plain, hasParts_splitCommas text⟩
  simp only [layered, listed, specified, Option.getD_some]
  exact hasParts_splitCommas text

/-- The layers of the files are known, and only that of the environment is open. -/
theorem exists_own_of_load {near global : Overlay}
    (nearRead : readOptional storage (folder.map localPath) = .ok near)
    (globalRead : readOptional storage (globalPath? environment) = .ok global)
    (loaded : load environment storage folder = .ok settings) :
    Exists fun own => environment.overlay = .ok own ∧ settings = layered environment own near global := by
  rcases load_eq_ok_iff.mp loaded with ⟨own, _, _, ownRead, nearSame, globalSame, rfl⟩
  cases nearRead.symm.trans nearSame
  cases globalRead.symm.trans globalSame
  exact ⟨own, ownRead, rfl⟩

/-- Where settings are loaded, a format is the one that the text of its variable names,
a depth is the integer that the text writes, if it fits a word, and a text that is neither
a truth value nor a number is the folder that is expanded, or the list of its parts.
For other texts this fails.  A depth that no integer is read from and a list that is read
as something else are as the files and the defaults leave them.  Truth values, the words
for switches and numbers that are no integers of a word give a depth that they do not
write, and a folder that is read as a truth value or a number is what this is written as. -/
theorem load_takes_variables {near global : Overlay}
    (nearRead : readOptional storage (folder.map localPath) = .ok near)
    (globalRead : readOptional storage (globalPath? environment) = .ok global)
    (loaded : load environment storage folder = .ok settings) :
    (forall text, environment.text? "format" = some text -> NamesFormat text settings.format) ∧
    (forall text number, environment.text? "max_depth" = some text -> WritesWord text number ->
      (settings.maxDepth : Int) = number) ∧
    (forall text number, environment.text? "scan_depth" = some text -> WritesWord text number ->
      Exists fun levels : Nat => settings.scanDepth = some levels ∧ (levels : Int) = number) ∧
    (forall text, environment.text? "guidebook_dir" = some text -> IsPlain text ->
      settings.guidebookDir = some (environment.expand text)) ∧
    (forall text, environment.text? "extensions" = some text -> IsPlain text ->
      HasParts text settings.extensions) ∧
    (forall text, environment.text? "max_depth" = some text -> IsPlain text ->
      lowered text ∉ switchWords ->
        settings.maxDepth = (topmost Overlay.maxDepth [near, global]).getD default.maxDepth) ∧
    (forall text, environment.text? "scan_depth" = some text -> IsPlain text ->
      lowered text ∉ switchWords ->
        settings.scanDepth = topmost Overlay.scanDepth [near, global]) ∧
    (forall text, environment.text? "extensions" = some text -> ¬ IsPlain text ->
      settings.extensions = listed .empty near global) ∧
    (forall text number, environment.text? "guidebook_dir" = some text -> WritesWord text number ->
      settings.guidebookDir = some (environment.expand (toString number))) ∧
    (forall text value, environment.text? "guidebook_dir" = some text -> WritesBoolean text value ->
      settings.guidebookDir = some (environment.expand (toString value))) ∧
    (forall text number, environment.text? "guidebook_dir" = some text -> WritesFloat text number ->
      settings.guidebookDir = some (environment.expand (Decimal.text Decimal.plain number))) ∧
    (forall text number, environment.text? "max_depth" = some text -> TakenForDepth text number ->
      (settings.maxDepth : Int) = number) ∧
    (forall text number, environment.text? "scan_depth" = some text -> TakenForDepth text number ->
      Exists fun levels : Nat => settings.scanDepth = some levels ∧ (levels : Int) = number) ∧
    (forall text, (Exists fun number => TakenForDepth text number) ∨
      IsPlain text ∧ lowered text ∉ switchWords) := by
  rcases exists_own_of_load nearRead globalRead loaded with ⟨own, ownRead, layers⟩
  rcases overlay_eq_ok_iff.mp ownRead with ⟨-, -, maxDepth, scanDepth, extensions, -⟩
  refine ⟨fun text => format_of_load loaded,
    fun text number given writes => maxDepth_of_load loaded given (.word writes),
    fun text number given writes => exists_scanDepth_of_load loaded given (.word writes),
    fun text given plain => guidebookDir_of_load loaded given (Reading.asText?_of_plain plain),
    fun text => extensions_of_load loaded, fun text given plain noSwitch => ?_,
    fun text given plain noSwitch => ?_, fun text given guessed => ?_,
    fun text number given writes =>
      guidebookDir_of_load loaded given (Reading.asText?_of_word writes),
    fun text value given writes =>
      guidebookDir_of_load loaded given (Reading.asText?_of_boolean writes),
    fun text number given writes =>
      guidebookDir_of_load loaded given (Reading.asText?_of_float writes),
    fun text number => maxDepth_of_load loaded, fun text number => exists_scanDepth_of_load loaded,
    Reading.takenForDepth_or_isPlain⟩
  -- What is left are the variables that the layer of the environment leaves out.
  · have unset := eq_none_of_depth (by decide) given plain noSwitch maxDepth
    simp only [layers, layered, topmost_of_unset unset]
  · have unset := eq_none_of_depth (by decide) given plain noSwitch scanDepth
    simp only [layers, layered, topmost_of_unset unset]
  · have unset : own.extensions = none := by
      rw [← extensions, reading?_of_text? given]
      exact Reading.asList?_of_not_plain guessed
    simp only [layers, layered, listed, unset]
    rfl

end Loaded

/-- Variables for five settings, of which three are taken for something else. -/
def guessedEnvironment : Environment :=
  ⟨[("GUIDEPLAN__FORMAT", " Json "), ("GUIDEPLAN__MAX_DEPTH", "abc"),
    ("GUIDEPLAN__SCAN_DEPTH", "+007"), ("GUIDEPLAN__EXTENSIONS", "1"),
    ("GUIDEPLAN__GUIDEBOOK_DIR", "007")], none⟩

/-- Variables for three settings, none of which asks for a switch. -/
def switchedEnvironment : Environment :=
  ⟨[("GUIDEPLAN__MAX_DEPTH", "Yes"), ("GUIDEPLAN__SCAN_DEPTH", "FALSE"),
    ("GUIDEPLAN__GUIDEBOOK_DIR", "True")], none⟩

theorem load_takes_variables_guessed :
    (Exists fun settings =>
      load guessedEnvironment (Storage.empty []) none = .ok settings ∧
        NamesFormat " Json " settings.format ∧ settings.maxDepth = 64 ∧
        settings.scanDepth = some 7 ∧ settings.extensions = ["json", "toml"] ∧
        settings.guidebookDir = some "7") ∧
    Exists fun settings =>
      load switchedEnvironment (Storage.empty []) none = .ok settings ∧
        settings.maxDepth = 1 ∧ settings.scanDepth = some 0 ∧
        settings.guidebookDir = some "true" := by
  refine ⟨?guessed, ?switched⟩
  case guessed =>
    have loaded : load guessedEnvironment (Storage.empty []) none =
        .ok ⟨.json, true, 64, some 7, ["json", "toml"], some "7"⟩ := by rfl
    have plain : IsPlain "abc" := ⟨by decide, by decide, by decide⟩
    have seven : WritesWord "+007" 7 :=
      ⟨.positive (by decide) (List.all_eq_true.mp (by decide)), by decide, by decide⟩
    have zeros : WritesWord "007" 7 :=
      ⟨.unsigned (by decide) (List.all_eq_true.mp (by decide)), by decide, by decide⟩
    rcases load_takes_variables (readOptional_none _) (readOptional_none _) loaded with
      ⟨format, -, scanDepth, -, -, maxKept, -, extensionsKept, rewritten, -⟩
    refine ⟨_, loaded, format _ (by rfl), ?_, ?_, ?_, ?_⟩
    · exact maxKept "abc" (by rfl) plain (by decide)
    · rcases scanDepth "+007" 7 (by rfl) seven with ⟨levels, specified, same⟩
      rw [specified]
      exact congrArg some (Int.ofNat.inj same)
    · exact extensionsKept "1" (by rfl) (fun plain => by cases plain.notInteger)
    · exact rewritten "007" 7 (by rfl) zeros
  case switched =>
    have loaded : load switchedEnvironment (Storage.empty []) none =
        .ok ⟨.tree, true, 1, some 0, ["json", "toml"], some "true"⟩ := by rfl
    rcases load_takes_variables (readOptional_none _) (readOptional_none _) loaded with
      ⟨-, -, -, -, -, -, -, -, -, rewritten, -, maxDepth, scanDepth, -⟩
    have expanded : switchedEnvironment.expand (toString true) = "true" := by rfl
    have yes : WritesBoolean "True" true := by decide
    refine ⟨_, loaded, ?_, ?_, expanded ▸ rewritten "True" true (by rfl) yes⟩
    · exact Int.ofNat.inj (maxDepth "Yes" 1 (by rfl) (.on (by decide)))
    · have no : WritesBoolean "FALSE" false := by decide
      rcases scanDepth "FALSE" 0 (by rfl) (.boolean no) with ⟨levels, specified, same⟩
      rw [specified]
      exact congrArg some (Int.ofNat.inj same)

/-- A text that writes no integer is not refused as a depth, and a folder does not keep
its name. -/
theorem load_drops_and_rewrites :
    (¬ Exists fun number => WritesInteger "abc".toList number) ∧
      load ⟨[("GUIDEPLAN__MAX_DEPTH", "abc")], none⟩ (Storage.empty []) none = .ok default ∧
      load ⟨[("GUIDEPLAN__EXTENSIONS", "1")], none⟩ (Storage.empty []) none = .ok default ∧
      load ⟨[("GUIDEPLAN__GUIDEBOOK_DIR", "007")], none⟩ (Storage.empty []) none =
        .ok ⟨.tree, true, 64, none, ["json", "toml"], some "7"⟩ := by
  refine ⟨?_, by rfl, by rfl, by rfl⟩
  rintro ⟨number, writes⟩
  have read := integer?_eq_some_iff.mpr writes
  cases read

end Settings
end Guidebook
