import Guidebook.Decimal.Reading
import Guidebook.Decimal.Style
import Guidebook.Settings.Basic
import Guidebook.Text.Blank

namespace Guidebook

/-!
# The environment

The variables of a process.  A setting is read from the variable with its name
behind `GUIDEPLAN__`, in letters of any case.  The text of a variable is first
read as a truth value, a number or a text, whichever it can be, and then turned
into what the setting wants; where that cannot be done, the setting is left
alone.
-/

/-- The variables of a process, with different names, and the home folder of
its account. -/
structure Environment where
  bindings : List (String × String)
  account : Option String
deriving Repr

namespace Environment

/-- The text of a variable. -/
def get? (environment : Environment) (name : String) : Option String :=
  (environment.bindings.find? fun entry => entry.1 = name).map Prod.snd

/-- The home folder: the one that is named, or else that of the account. -/
def home? (environment : Environment) : Option String :=
  ((environment.get? "HOME").filter (!·.isEmpty)).or environment.account

/-! ## Names of settings -/

/-- What the name of a variable with a setting starts with, in lower case. -/
def opening : List Char := "guideplan__".toList

/-- The lower case of a character.  Beside the letters of ASCII the sign of the
Kelvin counts, whose lower case is one of them. -/
def lower (character : Char) : Char :=
  if character = '\u212A' then 'k' else character.toLower

/-- The setting that a variable has the name of. -/
def setting? (name : String) : Option String :=
  (opening.isPrefixOf? (name.toList.map lower)).map String.ofList

/-- The text of the variable of a setting; of several the last one counts. -/
def text? (environment : Environment) (setting : String) : Option String :=
  (environment.bindings.reverse.find? fun entry => setting? entry.1 = some setting).map
    Prod.snd

/-! ## Readings of a text -/

/-- What the text of a variable is read as. -/
inductive Reading where
  | boolean (value : Bool)
  | integer (value : Int)
  | float (value : Float)
  | list (parts : List String)
  | text (value : String)

/-- The runs of characters between the occurrences of one character. -/
def splitFrom (between : Char) : (run : List Char) -> List Char -> List String
  | run, [] => [String.ofList run.reverse]
  | run, character :: rest =>
    if character = between then String.ofList run.reverse :: splitFrom between [] rest
    else splitFrom between (character :: run) rest

/-- The parts of a text between its commas. -/
def splitCommas (text : String) : List String := splitFrom ',' [] text.toList

/-- A text in lower case. -/
def lowered (text : String) : String := String.ofList (text.toList.map lower)

namespace Reading

/-- Read a text as the first that it can be: a truth value, an integer, a number,
and else a list or a text. -/
def of (isList : Bool) (text : String) : Reading :=
  if lowered text = "true" then .boolean true
  else if lowered text = "false" then .boolean false
  else
    match Numeral.word? text.toList with
    | some value => .integer value
    | none =>
      match Decimal.float? text.toList with
      | some value => .float value
      | none => if isList then .list (splitCommas text) else .text text

/-- A reading as a text. -/
def asText? : Reading -> Option String
  | .boolean value => some (toString value)
  | .integer value => some (toString value)
  | .float value => some (Decimal.text Decimal.plain value)
  | .text value => some value
  | .list _ => none

/-- A reading as a truth value. -/
def asBoolean? : Reading -> Option Bool
  | .boolean value => some value
  | .integer value => some (value ≠ 0)
  | .float value => some (value != 0)
  | .text value =>
    if ["1", "true", "on", "yes"].contains (lowered value) then some true
    else if ["0", "false", "off", "no"].contains (lowered value) then some false
    else none
  | .list _ => none

/-- A reading as an integer; a number is rounded, a half away from zero. -/
def asInteger? : Reading -> Option Int
  | .boolean value => some (if value then 1 else 0)
  | .integer value => some value
  | .float value => some value.round.toInt64.toInt
  | .text value =>
    if ["true", "on", "yes"].contains (lowered value) then some 1
    else if ["false", "off", "no"].contains (lowered value) then some 0
    else none
  | .list _ => none

/-- A reading as a list. -/
def asList? : Reading -> Option (List String)
  | .list parts => some parts
  | _ => none

end Reading

/-- The reading of the variable of a setting. -/
def reading? (environment : Environment) (setting : String) : Option Reading :=
  (environment.text? setting).map (Reading.of (setting = "extensions"))

end Environment

/-! ## Settings from the environment -/

namespace OutputFormat

/-- The format that a text names, in letters of any case and between blanks. -/
def ofLoose? (text : String) : Option OutputFormat :=
  ofName? (String.ofList ((Blank.trim text.toList).map Char.toLower))

end OutputFormat

namespace Environment

/-- What is wrong with a variable. -/
inductive Fault where
  | unknownFormat (text : String)
  | negative (name : String) (value : Int)
deriving Repr, DecidableEq

/-- The fault in words. -/
def Fault.message : Fault -> String
  | .unknownFormat text => "GUIDEPLAN_FORMAT: unknown format '" ++ text ++ "'"
  | .negative name value => name ++ ": invalid value " ++ toString value

/-- The depth that a variable sets. -/
def depth (environment : Environment) (setting name : String) :
    Except Fault (Option Nat) :=
  match (environment.reading? setting).bind Reading.asInteger? with
  | none => .ok none
  | some value => if value < 0 then .error (.negative name value) else .ok (some value.toNat)

/-- The format that a variable sets. -/
def format (environment : Environment) : Except Fault (Option OutputFormat) :=
  match (environment.reading? "format").bind Reading.asText? with
  | none => .ok none
  | some text =>
    match OutputFormat.ofLoose? text with
    | some format => .ok (some format)
    | none => .error (.unknownFormat text)

/-- What the variables set, as an overlay.  The first fault in the order of
the fields is the one reported. -/
def overlay (environment : Environment) : Except Fault Overlay := do
  let format <- environment.format
  let maxDepth <- environment.depth "max_depth" "GUIDEPLAN_MAX_DEPTH"
  let scanDepth <- environment.depth "scan_depth" "GUIDEPLAN_SCAN_DEPTH"
  return {
    format
    color := (environment.reading? "color").bind Reading.asBoolean?
    maxDepth
    scanDepth
    extensions := (environment.reading? "extensions").bind Reading.asList?
    guidebookDir := (environment.reading? "guidebook_dir").bind Reading.asText? }

end Environment
end Guidebook
