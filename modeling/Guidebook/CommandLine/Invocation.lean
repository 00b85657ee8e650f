import Guidebook.CommandLine.Grammar
import Guidebook.Storage.Path

namespace Guidebook
namespace CommandLine

/-!
# Invocations

The words of a command line are read from left to right.  A value is held back
until the next word that is no value of its own, and only then checked; so a
word that is not known is reported before a value that is not accepted.  What
is missing is reported last.

Asking for help or for the version ends the reading, and is told apart from a
mistake by the status of the program only.
-/

/-- Why a command line is not carried out. -/
inductive Refusal where
  | unknownArgument
  | unknownCommand
  | invalidValue
  /-- Something is given twice that may be given once. -/
  | repeated
  /-- A value is given to a switch that takes none. -/
  | needlessValue
  | missingArgument
  | missingCommand
  /-- Nothing is given where a command is needed. -/
  | bare
  | helpWanted
  | versionWanted
deriving Repr, DecidableEq

/-- The status of the program that goes with a refusal. -/
def Refusal.status : Refusal -> Nat
  | .helpWanted => 0
  | .versionWanted => 0
  | _ => 2

/-- The refusal in words, where it is a mistake.  The words stand in for those of a parser of
arguments, which names the argument and shows the usage; nothing is stated about them. -/
def Refusal.message? : Refusal -> Option String
  | .unknownArgument => some "an argument is not known"
  | .unknownCommand => some "a command is not known"
  | .invalidValue => some "a value is missing or not accepted"
  | .repeated => some "an argument is given twice"
  | .needlessValue => some "a value is given to an argument that takes none"
  | .missingArgument => some "a required argument is missing"
  | .missingCommand => some "a command is missing"
  | .bare => some "a command is missing"
  | .helpWanted => none
  | .versionWanted => none

/-- What is asked of the program. -/
inductive Request where
  | help
  | compile (file : Path) (format : Option OutputFormat)
  | tree (file : Path)
  | check (path : Option Path)
  | commands (file : Path)
  | configShow (dir : Option Path)
  | configInit (global force : Bool)
  | configPath
  | completion (shell : String)
deriving Repr, DecidableEq

/-- A request with what holds for every request. -/
structure Invocation where
  debug : Nat
  noColor : Bool
  request : Request
deriving Repr, DecidableEq

/-- A value that is held back: its slot, what is accepted there, and the value
if it has come already. -/
structure Held where
  slot : Slot
  wanted : Wanted
  value : Option String

/-- What has been read so far. -/
structure Scan where
  level : Level
  /-- What is given at this level, in order. -/
  given : List (Slot × String)
  held : Option Held
  /-- Whether the next word is a value in any case. -/
  isAwaiting : Bool
  /-- Whether only values can follow. -/
  isTrailing : Bool
  /-- How many places of this level are taken. -/
  taken : Nat
  /-- How often diagnosis is asked for at this level. -/
  count : Option Nat
  /-- The count of the last level around this one that has one. -/
  countAround : Nat
  noColor : Bool

namespace Scan

/-- Nothing read yet at a level. -/
def start (level : Level) (countAround : Nat) (noColor : Bool) : Scan :=
  ⟨level, [], none, false, false, 0, none, countAround, noColor⟩

/-- Whether something is given at this level. -/
def has (scan : Scan) (slot : Slot) : Bool := scan.given.any fun entry => entry.1 = slot

/-- The value that is given at this level. -/
def value? (scan : Scan) (slot : Slot) : Option String :=
  (scan.given.find? fun entry => entry.1 = slot).map Prod.snd

/-- Take a value into a slot. -/
def give (scan : Scan) (slot : Slot) (wanted : Wanted) (value : String) : Except Refusal Scan :=
  if scan.has slot then .error .repeated
  else if wanted.accepts value then .ok { scan with given := scan.given ++ [(slot, value)] }
  else .error .invalidValue

/-- Take the value that is held back. -/
def settle (scan : Scan) : Except Refusal Scan :=
  match scan.held with
  | none => .ok scan
  | some held =>
    match held.value with
    | none => .error .invalidValue
    | some value => ({ scan with held := none }).give held.slot held.wanted value

/-- The greatest count that is kept. -/
def greatestCount : Nat := 255

/-- Carry out a switch without a value of its own. -/
def turn (scan : Scan) (switch : Switch) : Except Refusal Scan := do
  let scan <- scan.settle
  match switch.effect with
  | .help => throw .helpWanted
  | .version => throw .versionWanted
  | .count =>
    return { scan with count := some (min greatestCount (scan.count.getD 0 + 1)), isAwaiting := false }
  | .mark =>
    if scan.has switch.slot then throw .repeated
    else
      return { scan with
        given := scan.given ++ [(switch.slot, "true")]
        noColor := scan.noColor || switch.slot = .noColor
        isAwaiting := false }
  | .value wanted => return { scan with held := some ⟨switch.slot, wanted, none⟩, isAwaiting := true }

/-- Carry out a switch with a value that is attached to it. -/
def attach (scan : Scan) (switch : Switch) (wanted : Wanted) (value : String) :
    Except Refusal Scan := do
  let scan <- scan.settle
  let scan <- scan.give switch.slot wanted value
  return { scan with isAwaiting := false }

/-- Read a long switch behind its hyphens. -/
def long (scan : Scan) (text : List Char) : Except Refusal Scan :=
  let name := String.ofList (text.takeWhile (· ≠ '='))
  match scan.level.long? name with
  | none => .error .unknownArgument
  | some switch =>
    match text.dropWhile (· ≠ '='), switch.effect with
    | _ :: value, .value wanted => scan.attach switch wanted (String.ofList value)
    | _ :: _, _ => .error .needlessValue
    | [], _ => scan.turn switch

/-- Read short switches behind their hyphen.  The first that takes a value has
the rest of the word for it. -/
def shorts (scan : Scan) : List Char -> Except Refusal Scan
  | [] => .ok scan
  | name :: rest =>
    match scan.level.short? name with
    | none => .error .unknownArgument
    | some switch =>
      match switch.effect, rest with
      | .value wanted, '=' :: value => scan.attach switch wanted (String.ofList value)
      | .value wanted, first :: value => scan.attach switch wanted (String.ofList (first :: value))
      | _, _ =>
        match scan.turn switch with
        | .ok scan => shorts scan rest
        | .error refusal => .error refusal

/-- Read a word as the value of a place. -/
def place (scan : Scan) (word : String) : Except Refusal Scan :=
  match scan.level.places[scan.taken]? with
  | some place => do
    let scan <- scan.settle
    return { scan with
      held := some ⟨place.slot, place.wanted, some word⟩
      isAwaiting := false
      taken := scan.taken + 1 }
  | none =>
    if scan.level.hasCommands && !(scan.isTrailing && (scan.level.command? word).isSome
        || scan.isTrailing && word = "help") then .error .unknownCommand
    else .error .unknownArgument

/-- Read a word as a value: of the switch before it, or of a place. -/
def plain (scan : Scan) (word : String) : Except Refusal Scan :=
  match scan.isAwaiting, scan.held with
  | true, some held =>
    .ok { scan with held := some { held with value := some word }, isAwaiting := false }
  | _, _ => scan.place word

/-- Read a word that is no command. -/
def word (scan : Scan) (word : String) : Except Refusal Scan :=
  if scan.isTrailing then scan.place word
  else
    match word.toList with
    | ['-', '-'] => .ok { scan with isTrailing := true }
    | '-' :: '-' :: text => scan.long text
    | '-' :: first :: rest => scan.shorts (first :: rest)
    | _ => scan.plain word

/-- The count for diagnosis: of the innermost level that has one. -/
def debug (scan : Scan) : Nat := scan.count.getD scan.countAround

/-- Go on at a level below this one. -/
def enter (scan : Scan) (level : Level) : Scan := start level scan.debug scan.noColor

/-- The path given in a slot. -/
def path? (scan : Scan) (slot : Slot) : Option Path := (scan.value? slot).map Path.ofText

/-- The path given in a slot that is not left out. -/
def path (scan : Scan) (slot : Slot) : Path := (scan.path? slot).getD (.ofText "")

/-- What is asked for, when everything needed is given. -/
def request (scan : Scan) : Request :=
  match scan.level with
  | .program => .help
  | .config => .help
  | .compile => .compile (scan.path .file) ((scan.value? .format).bind OutputFormat.ofName?)
  | .tree => .tree (scan.path .file)
  | .check => .check (scan.path? .path)
  | .commands => .commands (scan.path .file)
  | .configShow => .configShow (scan.path? .dir)
  | .configInit => .configInit (scan.has .global) (scan.has .force)
  | .configPath => .configPath
  | .completion => .completion ((scan.value? .shell).getD "")

/-- End the reading: take what is held back, and ask whether anything is
missing. -/
def finish (scan : Scan) : Except Refusal Invocation := do
  let scan <- scan.settle
  if scan.level.needsCommand then
    throw (if scan.given.isEmpty && scan.count.isNone then .bare else .missingCommand)
  else if scan.level.places.any fun place => place.isRequired && !scan.has place.slot then
    throw .missingArgument
  else return ⟨scan.debug, scan.noColor, scan.request⟩

end Scan

/-- Ask for help on a command: the words must name one below the level.  The
command for help itself has none below it. -/
def helpOn : Level -> List String -> Refusal
  | _, [] => .helpWanted
  | level, word :: rest =>
    if word = "help" && level.hasCommands then
      if rest.isEmpty then .helpWanted else .unknownCommand
    else
      match level.command? word with
      | some below => helpOn below rest
      | none => .unknownCommand

/-- Read words, given what has been read before. -/
def readFrom (scan : Scan) : List String -> Except Refusal Invocation
  | [] => scan.finish
  | word :: rest =>
    let isCommandPlace := !scan.isTrailing && !scan.isAwaiting
    if isCommandPlace && scan.level.hasCommands && word = "help" then
      .error (helpOn scan.level rest)
    else
      match if isCommandPlace then scan.level.command? word else none with
      | some below => readFrom (scan.enter below) rest
      | none =>
        match scan.word word with
        | .ok scan => readFrom scan rest
        | .error refusal => .error refusal

/-- Read the words behind the name of the program. -/
def read (words : List String) : Except Refusal Invocation :=
  readFrom (.start .program 0 false) words

end CommandLine
end Guidebook
