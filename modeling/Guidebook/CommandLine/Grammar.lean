import Guidebook.Settings.Basic

namespace Guidebook
namespace CommandLine

/-!
# The grammar of the command line

A command is a word, and may have commands of its own.  Each level has switches
and values that are told by their place.  The switches for diagnosis and color,
and those that ask for help or the version, stand at every level.
-/

/-- What can be given on the command line. -/
inductive Slot where
  | debug
  | noColor
  | help
  | version
  | format
  | dir
  | global
  | force
  | file
  | path
  | shell
deriving Repr, DecidableEq

/-- The values that a slot accepts. -/
inductive Wanted where
  /-- Any text that is not empty. -/
  | path
  | oneOf (names : List String)
deriving Repr, DecidableEq

/-- Whether a value is accepted. -/
def Wanted.accepts (value : String) : Wanted -> Bool
  | .path => !value.isEmpty
  | .oneOf names => names.contains value

/-- What a switch does. -/
inductive Effect where
  | count
  | mark
  | help
  | version
  | value (wanted : Wanted)
deriving Repr, DecidableEq

/-- A switch with its names. -/
structure Switch where
  slot : Slot
  short : Option Char
  long : String
  effect : Effect
deriving Repr, DecidableEq

/-- A value that is told by its place. -/
structure Place where
  slot : Slot
  wanted : Wanted
  isRequired : Bool
deriving Repr, DecidableEq

/-- The levels of the grammar. -/
inductive Level where
  | program
  | compile
  | tree
  | check
  | commands
  | config
  | configShow
  | configInit
  | configPath
  | completion
deriving Repr, DecidableEq

/-- The shells with a completion. -/
def shells : List String := ["bash", "elvish", "fish", "powershell", "zsh"]

namespace Level

/-- The switches that stand at every level. -/
def sharedSwitches : List Switch :=
  [⟨.debug, some 'd', "debug", .count⟩, ⟨.noColor, none, "no-color", .mark⟩,
    ⟨.help, some 'h', "help", .help⟩, ⟨.version, some 'V', "version", .version⟩]

/-- The switches of a level alone. -/
def ownSwitches : Level -> List Switch
  | .compile => [⟨.format, some 'f', "format", .value (.oneOf (OutputFormat.all.map OutputFormat.name))⟩]
  | .configShow => [⟨.dir, none, "dir", .value .path⟩]
  | .configInit => [⟨.global, some 'g', "global", .mark⟩, ⟨.force, some 'f', "force", .mark⟩]
  | _ => []

/-- All switches of a level. -/
def switches (level : Level) : List Switch := level.ownSwitches ++ sharedSwitches

/-- The places of a level, in order. -/
def places : Level -> List Place
  | .compile => [⟨.file, .path, true⟩]
  | .tree => [⟨.file, .path, true⟩]
  | .check => [⟨.path, .path, false⟩]
  | .commands => [⟨.file, .path, true⟩]
  | .completion => [⟨.shell, .oneOf shells, true⟩]
  | _ => []

/-- The commands below a level. -/
def commandsBelow : Level -> List (String × Level)
  | .program =>
    [("compile", .compile), ("tree", .tree), ("check", .check), ("commands", .commands),
      ("config", .config), ("completion", .completion)]
  | .config => [("show", .configShow), ("init", .configInit), ("path", .configPath)]
  | _ => []

/-- The level of a command below a level. -/
def command? (level : Level) (word : String) : Option Level :=
  (level.commandsBelow.find? fun entry => entry.1 = word).map Prod.snd

/-- Whether a level has commands, and with them the command that shows help. -/
def hasCommands (level : Level) : Bool := !level.commandsBelow.isEmpty

/-- Whether a level does nothing without a command below it. -/
def needsCommand : Level -> Bool
  | .config => true
  | _ => false

/-- The switch with a short name. -/
def short? (level : Level) (name : Char) : Option Switch :=
  level.switches.find? fun switch => switch.short = some name

/-- The switch with a long name. -/
def long? (level : Level) (name : String) : Option Switch :=
  level.switches.find? fun switch => switch.long = name

end Level
end CommandLine
end Guidebook
