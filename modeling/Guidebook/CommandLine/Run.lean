import Guidebook.CommandLine.Failure
import Guidebook.CommandLine.Help
import Guidebook.CommandLine.Invocation
import Guidebook.CommandLine.Terminal
import Guidebook.Document.Survey
import Guidebook.Outline.Subject
import Guidebook.Plan.Json
import Guidebook.Plan.Tally
import Guidebook.Section.Census

namespace Guidebook
namespace CommandLine

/-!
# Running commands

A command prints to a terminal and may fail; what it printed before it failed
stays printed.  Only the command that creates a configuration file changes what
is stored.  The settings of a command are those that hold where its document or
folder is, and they decide about colors before anything is printed.
-/

/-- What a command runs in. -/
structure Surroundings where
  environment : Environment
  storage : Storage

/-- What a command leaves behind. -/
structure Outcome where
  terminal : Terminal
  storage : Storage
  result : Except Failure Unit

namespace Command

/-- The folder whose settings hold for a path: the path itself when it is a
folder, or else the folder around it. -/
def settingsFolder (storage : Storage) (path : Path) : Path :=
  if storage.isFolder path then path
  else
    match path.parent? with
    | some parent => if parent.bytes.isEmpty then .ofText "." else parent
    | none => .ofText "."

/-- The settings that hold for a path. -/
def settingsFor (around : Surroundings) (path : Path) : Except Failure Settings :=
  (Settings.load around.environment around.storage
    (some (settingsFolder around.storage path))).mapError .settings

/-- Carry on with a result, or end with a failure that has printed nothing. -/
def orFail {Value : Type} (terminal : Terminal) (result : Except Failure Value)
    (next : Value -> Terminal × Except Failure Unit) : Terminal × Except Failure Unit :=
  match result with
  | .ok value => next value
  | .error failure => (terminal, .error failure)

/-- Carry on with the settings that hold for a path, colors being decided. -/
def withSettings (around : Surroundings) (terminal : Terminal) (noColor : Bool) (path : Path)
    (next : Settings -> Terminal -> Terminal × Except Failure Unit) :
    Terminal × Except Failure Unit :=
  orFail terminal (settingsFor around path) fun settings =>
    next settings (terminal.keepColor (!noColor && settings.color))

/-- Print the plan of a document. -/
def compile (around : Surroundings) (noColor : Bool) (file : Path)
    (format : Option OutputFormat) (terminal : Terminal) : Terminal × Except Failure Unit :=
  withSettings around terminal noColor file fun settings terminal =>
    orFail terminal ((Document.compile around.storage settings file).mapError .document) fun plan =>
      match format.getD settings.format with
      | .tree => (terminal.raw plan.outline.draw, .ok ())
      | .json => (terminal.line plan.json, .ok ())

/-- Print the sections of a document. -/
def tree (around : Surroundings) (noColor : Bool) (file : Path) (terminal : Terminal) :
    Terminal × Except Failure Unit :=
  withSettings around terminal noColor file fun _ terminal =>
    orFail terminal ((Document.load around.storage file).mapError .document) fun forest =>
      let terminal := terminal.heading
        (file.shown ++ " (" ++ toString forest.length ++ " root(s))")
      let terminal := forest.foldl (fun terminal root => terminal.raw root.outline.draw) terminal
      (terminal.detail (Census.ofForest forest).text, .ok ())

/-- Print the commands of a document. -/
def commands (around : Surroundings) (noColor : Bool) (file : Path) (terminal : Terminal) :
    Terminal × Except Failure Unit :=
  withSettings around terminal noColor file fun settings terminal =>
    orFail terminal ((Document.compile around.storage settings file).mapError .document) fun plan =>
      (plan.commands.foldl Terminal.line terminal, .ok ())

/-- Print one report of a survey. -/
def report (terminal : Terminal) (report : Document.Report) : Terminal :=
  match report.result with
  | .ok plan => terminal.success (report.path.shown ++ ": " ++ plan.tally.text)
  | .error failure => terminal.failure (report.path.shown ++ ": " ++ failure.message)

/-- Whether a report tells of a failure. -/
def isFailed (report : Document.Report) : Bool :=
  match report.result with
  | .ok _ => false
  | .error _ => true

/-- Print the reports of a survey, and fail when one of them tells of a failure. -/
def reports (path : Path) (terminal : Terminal) (all : List Document.Report) :
    Terminal × Except Failure Unit :=
  if all.isEmpty then
    (terminal.warning ("no tree documents found in " ++ path.shown), .ok ())
  else
    let failed := all.countP isFailed
    (all.foldl report terminal,
      if failed = 0 then .ok () else .error (.checkFailed failed all.length))

/-- The path to check: the one given, or the configured folder. -/
def pathToCheck (around : Surroundings) (path : Option Path) : Except Failure Path :=
  match path with
  | some path => .ok path
  | none =>
    match Settings.load around.environment around.storage none with
    | .error fault => .error (.settings fault)
    | .ok settings =>
      match settings.guidebookDir with
      | some folder => .ok (.ofText folder)
      | none => .error (.misuse .nothingToCheck)

/-- Compile a document, or every document below a folder, and print how that
went. -/
def check (around : Surroundings) (noColor : Bool) (path : Option Path)
    (terminal : Terminal) : Terminal × Except Failure Unit :=
  orFail terminal (pathToCheck around path) fun path =>
    withSettings around terminal noColor path fun settings terminal =>
      if around.storage.isFolder path then
        orFail terminal ((Document.survey around.storage settings path).mapError .document)
          (reports path terminal)
      else
        orFail terminal ((Document.compile around.storage settings path).mapError .document)
          fun plan => (terminal.success (path.shown ++ ": " ++ plan.tally.text), .ok ())

/-- Print the settings that hold for a folder. -/
def configShow (around : Surroundings) (noColor : Bool) (dir : Option Path)
    (terminal : Terminal) : Terminal × Except Failure Unit :=
  orFail terminal ((Settings.load around.environment around.storage dir).mapError .settings)
    fun settings =>
      let terminal := terminal.keepColor (!noColor && settings.color)
      orFail terminal (settings.toml.mapError .settings) fun text => (terminal.raw text, .ok ())

/-- The file with the settings of the current folder. -/
def localConfig : Path := Settings.localPath (.ofText ".")

/-- The configuration file that is to be created. -/
def configTarget (environment : Environment) (isGlobal : Bool) : Except Failure Path :=
  if isGlobal then
    match Settings.globalPath? environment with
    | some path => .ok path
    | none => .error (.misuse .noConfigFolder)
  else .ok localConfig

/-- Write the template to a path, making the folders around it. -/
def writeTemplate (storage : Storage) (path : Path) : Storage × Except Storage.Fault Unit :=
  match storage.makeParent path with
  | (storage, .error fault) => (storage, .error fault)
  | (storage, .ok ()) =>
    match storage.write path (Bytes.ofText Settings.template) with
    | .ok storage => (storage, .ok ())
    | .error fault => (storage, .error fault)

/-- Create a configuration file. -/
def configInit (around : Surroundings) (isGlobal isForced : Bool) (terminal : Terminal) :
    Outcome :=
  match configTarget around.environment isGlobal with
  | .error failure => ⟨terminal, around.storage, .error failure⟩
  | .ok path =>
    if around.storage.isThere path && !isForced then
      ⟨terminal, around.storage, .error (.misuse (.configExists path))⟩
    else
      match writeTemplate around.storage path with
      | (storage, .ok ()) => ⟨terminal.success ("created " ++ path.shown), storage, .ok ()⟩
      | (storage, .error _) => ⟨terminal, storage, .error (.storage ("write " ++ path.shown))⟩

/-- A path and whether anything is there. -/
def describe (storage : Storage) (path : Path) : String :=
  path.shown ++ (if storage.isThere path then " (exists)" else " (missing)")

/-- Print the paths of the configuration files. -/
def configPath (around : Surroundings) (terminal : Terminal) : Terminal :=
  let shown := match Settings.globalPath? around.environment with
    | some path => describe around.storage path
    | none => "unavailable"
  (terminal.line ("global: " ++ shown)).line ("local:  " ++ describe around.storage localConfig)

/-- Run a command that changes nothing stored. -/
def reading (around : Surroundings) (run : Terminal × Except Failure Unit) : Outcome :=
  ⟨run.1, around.storage, run.2⟩

/-- Run what is asked for. -/
def run (around : Surroundings) (invocation : Invocation) (terminal : Terminal) : Outcome :=
  let noColor := invocation.noColor
  match invocation.request with
  | .help => reading around (terminal.raw helpText, .ok ())
  | .compile file format => reading around (compile around noColor file format terminal)
  | .tree file => reading around (tree around noColor file terminal)
  | .check path => reading around (check around noColor path terminal)
  | .commands file => reading around (commands around noColor file terminal)
  | .configShow dir => reading around (configShow around noColor dir terminal)
  | .configInit isGlobal isForced => configInit around isGlobal isForced terminal
  | .configPath => reading around (configPath around terminal, .ok ())
  | .completion shell => reading around (terminal.raw (completionText shell), .ok ())

end Command

/-! ## The program -/

/-- What the program leaves behind. -/
structure Ending where
  out : String
  err : String
  storage : Storage
  status : Nat

namespace Program

/-- Whether a variable that switches something is on; its text may say that it
is off. -/
def switch? (environment : Environment) (name : String) : Option Bool :=
  (environment.get? name).map (· ≠ "0")

/-- Whether colors are on when the program starts.  It does not print to a
terminal, so they have to be asked for, and a request weighs more than a refusal. -/
def startsColored (environment : Environment) : Bool :=
  switch? environment "CLICOLOR_FORCE" = some true

/-- The greatest count for diagnosis that is taken at its word. -/
def greatestDebug : Nat := 3

/-- Complain about a count for diagnosis that is too great. -/
def complainAbout (debug : Nat) (terminal : Terminal) : Terminal :=
  if greatestDebug < debug then terminal.complain "Don't be crazy, max is -d -d -d" else terminal

/-- What is printed when a command line is not carried out. -/
def answer : Refusal -> String
  | .helpWanted => helpText
  | .versionWanted => versionText
  | _ => ""

/-- The complaint about a command line that is not carried out. -/
def complaint (refusal : Refusal) : String :=
  match refusal.message? with
  | some message => ((Terminal.blank false).error message).err
  | none => ""

/-- Run the program with the words behind its name. -/
def run (around : Surroundings) (words : List String) : Ending :=
  match read words with
  | .error refusal => ⟨answer refusal, complaint refusal, around.storage, refusal.status⟩
  | .ok invocation =>
    let terminal := Terminal.blank (startsColored around.environment && !invocation.noColor)
    let outcome := Command.run around invocation (complainAbout invocation.debug terminal)
    match outcome.result with
    | .ok () => ⟨outcome.terminal.out, outcome.terminal.err, outcome.storage, 0⟩
    | .error failure =>
      let terminal := outcome.terminal.error failure.message
      ⟨terminal.out, terminal.err, outcome.storage, failure.status⟩

end Program
end CommandLine
end Guidebook
