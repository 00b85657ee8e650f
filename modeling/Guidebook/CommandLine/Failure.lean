import Guidebook.Document.Load
import Guidebook.Settings.Load

namespace Guidebook
namespace CommandLine

/-!
# Failures of commands

Why a command fails, and the status that the program ends with.  The statuses
are those that mail programs agreed on: they tell a mistake of the user from bad
input, and bad input from a missing one.
-/

/-- How a command was misused. -/
inductive Misuse where
  | nothingToCheck
  | noConfigFolder
  | configExists (path : Path)
  | stated (message : String)
deriving Repr, DecidableEq

/-- The misuse in words. -/
def Misuse.message : Misuse -> String
  | .nothingToCheck => "no path given and no guidebook_dir configured"
  | .noConfigFolder => "cannot determine global config directory"
  | .configExists path =>
    "config already exists: " ++ path.shown ++ " (use --force to overwrite)"
  | .stated message => message

/-- Why a command fails. -/
inductive Failure where
  | misuse (misuse : Misuse)
  | checkFailed (failed total : Nat)
  /-- Something could not be read or written. -/
  | storage (action : String)
  /-- Something could not be put into a format. -/
  | unprintable (subject : String)
  | settings (fault : Settings.Fault)
  | document (failure : Document.Failure)
deriving Repr, DecidableEq

namespace Failure

/-- The failure in words. -/
def message : Failure -> String
  | .misuse cause => cause.message
  | .checkFailed failed total =>
    toString failed ++ " of " ++ toString total ++ " document(s) failed to compile"
  | .storage action => "I/O error: " ++ action
  | .unprintable subject => "serialization failed: " ++ subject
  | .settings fault => "config error: " ++ fault.message
  | .document cause => cause.message

/-- The status of a document that has no plan. -/
def documentStatus : Document.Failure -> Nat
  | .violation _ => 65
  | .invalid _ _ => 65
  | .unsupported _ => 65
  | .missing _ => 66
  | .operation _ _ _ => 74

/-- The status that the program ends with. -/
def status : Failure -> Nat
  | .misuse _ => 64
  | .checkFailed _ _ => 65
  | .storage _ => 74
  | .unprintable _ => 70
  | .settings _ => 78
  | .document cause => documentStatus cause

end Failure
end CommandLine
end Guidebook
