import Guidebook.Settings.Expansion
import Guidebook.Settings.Toml
import Guidebook.Storage.Operations

namespace Guidebook
namespace Settings

/-!
# Loading

Settings are laid over each other from the weakest to the strongest: what is
set where nothing is configured, the global file, the file in a folder, and the
environment.  A file that is not there is passed over, and one that is there
must be readable.  The folder of guidebooks is expanded after the last layer.
-/

/-- What is wrong with the settings. -/
inductive Fault where
  | unreadable (path : Path) (fault : Storage.Fault)
  | malformed (path : Path) (failure : Toml.Failure)
  | environment (fault : Environment.Fault)
  /-- A size is too great to be written. -/
  | unwritable
  /-- Anything else, in words. -/
  | stated (message : String)
deriving Repr, DecidableEq

/-- The fault in words. -/
def Fault.message : Fault -> String
  | .unreadable path fault => "read " ++ path.shown ++ ": " ++ fault.message
  | .malformed path failure => "parse " ++ path.shown ++ ": " ++ failure.message
  | .environment fault => fault.message
  | .unwritable => "serialize config: out-of-range value for u64 type"
  | .stated message => message

/-! ## Files -/

/-- The name of the file in a folder of guidebooks. -/
def localName : Path := .ofText ".guideplan.toml"

/-- The file with the settings of a folder. -/
def localPath (folder : Path) : Path := folder.join localName

/-- The folder of configuration files: an absolute one that is named, or else
one in the home folder.  Without a home folder there is none, whatever is named. -/
def configFolder? (environment : Environment) : Option Path :=
  environment.home?.map fun home =>
    match (environment.get? "XDG_CONFIG_HOME").map Path.ofText with
    | some folder =>
      if folder.isAbsolute then folder else (Path.ofText home).join (.ofText ".config")
    | none => (Path.ofText home).join (.ofText ".config")

/-- The file with the global settings. -/
def globalPath? (environment : Environment) : Option Path :=
  (configFolder? environment).map fun folder =>
    (folder.join (.ofText "guideplan")).join (.ofText "guideplan.toml")

/-- Read the overlay of a file. -/
def readOverlay (storage : Storage) (path : Path) : Except Fault Overlay :=
  match storage.readText path with
  | .error fault => .error (.unreadable path fault)
  | .ok text => (Overlay.ofToml text).mapError (.malformed path)

/-- Read the overlay of a file that need not be there. -/
def readOptional (storage : Storage) (path : Option Path) : Except Fault Overlay :=
  match path with
  | none => .ok .empty
  | some path => if storage.isThere path then readOverlay storage path else .ok .empty

/-! ## Layers -/

/-- Load the settings that hold for a folder. -/
def load (environment : Environment) (storage : Storage) (folder : Option Path) :
    Except Fault Settings := do
  let global <- readOptional storage (globalPath? environment)
  let near <- readOptional storage (folder.map localPath)
  let overlay <- environment.overlay.mapError .environment
  let settings := ((default.replace global).merge near).replace overlay
  return { settings with guidebookDir := settings.guidebookDir.map environment.expand }

/-- The text of the settings. -/
def toml (settings : Settings) : Except Fault String :=
  match settings.toml? with
  | some text => .ok text
  | none => .error .unwritable

end Settings
end Guidebook
