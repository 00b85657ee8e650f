import Guidebook.Document.Format
import Guidebook.Plan.Compilation
import Guidebook.Settings.Basic
import Guidebook.Storage.Operations
import Guidebook.Text.Quoted

namespace Guidebook
namespace Document

/-!
# Loading documents

The extension of a path says what format a document has.  A document is read at
once, or it becomes a source that is read when the compiler asks for it: then
only its format and its presence are checked at first, and a file that is
changed or taken away in between shows in the plan.

Loading asks two things of the place where documents are, and nothing is assumed
of the answers: a path that leads to a file may not be readable, for any reason.
-/

/-- A place with documents: whether a path leads to a file there, and the text of
the file or, in words, why it cannot be read. -/
class Readable (Place : Type) where
  isFile : Place -> Path -> Bool
  readText : Place -> Path -> Except String String

instance : Readable Storage where
  isFile := Storage.isFile
  readText storage path := (storage.readText path).mapError Storage.Fault.message

variable {Place : Type} [Readable Place]

/-- Why a document has no plan. -/
inductive Failure where
  | violation (violation : Violation)
  | missing (path : Path)
  | unsupported (path : Path)
  | invalid (path : Path) (message : String)
  /-- An action on a path failed, for a reason told in words. -/
  | operation (action : String) (path : Path) (reason : String)
deriving Repr, DecidableEq

/-- The failure in words, without the reason of a failed action. -/
def Failure.message : Failure -> String
  | .violation cause => cause.message
  | .missing path => "document not found: " ++ path.shown
  | .unsupported path =>
    "unsupported document format: " ++ path.shown ++ " (expected .json or .toml)"
  | .invalid path message => "invalid tree document " ++ path.shown ++ ": " ++ message
  | .operation action path _ => "operation failed: " ++ action ++ ": " ++ path.shown

/-- The format that the extension of a path stands for. -/
def Format.ofPath? (path : Path) : Option Format :=
  path.extension?.bind ofName?

/-- The format of a document that is there. -/
def formatOf (place : Place) (path : Path) : Except Failure Format :=
  match Format.ofPath? path with
  | none => .error (.unsupported path)
  | some format => if Readable.isFile place path then .ok format else .error (.missing path)

/-- Read a document. -/
def load (place : Place) (path : Path) : Except Failure Forest :=
  match formatOf place path with
  | .error failure => .error failure
  | .ok format =>
    match Readable.readText place path with
    | .error cause => .error (.operation "read tree document" path cause)
    | .ok text => (format.read text).mapError (.invalid path)

/-- A document that is still to be read. -/
structure Source where
  path : Path
  format : Format
deriving Repr, DecidableEq

namespace Source

/-- The name of the plan that the document compiles to. -/
def name (source : Source) : String := source.path.shown

/-- The source as a diagnosis shows it. -/
def text (source : Source) : String :=
  "Input \x7b input: " ++ Quoted.quote source.name ++ ", .. \x7d"

/-- Read the document. -/
def read (place : Place) (source : Source) : Except String Forest :=
  match Readable.readText place source.path with
  | .error cause => .error ("read " ++ source.path.shown ++ ": " ++ cause)
  | .ok text =>
    (source.format.read text).mapError fun message =>
      "parse " ++ source.path.shown ++ ": " ++ message

/-- Read the document and compile it. -/
def plan (place : Place) (limit : Nat) (source : Source) : Except Violation Plan :=
  Plan.ofSource limit source.name (source.read place)

end Source

/-- The source of a document that is there. -/
def source (place : Place) (path : Path) : Except Failure Source :=
  (formatOf place path).map fun format => ⟨path, format⟩

/-- Compile a document. -/
def compile (place : Place) (settings : Settings) (path : Path) : Except Failure Plan :=
  match source place path with
  | .error failure => .error failure
  | .ok source => (source.plan place settings.maxDepth).mapError .violation

end Document
end Guidebook
