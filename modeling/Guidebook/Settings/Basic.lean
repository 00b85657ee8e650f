import Guidebook.Plan.Compilation

namespace Guidebook

/-!
# Settings

Settings have a value for every field; an overlay may leave fields out.  An
overlay is laid over settings in two ways, which differ for the list of
extensions only: the global file replaces the list, and the local file adds to
it and takes away from it.
-/

/-- How a compiled plan is printed. -/
inductive OutputFormat where
  | tree
  | json
deriving Repr, DecidableEq, Inhabited

namespace OutputFormat

/-- The formats. -/
def all : List OutputFormat := [.tree, .json]

/-- The name of a format. -/
def name : OutputFormat -> String
  | .tree => "tree"
  | .json => "json"

/-- The format with exactly this name. -/
def ofName? (text : String) : Option OutputFormat :=
  all.find? fun format => format.name = text

end OutputFormat

/-- Everything that can be set. -/
structure Settings where
  format : OutputFormat
  color : Bool
  maxDepth : Nat
  scanDepth : Option Nat
  extensions : List String
  guidebookDir : Option String
deriving Repr, DecidableEq

/-- Settings that may be left out. -/
structure Overlay where
  format : Option OutputFormat
  color : Option Bool
  maxDepth : Option Nat
  scanDepth : Option Nat
  extensions : Option (List String)
  guidebookDir : Option String
deriving Repr, DecidableEq

/-- The overlay that leaves everything out. -/
def Overlay.empty : Overlay := ⟨none, none, none, none, none, none⟩

namespace Settings

/-- What is set where nothing is configured. -/
def default : Settings := ⟨.tree, true, Forest.defaultLimit, none, ["json", "toml"], none⟩

instance : Inhabited Settings := ⟨default⟩

/-! ## Lists of extensions -/

/-- Put a text into a strictly ascending list. -/
def insert (text : String) : List String -> List String
  | [] => [text]
  | first :: rest =>
    if text < first then text :: first :: rest
    else if text = first then first :: rest
    else first :: insert text rest

/-- Apply one pattern: a text is added, and a text behind an exclamation mark
is taken away. -/
def applyPattern (texts : List String) (pattern : String) : List String :=
  match pattern.toList with
  | '!' :: taken => texts.filter (· ≠ String.ofList taken)
  | _ => insert pattern texts

/-- Apply patterns to a list one after the other.  The result is strictly
ascending, whatever the order of the list. -/
def mergeList (base patterns : List String) : List String :=
  patterns.foldl applyPattern (base.foldl (fun texts text => insert text texts) [])

/-! ## Laying over -/

/-- Lay an overlay over settings with a rule for the extensions. -/
def overlaid (join : List String -> List String -> List String) (settings : Settings)
    (overlay : Overlay) : Settings where
  format := overlay.format.getD settings.format
  color := overlay.color.getD settings.color
  maxDepth := overlay.maxDepth.getD settings.maxDepth
  scanDepth := overlay.scanDepth.or settings.scanDepth
  extensions :=
    match overlay.extensions with
    | some extensions => join settings.extensions extensions
    | none => settings.extensions
  guidebookDir := overlay.guidebookDir.or settings.guidebookDir

/-- Lay an overlay over settings; its extensions are patterns. -/
def merge (settings : Settings) (overlay : Overlay) : Settings :=
  settings.overlaid mergeList overlay

/-- Lay an overlay over settings; its extensions replace the others. -/
def replace (settings : Settings) (overlay : Overlay) : Settings :=
  settings.overlaid (fun _ extensions => extensions) overlay

end Settings
end Guidebook
