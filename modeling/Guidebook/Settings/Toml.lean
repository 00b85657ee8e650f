import Guidebook.Settings.Basic
import Guidebook.Toml.Failure
import Guidebook.Toml.Printer
import Guidebook.Toml.Reader

namespace Guidebook

/-!
# Settings as TOML

Settings are written field by field, without the fields that are not set.  They
are read as an overlay: a field may be missing, and a key that is no field is
passed over.
-/

/-! ## Reading -/

namespace OutputFormat

/-- The format that a text names. -/
def ofText (text : String) : Except Toml.Failure OutputFormat :=
  match ofName? text with
  | some format => .ok format
  | none => .error (.unfit (.unknownVariant text (all.map name)))

/-- The format that a value names: by a text, or as the only key of a table
with nothing under it. -/
def ofToml : Toml.Value -> Except Toml.Failure OutputFormat
  | .text text => ofText text
  | .table [(key, value)] => do
    let format <- ofText key
    match value with
    | .table [] => return format
    | .list [] => return format
    | _ => .error (.unreadable .unexpected)
  | _ => .error (.unreadable .unexpected)

end OutputFormat

namespace Overlay

/-- Read one entry. -/
def setEntry (overlay : Overlay) (key : String) (value : Toml.Value) :
    Except Toml.Failure Overlay :=
  match key with
  | "format" => do return { overlay with format := <- OutputFormat.ofToml value }
  | "color" => do return { overlay with color := <- value.asBoolean.mapError .unfit }
  | "max_depth" => do return { overlay with maxDepth := <- value.asSize.mapError .unfit }
  | "scan_depth" => do return { overlay with scanDepth := <- value.asSize.mapError .unfit }
  | "extensions" => do return { overlay with extensions := <- value.asTexts.mapError .unfit }
  | "guidebook_dir" => do
    return { overlay with guidebookDir := <- (value.asText "path string").mapError .unfit }
  | _ => .ok overlay

/-- Read entries in order. -/
def ofEntries (overlay : Overlay) : List (String × Toml.Value) -> Except Toml.Failure Overlay
  | [] => .ok overlay
  | (key, value) :: rest => do ofEntries (<- overlay.setEntry key value) rest

/-- Read an overlay from its text. -/
def ofToml (text : String) : Except Toml.Failure Overlay :=
  match Toml.document text with
  | .error fault => .error (.unreadable fault)
  | .ok entries => ofEntries .empty entries

end Overlay

/-! ## Writing -/

namespace Settings

/-- An entry with a size. -/
def writeSize (key : String) (size : Nat) : List Char :=
  Toml.writeEntry key (toString size).toList

/-- The lines of the settings. -/
def characters (settings : Settings) : List Char :=
  Toml.writeEntry "format" (Toml.writeText settings.format.name)
    ++ Toml.writeEntry "color" (toString settings.color).toList
    ++ writeSize "max_depth" settings.maxDepth
    ++ (settings.scanDepth.map (writeSize "scan_depth")).getD []
    ++ Toml.writeEntry "extensions" (Toml.writeTexts settings.extensions)
    ++ (settings.guidebookDir.map fun dir =>
        Toml.writeEntry "guidebook_dir" (Toml.writeText dir)).getD []

/-- A size that the format can write: no greater than a signed word of sixty-four
bits. -/
def isWritable (size : Nat) : Bool := size ≤ Numeral.wordGreatest

/-- The text of the settings, unless a size is too great. -/
def toml? (settings : Settings) : Option String :=
  if isWritable settings.maxDepth && settings.scanDepth.all isWritable then
    some (String.ofList settings.characters)
  else none

/-- The lines of a file to start from, in which everything is left out. -/
def templateLines : List String :=
  ["# guideplan configuration",
    "#",
    "# Locations (by precedence, lowest to highest):",
    "#   Global: ~/.config/guideplan/guideplan.toml  (defines your baseline)",
    "#   Local:  <dir>/.guideplan.toml               (next to the tree documents)",
    "#   Env:    GUIDEPLAN_* environment variables   (explicit overrides)",
    "#",
    "# Array Merge Semantics:",
    "#   Global config REPLACES compiled defaults.",
    "#   Local config UNIONS with global; \"!item\" removes an inherited item:",
    "#     extensions = [\"yml\", \"!toml\"]",
    "",
    "# Plan output format: \"tree\" or \"json\"",
    "# format = \"tree\"",
    "",
    "# Colored terminal output",
    "# color = true",
    "",
    "# Deepest allowed section nesting",
    "# max_depth = 64",
    "",
    "# Directory recursion limit for `check <dir>` (unbounded when unset)",
    "# scan_depth = 3",
    "",
    "# Document extensions picked up by `check <dir>`",
    "# extensions = [\"json\", \"toml\"]",
    "",
    "# Directory checked when `check` is called without a path",
    "# guidebook_dir = \"~/guidebooks\""]

/-- A file to start from. -/
def template : String :=
  String.join (templateLines.map (· ++ "\n"))

end Settings
end Guidebook
