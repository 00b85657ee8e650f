import Guidebook.Toml.Failure
import Guidebook.Toml.Moment
import Guidebook.Toml.Number
import Guidebook.Toml.Table

namespace Guidebook
namespace Toml

/-!
# Reading

A document is a sequence of lines: entries, headers and blank ones.  The entries
before the first header belong to the document, the others to the last header
before them.  A list may extend over lines and end with a comma; a table between
braces may not.

Where a text is refused, something else is wanted as a rule.  It can also break
off with nothing wanted by name: before a value that the end of the text takes
the place of, and at the start of a line, or of an element of a list, in a
comment that no line break ends or at half a line break.
-/

variable {Result : Type}

/-- A reader that says what kind of fault it met. -/
abbrev Attempt (Result : Type) := List Char -> Except Fault (Result × List Char)

/-- Take a result, in whose place something is wanted. -/
def demand (result : Option Result) : Except Fault Result :=
  match result with
  | some result => .ok result
  | none => .error .unexpected

/-! ## Values -/

/-- Read a word. -/
def word? : List Char -> Value -> Reader Value
  | [], value, left => some (value, left)
  | letter :: letters, value, character :: left =>
    if character = letter then word? letters value left else none
  | _ :: _, _, [] => none

/-- Read a value without brackets. -/
def scalar? : Reader Value := fun text =>
  match text with
  | [] => none
  | '"' :: _ => (text? text).map fun (value, left) => (.text value, left)
  | '\'' :: _ => (text? text).map fun (value, left) => (.text value, left)
  | 't' :: _ => word? ['t', 'r', 'u', 'e'] (.boolean true) text
  | 'f' :: _ => word? ['f', 'a', 'l', 's', 'e'] (.boolean false) text
  | _ =>
    match Moment.after? text with
    | some left => some (.moment, left)
    | none => number? text

/-- Read the elements of a list and its closing bracket.  An element takes a
character at least, so the characters that are left serve as the clock. -/
def elementsFrom (value : Attempt Value) : (clock : List Char) -> Attempt (List Value)
  | [], _ => .error .unexpected
  | _ :: clock, text =>
    match afterLines text with
    | [] => .error .unexpected
    | ']' :: left => .ok ([], left)
    | '#' :: _ => .error .brokenOff
    | '\r' :: _ => .error .brokenOff
    | text => do
      let (element, left) <- value text
      match afterLines left with
      | ']' :: left => return ([element], left)
      | ',' :: text =>
        let (elements, left) <- elementsFrom value clock text
        return (element :: elements, left)
      | _ => .error .unexpected

/-- An entry: the parts of its key, and its value. -/
structure Entry where
  parts : List String
  value : Value

/-- Read a key, the sign of equality and a value. -/
def entry (value : Attempt Value) : Attempt Entry := fun text => do
  let (parts, left) <- demand (key? text)
  match left with
  | '=' :: text =>
    let (value, left) <- value (afterBlanks text)
    return (⟨parts, value⟩, left)
  | _ => .error .unexpected

/-- Put the value of an entry into a table. -/
def Table.enter? (table : Table) (entry : Entry) : Option Table :=
  table.insert? entry.parts.dropLast (entry.parts.getLast?.getD "") entry.value

/-- Read the entries of a table between braces, up to its closing brace.  An
entry takes a character at least, so the characters that are left serve as the
clock. -/
def entriesFrom (value : Attempt Value) : (clock : List Char) -> Attempt (List Entry)
  | [], _ => .error .unexpected
  | _ :: clock, text => do
    let (first, left) <- entry value text
    match afterBlanks left with
    | ',' :: text =>
      let (rest, left) <- entriesFrom value clock text
      return (first :: rest, left)
    | '\x7d' :: left => return ([first], left)
    | _ => .error .unexpected

/-- Read a table between braces, behind the opening one. -/
def inline (value : Attempt Value) : Attempt Value := fun text =>
  match afterBlanks text with
  | '\x7d' :: left => .ok (.table [], left)
  | _ => do
    let (entries, left) <- entriesFrom value text text
    let table <- demand (entries.foldlM Table.enter? (.empty .header))
    return (table.toValue, left)

/-- Read a value, with so many brackets that may be opened. -/
def value : (nesting : Nat) -> Attempt Value
  | 0, text =>
    match text with
    | [] => .error .brokenOff
    | '[' :: _ => .error .unexpected
    | '\x7b' :: _ => .error .unexpected
    | text => demand (scalar? text)
  | nesting + 1, text =>
    match text with
    | [] => .error .brokenOff
    | '[' :: text => do
      let (elements, left) <- elementsFrom (value nesting) text text
      return (.list elements, left)
    | '\x7b' :: text => inline (value nesting) text
    | text => demand (scalar? text)

/-! ## Lines -/

/-- A header: the key of a table, and whether it may be repeated. -/
structure Header where
  parts : List String
  repeats : Bool

/-- The parts of a header but the last. -/
def Header.path (header : Header) : List String := header.parts.dropLast

/-- The last part of a header. -/
def Header.key (header : Header) : String := header.parts.getLast?.getD ""

/-- Read a header and the rest of its line. -/
def header? : Reader Header
  | '[' :: '[' :: text => do
    let (parts, left) <- key? text
    match left with
    | ']' :: ']' :: left => return (⟨parts, true⟩, <- afterLine? left)
    | _ => none
  | '[' :: text => do
    let (parts, left) <- key? text
    match left with
    | ']' :: left => return (⟨parts, false⟩, <- afterLine? left)
    | _ => none
  | _ => none

/-- The document so far: everything under closed headers, and the header that
is open with its table. -/
structure Draft where
  root : Table
  header : Option Header
  table : Table

namespace Draft

/-- Nothing read yet: the entries to come belong to the document. -/
def empty : Draft := ⟨.empty .header, none, .empty .header⟩

/-- The document with the open table in its place. -/
def close? (draft : Draft) : Option Table :=
  match draft.header with
  | none => some draft.table
  | some header =>
    if header.repeats then draft.root.appended? header.path header.key draft.table
    else draft.root.closed? header.path header.key draft.table

/-- Close the open table and open that of a header. -/
def open? (draft : Draft) (header : Header) : Option Draft := do
  let root <- draft.close?
  if header.repeats then
    let table := Table.empty .header
    let _ <- root.appended? header.path header.key table
    return ⟨root, header, table⟩
  else
    let table <- root.opened? header.path header.key
    return ⟨root, header, table⟩

end Draft

/-- So many brackets may stand open at once. -/
def nestingLimit : Nat := nestingBound - 1

/-- Read the lines of a document.  A line takes a character at least, and the end
of the text one step more. -/
def linesFrom : (steps : Nat) -> Draft -> List Char -> Except Fault Draft
  | 0, _, _ => .error .unexpected
  | steps + 1, draft, text =>
    match afterBlanks text with
    | [] => .ok draft
    | '#' :: text =>
      match afterLine? ('#' :: text) with
      | some left => linesFrom steps draft left
      | none => .error .brokenOff
    | '\n' :: left => linesFrom steps draft left
    | '\r' :: '\n' :: left => linesFrom steps draft left
    | '\r' :: _ => .error .brokenOff
    | '[' :: text => do
      let (header, left) <- demand (header? ('[' :: text))
      linesFrom steps (<- demand (draft.open? header)) left
    | text => do
      let (entry, left) <- entry (value nestingLimit) text
      let left <- demand (afterLine? left)
      let table <- demand (draft.table.enter? entry)
      linesFrom steps { draft with table := table } left

/-- The mark that may open a text. -/
def mark : Char := '\uFEFF'

/-- Read a document. -/
def document (text : String) : Except Fault (List (String × Value)) := do
  let characters := match text.toList with
    | first :: rest => if first = mark then rest else first :: rest
    | [] => []
  let draft <- linesFrom (characters.length + 1) .empty characters
  let root <- demand draft.close?
  match root.toValue with
  | .table entries => return entries
  | _ => .error .unexpected

end Toml
end Guidebook
