import Guidebook.Text.Bytes

namespace Guidebook

/-!
# Paths

A path is a sequence of bytes with slashes between its parts, and need not be
text.  Parts without bytes do not count, and a single point counts only in front
of a relative path.  Two paths with the same parts may still be shown
differently, so a path keeps the bytes that it was written with.
-/

/-- A path as it was written. -/
structure Path where
  bytes : Bytes
deriving Repr, DecidableEq, Inhabited

/-- The name of a file or a folder within the folder around it. -/
abbrev Name := Bytes

namespace Path

/-- The path that a text writes. -/
def ofText (text : String) : Path := ⟨Bytes.ofText text⟩

/-- The path as a message shows it. -/
def shown (path : Path) : String := Bytes.shown path.bytes

/-- The byte between the parts of a path. -/
def slash : UInt8 := 47

/-- The byte in front of an extension. -/
def point : UInt8 := 46

/-- The runs of bytes between the occurrences of one byte, with the run that
is under way. -/
def splitFrom (between : UInt8) : (run : Bytes) -> Bytes -> List Bytes
  | run, [] => [run.reverse]
  | run, byte :: rest =>
    if byte = between then run.reverse :: splitFrom between [] rest
    else splitFrom between (byte :: run) rest

/-- The runs of bytes between the slashes of a path. -/
def runs (path : Path) : List Bytes := splitFrom slash [] path.bytes

/-- A path that starts at the root. -/
def isAbsolute (path : Path) : Bool := path.bytes.head? == some slash

/-- A path that ends with a slash. -/
def isFolderLike (path : Path) : Bool := path.bytes.getLast? == some slash

/-! ## Parts -/

/-- A part of a path. -/
inductive Part where
  | root
  | here
  | up
  | name (name : Name)
deriving Repr, DecidableEq

/-- The part that a run of bytes writes, if it counts. -/
def Part.ofRun? (run : Bytes) : Option Part :=
  if run = [] || run = [point] then none
  else if run = [point, point] then some .up
  else some (.name run)

/-- The parts of a path that count. -/
def parts (path : Path) : List Part :=
  match path.runs with
  | [] => []
  | first :: rest =>
    let front : List Part :=
      if path.isAbsolute then [.root]
      else if first = [point] then [.here]
      else (Part.ofRun? first).toList
    front ++ rest.filterMap Part.ofRun?

/-- The rank of the kind of a part. -/
def Part.rank : Part -> Nat
  | .root => 0
  | .here => 1
  | .up => 2
  | .name _ => 3

/-- Bytes are compared one by one, and a shorter sequence comes before its
extensions. -/
def orderBytes : Bytes -> Bytes -> Ordering
  | [], [] => .eq
  | [], _ :: _ => .lt
  | _ :: _, [] => .gt
  | left :: lefts, right :: rights => (compare left right).then (orderBytes lefts rights)

/-- Parts are compared by kind, and names by their bytes. -/
def Part.order : Part -> Part -> Ordering
  | .name left, .name right => orderBytes left right
  | left, right => compare left.rank right.rank

/-- Parts are compared from the front, and a shorter path comes before what is
below it. -/
def orderParts : List Part -> List Part -> Ordering
  | [], [] => .eq
  | [], _ :: _ => .lt
  | _ :: _, [] => .gt
  | left :: lefts, right :: rights => (left.order right).then (orderParts lefts rights)

/-- Whether a path does not come after another one, part by part. -/
def isOrdered (left right : Path) : Bool :=
  orderParts left.parts right.parts != .gt

/-! ## Names and extensions -/

/-- The last part, when it is a name. -/
def fileName? (path : Path) : Option Name :=
  match path.parts.getLast? with
  | some (.name name) => some name
  | _ => none

/-- What follows the last point of a name that has something before it. -/
def extensionOf? (name : Name) : Option Bytes :=
  let reversed := name.reverse
  match reversed.dropWhile (· ≠ point) with
  | _ :: _ :: _ => some (reversed.takeWhile (· ≠ point)).reverse
  | _ => none

/-- The extension of a path, when it is text. -/
def extension? (path : Path) : Option String := do
  let extension <- extensionOf? (<- path.fileName?)
  Bytes.text? extension

/-- A text in lower case; only letters of ASCII have a case here. -/
def lowered (text : String) : String :=
  String.ofList (text.toList.map Char.toLower)

/-- Whether a path has one of some extensions, in letters of any case. -/
def hasExtension (path : Path) (extensions : List String) : Bool :=
  path.extension?.any fun extension =>
    extensions.any fun wanted => lowered wanted == lowered extension

/-! ## Joining and parents -/

/-- The path to something below a folder.  An absolute path is not below any. -/
def join (folder below : Path) : Path :=
  if below.isAbsolute then below
  else if folder.bytes.isEmpty || folder.isFolderLike then ⟨folder.bytes ++ below.bytes⟩
  else ⟨folder.bytes ++ slash :: below.bytes⟩

/-- The runs of a path in reverse, from the last one that counts on.  The first
run of a relative path counts also when it is a point. -/
def countedFrom (isRelative : Bool) : List Bytes -> List Bytes
  | [] => []
  | run :: rest =>
    if (Part.ofRun? run).isSome || (isRelative && rest.isEmpty && run = [point]) then run :: rest
    else countedFrom isRelative rest

/-- The folder around what a path names, written as the path was.  The root and
the empty path have none. -/
def parent? (path : Path) : Option Path :=
  let isRelative := !path.isAbsolute
  let runs := if isRelative then path.runs else path.runs.drop 1
  match countedFrom isRelative runs.reverse with
  | [] => none
  | _ :: rest =>
    let kept := [slash].intercalate (countedFrom isRelative rest).reverse
    some ⟨if isRelative then kept else slash :: kept⟩

end Path
end Guidebook
