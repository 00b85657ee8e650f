import Guidebook.Document.Load
import Guidebook.Storage.Visits

namespace Guidebook
namespace Document

/-!
# Surveys

A survey of a folder finds the documents below it and compiles each of them on
its own.  Links and hidden names below the folder are passed over, whatever the
folder itself is called and however it is reached.
-/

/-- A name that is text and starts with a point. -/
def isHidden (name : Name) : Bool :=
  match Bytes.text? name with
  | some text => text.toList.head? == some '.'
  | none => false

/-- The names that a survey keeps: any that is not hidden, and whatever the folder is
called that it starts from. -/
def isKept (level : Nat) (name : Name) : Bool :=
  level == 0 || !isHidden name

/-- A visit to a file with one of the extensions of documents. -/
def isDocument (settings : Settings) (visit : Visit) : Bool :=
  visit.entry.isFile && visit.path.hasExtension settings.extensions

/-- The documents that a walk over a folder comes by. -/
def documents (settings : Settings) (path : Path) (folder : Entry) : List Path :=
  let name := path.fileName?.getD path.bytes
  let visits := folder.visits settings.scanDepth isKept 0 name path
  (visits.filter (isDocument settings)).map Visit.path

/-- The documents below a folder, in the order of their paths. -/
def discover (storage : Storage) (settings : Settings) (path : Path) :
    Except Failure (List Path) :=
  match storage.entry? path with
  | .error _ => .error (.missing path)
  | .ok (_, .folder entries) =>
    .ok ((documents settings path (.folder entries)).mergeSort Path.isOrdered)
  | .ok (_, _) => .error (.operation "not a directory" path "expected a directory")

/-- A document of a survey with its plan, or why it has none. -/
structure Report where
  path : Path
  result : Except Failure Plan

/-- The reports on documents, each of which the place is asked for by its path.  A place may
know nothing of a document that a walk came by: to list a folder takes less than to follow a
path through it. -/
def reports {Place : Type} [Readable Place] (place : Place) (settings : Settings)
    (paths : List Path) : List Report :=
  paths.map fun path => ⟨path, compile place settings path⟩

/-- The reports on the documents below a folder. -/
def survey (storage : Storage) (settings : Settings) (path : Path) :
    Except Failure (List Report) :=
  match discover storage settings path with
  | .error failure => .error failure
  | .ok paths => .ok (reports storage settings paths)

end Document
end Guidebook
