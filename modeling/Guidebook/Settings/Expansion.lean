import Guidebook.Settings.Environment
import Guidebook.Text.Alphanumeric

namespace Guidebook

/-!
# Expansion

A configured folder may name variables, as `$NAME` or between braces, and may
start with a tilde for the home folder.  Expansion is all or nothing: when a
variable is missing, and no text is given to stand for it, the folder stays as
it was written.  What a variable brings in is not expanded again.
-/

namespace Expansion

/-- A character of the name of a variable. -/
def isNameCharacter (character : Char) : Bool :=
  Alphanumeric.isAlphanumeric character || character == '_'

/-- The text between braces up to a colon and a hyphen, and what follows them. -/
def splitDefault : List Char -> List Char × Option (List Char)
  | [] => ([], none)
  | ':' :: '-' :: rest => ([], some rest)
  | character :: rest =>
    let (name, default) := splitDefault rest
    (character :: name, default)

/-- The name between braces with the text that stands for a missing variable.
A name is not left out. -/
def braced (inner : List Char) : List Char × Option (List Char) :=
  match splitDefault inner with
  | ([], some _) => (inner, none)
  | split => split

/-- Put the values of variables in the place of their names, in so many steps. -/
def substituteFrom (lookup : List Char -> Option (List Char)) :
    (steps : Nat) -> List Char -> Option (List Char)
  | 0, _ => none
  | _ + 1, [] => some []
  | steps + 1, '$' :: '\x7b' :: text =>
    if text.contains '\x7d' then do
      let (name, default) := braced (text.takeWhile (· ≠ '\x7d'))
      let value <- (lookup name).or default
      let rest <- substituteFrom lookup steps ((text.dropWhile (· ≠ '\x7d')).drop 1)
      return value ++ rest
    else (substituteFrom lookup steps text).map (['$', '\x7b'] ++ ·)
  | steps + 1, '$' :: '$' :: text => (substituteFrom lookup steps text).map ('$' :: ·)
  | steps + 1, '$' :: text =>
    let name := text.takeWhile isNameCharacter
    if name.isEmpty then (substituteFrom lookup steps text).map ('$' :: ·)
    else do
      let value <- lookup name
      let rest <- substituteFrom lookup steps (text.dropWhile isNameCharacter)
      return value ++ rest
  | steps + 1, character :: text => (substituteFrom lookup steps text).map (character :: ·)

/-- The value of a variable in an environment. -/
def lookup (environment : Environment) (name : List Char) : Option (List Char) :=
  (environment.get? (String.ofList name)).map String.toList

/-- Put the values of variables in the place of their names. -/
def substitute? (environment : Environment) (text : List Char) : Option (List Char) :=
  substituteFrom (lookup environment) (text.length + 1) text

/-- Put the home folder in the place of a tilde that stands alone or before a
slash. -/
def expandTilde (environment : Environment) (text : List Char) : List Char :=
  match text, environment.home? with
  | ['~'], some home => home.toList
  | '~' :: '/' :: rest, some home => home.toList ++ '/' :: rest
  | text, _ => text

/-- Whether a text starts with a tilde. -/
def startsWithTilde (text : List Char) : Bool := text.head? == some '~'

end Expansion

/-- Expand a folder.  A tilde that a variable brought in is none. -/
def Environment.expand (environment : Environment) (folder : String) : String :=
  match Expansion.substitute? environment folder.toList with
  | none => folder
  | some text =>
    if Expansion.startsWithTilde folder.toList then
      String.ofList (Expansion.expandTilde environment text)
    else String.ofList text

end Guidebook
