import Guidebook.Section.Basic
import Guidebook.Text.Blank
import Guidebook.Text.Numeral

namespace Guidebook

/-!
# Titles and roles

The title `Option N: label` marks a section as one alternative of a choice.
The grammar is read from left to right without looking back: the keyword, a gap
of blanks, the digits of the index, a colon, and a label on one line.  A title
that misses the grammar, or whose index is zero or too large, is an ordinary
title and never an error.

The role of a section depends on its own name and members only.  A command has
no role but that of a command, whatever its text looks like.
-/

/-- The index and the label of an option title. -/
structure OptionTitle where
  index : UInt32
  label : String
deriving Repr, DecidableEq

namespace OptionTitle

/-- The word that opens an option title. -/
def keyword : List Char := ['O', 'p', 't', 'i', 'o', 'n']

/-- The index that digits write, when it is positive and fits a word of
thirty-two bits. -/
def index? (digits : List Char) : Option UInt32 :=
  match Numeral.natural? digits with
  | some number =>
    if small : number < UInt32.size then
      if number = 0 then none else some (UInt32.ofNatLT number small)
    else none
  | none => none

/-- The label that follows the colon: what is left after leading blanks must
be one line, and something must be left after trimming. -/
def label? (text : List Char) : Option String :=
  let line := Blank.trimStart text
  if line.contains '\n' then none
  else
    match Blank.trimEnd line with
    | [] => none
    | label => some (String.ofList label)

/-- The text after the keyword and the gap, when there is a gap. -/
def afterGap? : List Char -> Option (List Char)
  | first :: rest => if Blank.isBlank first then some (Blank.trimStart rest) else none
  | [] => none

/-- Read an option title from its characters. -/
def read? (title : List Char) : Option OptionTitle := do
  let gap <- keyword.isPrefixOf? title
  let numbered <- afterGap? gap
  let index <- index? (numbered.takeWhile Numeral.isDigit)
  match numbered.dropWhile Numeral.isDigit with
  | ':' :: body =>
    let label <- label? body
    return ⟨index, label⟩
  | _ => none

/-- Read an option title. -/
def parse? (title : String) : Option OptionTitle :=
  read? title.toList

/-- The canonical spelling of an option title. -/
def text (title : OptionTitle) : String :=
  "Option " ++ toString title.index.toNat ++ ": " ++ title.label

end OptionTitle

/-- What a section is for its parent. -/
inductive Role where
  | command
  | option (title : OptionTitle)
  | plain
deriving Repr, DecidableEq

namespace Section

/-- The option title of a section.  A command has none, whatever its text. -/
def option? (subject : Section) : Option OptionTitle :=
  if subject.isCommand then none else OptionTitle.parse? subject.name

/-- A section that is an alternative of a choice. -/
def isOption (subject : Section) : Bool :=
  subject.option?.isSome

/-- The role of a section, decided without looking at its siblings. -/
def role (subject : Section) : Role :=
  if subject.isCommand then .command
  else
    match OptionTitle.parse? subject.name with
    | some title => .option title
    | none => .plain

/-- A section with the canonical title of an option. -/
def ofOption (title : OptionTitle) (members : Forest) : Section :=
  ⟨title.text, members⟩

end Section
end Guidebook
