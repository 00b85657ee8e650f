namespace Guidebook

/-!
# Sections

A guidebook is a forest of named sections.  A section without members is a
command: its name is the text to run.  Nothing is assumed of a name, which may
be empty, blank or of several lines.  Functions on sections are pairs, one for a
section and one for a list of sections, and both recurse on the data itself.
-/

/-- A named section with its members in order; without members, a command. -/
inductive Section where
  | mk (name : String) (members : List Section)
deriving Repr, Inhabited

/-- The sections of a guidebook, or of one section, in document order. -/
abbrev Forest := List Section

namespace Section

/-- The title of a section, or the text of a command. -/
def name : Section -> String
  | ⟨name, _⟩ => name

/-- The sections directly below. -/
def members : Section -> Forest
  | ⟨_, members⟩ => members

/-- A command: a section without members. -/
def command (text : String) : Section := ⟨text, []⟩

/-- A section is a command exactly when it has no members. -/
def isCommand (subject : Section) : Bool := subject.members.isEmpty

@[simp] theorem name_mk (name : String) (members : Forest) : (mk name members).name = name := rfl

@[simp] theorem members_mk (name : String) (members : Forest) :
    (mk name members).members = members := rfl

mutual
/-- Sections are compared by name and members. -/
def decideEq : (left right : Section) -> Decidable (left = right)
  | ⟨leftName, leftMembers⟩, ⟨rightName, rightMembers⟩ =>
    match (inferInstance : Decidable (leftName = rightName)),
        decideEqAll leftMembers rightMembers with
    | isTrue sameName, isTrue sameMembers => isTrue (by rw [sameName, sameMembers])
    | isFalse differ, _ => isFalse (by intro same; cases same; exact differ rfl)
    | _, isFalse differ => isFalse (by intro same; cases same; exact differ rfl)

/-- Forests are compared member by member. -/
def decideEqAll : (left right : Forest) -> Decidable (left = right)
  | [], [] => isTrue rfl
  | [], _ :: _ => isFalse (by intro same; cases same)
  | _ :: _, [] => isFalse (by intro same; cases same)
  | left :: lefts, right :: rights =>
    match decideEq left right, decideEqAll lefts rights with
    | isTrue sameHead, isTrue sameTail => isTrue (by rw [sameHead, sameTail])
    | isFalse differ, _ => isFalse (by intro same; cases same; exact differ rfl)
    | _, isFalse differ => isFalse (by intro same; cases same; exact differ rfl)
end

instance : DecidableEq Section := decideEq

end Section

/-! ## All sections -/

mutual
/-- A section and everything below it, in document order. -/
def Section.sections : Section -> List Section
  | ⟨name, members⟩ => ⟨name, members⟩ :: Forest.sections members

/-- The sections of a forest on all levels, in document order. -/
def Forest.sections : Forest -> List Section
  | [] => []
  | first :: rest => first.sections ++ Forest.sections rest
end

theorem Section.sections_eq (subject : Section) :
    subject.sections = subject :: Forest.sections subject.members := by
  cases subject with
  | mk name members => rw [Section.sections, Section.members_mk]

@[simp] theorem Forest.sections_nil : Forest.sections [] = [] := by
  rw [Forest.sections]

@[simp] theorem Forest.sections_cons (first : Section) (rest : Forest) :
    Forest.sections (first :: rest) = first.sections ++ Forest.sections rest := by
  rw [Forest.sections]

@[simp] theorem Forest.sections_append (left right : Forest) :
    Forest.sections (left ++ right) = Forest.sections left ++ Forest.sections right := by
  induction left with
  | nil => rw [List.nil_append, Forest.sections_nil, List.nil_append]
  | cons first rest inductionHypothesis =>
      rw [List.cons_append, Forest.sections_cons, Forest.sections_cons, inductionHypothesis,
        List.append_assoc]

/-- The order of the roots changes no more than the order of all sections. -/
theorem Forest.sections_reverse_perm (forest : Forest) :
    (Forest.sections forest.reverse).Perm (Forest.sections forest) := by
  induction forest with
  | nil => exact .refl _
  | cons first rest inductionHypothesis =>
      rw [List.reverse_cons, Forest.sections_append, Forest.sections_cons, Forest.sections_cons,
        Forest.sections_nil, List.append_nil]
      exact List.perm_append_comm.trans (inductionHypothesis.append_left first.sections)

/-! ## Depth and commands -/

mutual
/-- The number of levels of a section, itself included. -/
def Section.depth : Section -> Nat
  | ⟨_, members⟩ => 1 + Forest.depth members

/-- The largest depth in a forest, and nothing for the empty one. -/
def Forest.depth : Forest -> Nat
  | [] => 0
  | first :: rest => max first.depth (Forest.depth rest)
end

mutual
/-- The commands at and below a section, in document order.  A member list
without members is what makes a command, so the case is taken on it. -/
def Section.commands : Section -> List String
  | ⟨name, []⟩ => [name]
  | ⟨_, first :: rest⟩ => first.commands ++ Forest.commands rest

/-- The commands of a forest, root by root. -/
def Forest.commands : Forest -> List String
  | [] => []
  | first :: rest => first.commands ++ Forest.commands rest
end

end Guidebook
