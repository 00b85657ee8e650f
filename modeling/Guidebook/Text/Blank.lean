namespace Guidebook
namespace Blank

/-!
# Blank characters

A title and a settings value are read without the blank characters around them.
The class is the `White_Space` property of Unicode, twenty-five characters in
ten ranges; it is wider than the blanks of a data format, which each format
states for itself.  Trimming works on character lists, so that what is dropped
and what is kept are ordinary list facts.
-/

/-- The ranges of the class, first and last code point of each. -/
def ranges : List (Nat × Nat) :=
  [(0x9, 0xD), (0x20, 0x20), (0x85, 0x85), (0xA0, 0xA0), (0x1680, 0x1680),
    (0x2000, 0x200A), (0x2028, 0x2029), (0x202F, 0x202F), (0x205F, 0x205F), (0x3000, 0x3000)]

/-- A character is blank when its code point lies in one of the ranges. -/
def isBlank (character : Char) : Bool :=
  ranges.any fun range => range.1 ≤ character.toNat && character.toNat ≤ range.2

/-- The text without its leading blanks. -/
def trimStart (text : List Char) : List Char :=
  text.dropWhile isBlank

/-- The text without its trailing blanks: the leading blanks of its reversal. -/
def trimEnd (text : List Char) : List Char :=
  (trimStart text.reverse).reverse

/-- The text without the blanks at either end. -/
def trim (text : List Char) : List Char :=
  trimEnd (trimStart text)

/-- A trimmed text does not start with a blank. -/
theorem isBlank_of_head_trimStart (text : List Char) (first : Char)
    (leads : (trimStart text).head? = some first) : isBlank first = false := by
  induction text with
  | nil => simp [trimStart] at leads
  | cons character rest inductionHypothesis =>
      cases blank : isBlank character with
      | true => exact inductionHypothesis (by simpa [trimStart, blank] using leads)
      | false =>
          have same : character = first := by simpa [trimStart, blank] using leads
          exact same ▸ blank

end Blank
end Guidebook
