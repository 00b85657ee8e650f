namespace Guidebook
namespace CommandLine

/-!
# The terminal

What a program prints, on two streams.  Marks and headings have colors while
colors are on, and a color that ends within a text is taken up again behind it.
-/

/-- What has been printed, and whether colors are on. -/
structure Terminal where
  out : String
  err : String
  color : Bool
deriving Repr, DecidableEq

/-- The styles of colored text. -/
inductive Style where
  | green
  | red
  | yellow
  | dimmed
  | boldCyan
  | boldRed
deriving Repr, DecidableEq

namespace Style

/-- The sequence that starts any style. -/
def escape : List Char := ['\x1b', '[']

/-- The sequence that ends a style. -/
def reset : List Char := escape ++ ['0', 'm']

/-- The sequence that starts a style. -/
def start : Style -> List Char
  | .green => escape ++ "32m".toList
  | .red => escape ++ "31m".toList
  | .yellow => escape ++ "33m".toList
  | .dimmed => escape ++ "2m".toList
  | .boldCyan => escape ++ "1;36m".toList
  | .boldRed => escape ++ "1;31m".toList

/-- A text in which the style starts again wherever one ends. -/
def resume (style : Style) : List Char -> List Char
  | '\x1b' :: '[' :: '0' :: 'm' :: rest => reset ++ style.start ++ resume style rest
  | character :: rest => character :: resume style rest
  | [] => []

/-- A text in a style. -/
def paint (style : Style) (text : String) : String :=
  String.ofList (style.start ++ style.resume text.toList ++ reset)

end Style

namespace Terminal

/-- Nothing printed yet. -/
def blank (color : Bool) : Terminal := ⟨"", "", color⟩

/-- A text in a style while colors are on. -/
def painted (terminal : Terminal) (style : Style) (text : String) : String :=
  if terminal.color then style.paint text else text

/-- Print a text as it stands. -/
def raw (terminal : Terminal) (text : String) : Terminal :=
  { terminal with out := terminal.out ++ text }

/-- Print a line. -/
def line (terminal : Terminal) (text : String) : Terminal :=
  terminal.raw (text ++ "\n")

/-- Print a line to the stream for complaints. -/
def complain (terminal : Terminal) (text : String) : Terminal :=
  { terminal with err := terminal.err ++ text ++ "\n" }

/-- Print a line that something went well. -/
def success (terminal : Terminal) (text : String) : Terminal :=
  terminal.line (terminal.painted .green "✓" ++ " " ++ text)

/-- Print a line that something went wrong. -/
def failure (terminal : Terminal) (text : String) : Terminal :=
  terminal.line (terminal.painted .red "✗" ++ " " ++ text)

/-- Print a heading. -/
def heading (terminal : Terminal) (text : String) : Terminal :=
  terminal.line (terminal.painted .boldCyan text)

/-- Print a detail of what stands above. -/
def detail (terminal : Terminal) (text : String) : Terminal :=
  terminal.line ("  " ++ terminal.painted .dimmed text)

/-- Print a warning. -/
def warning (terminal : Terminal) (text : String) : Terminal :=
  terminal.complain (terminal.painted .yellow "Warning" ++ ": " ++ text)

/-- Print an error. -/
def error (terminal : Terminal) (text : String) : Terminal :=
  terminal.complain (terminal.painted .boldRed "error" ++ ": " ++ text)

/-- Turn colors off unless they are wanted. -/
def keepColor (terminal : Terminal) (isWanted : Bool) : Terminal :=
  { terminal with color := terminal.color && isWanted }

end Terminal
end CommandLine
end Guidebook
