import Guidebook.CommandLine.Grammar

namespace Guidebook
namespace CommandLine

/-!
# Help and completion

The overview of the program, its version, and a line for each shell that offers
the commands of the program as completions.
-/

/-- The name of the program. -/
def programName : String := "guideplan"

/-- The version of the program, on a line. -/
def versionText : String := programName ++ " 0.3.0\n"

/-- The lines of the overview. -/
def helpLines : List String :=
  ["Guidebook plan compiler: turns nested guidebook sections into sequence/choice/task plans",
    "",
    "Usage: guideplan [OPTIONS] [COMMAND]",
    "",
    "Commands:",
    "  compile     Compile a tree document and print the plan",
    "  tree        Show the input tree with node classification",
    "  check       Compile documents and report problems",
    "  commands    List the plan's commands in document order",
    "  config      Manage settings",
    "  completion  Generate shell completions",
    "  help        Print this message or the help of the given subcommand(s)",
    "",
    "Options:",
    "  -d, --debug...  Debug output, repeat for more (-d info, -dd debug, -ddd trace)",
    "      --no-color  Disable colored output",
    "  -h, --help      Print help",
    "  -V, --version   Print version"]

/-- The overview of the program. -/
def helpText : String := String.join (helpLines.map (· ++ "\n"))

/-- The commands of the program, as words of one text. -/
def commandWords : String :=
  String.intercalate " " (Level.program.commandsBelow.map Prod.fst ++ ["help"])

/-- The line that offers the commands of the program in a shell.  It stands in for the script
that a generator of completions makes of the grammar; nothing is stated about its text. -/
def completionText (shell : String) : String :=
  if shell = "bash" then "complete -o default -W '" ++ commandWords ++ "' guideplan\n"
  else if shell = "zsh" then "compctl -f -k '(" ++ commandWords ++ ")' guideplan\n"
  else if shell = "fish" then "complete -c guideplan -a '" ++ commandWords ++ "'\n"
  else if shell = "elvish" then
    "set edit:completion:arg-completer[guideplan] = \x7b|@words| put " ++ commandWords ++ " \x7d\n"
  else
    "Register-ArgumentCompleter -Native -CommandName guideplan -ScriptBlock \x7b -split '"
      ++ commandWords ++ "' \x7d\n"

end CommandLine
end Guidebook
