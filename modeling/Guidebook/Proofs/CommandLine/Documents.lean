import Guidebook.CommandLine.Run
import Guidebook.Proofs.Document.Load
import Guidebook.Proofs.Plan.Commands

namespace Guidebook
namespace CommandLine

/-!
# Commands on one document

Three commands compile a document: one prints the plan, one prints a line on how
it went, and one prints the commands.  Each of them loads its settings and
compiles on its own.  All that they ask of their surroundings is the same, and
none of them prints before it has the plan; so they fail together, and the failure
is the same.  What they print besides differs, and colors, formats and counts for
diagnosis are for each of them to choose.
-/

/-- The requests that compile one document. -/
def Request.Compiles (file : Path) : Request -> Prop
  | .compile other _ => other = file
  | .check other => other = some file
  | .commands other => other = file
  | _ => False

/-! ## What is printed -/

theorem Terminal.out_keepColor (terminal : Terminal) (isWanted : Bool) :
    (terminal.keepColor isWanted).out = terminal.out := rfl

theorem Terminal.out_line (terminal : Terminal) (text : String) :
    (terminal.line text).out = terminal.out ++ (text ++ "\n") := rfl

theorem Terminal.out_foldl_line (terminal : Terminal) (lines : List String) :
    (lines.foldl Terminal.line terminal).out =
      terminal.out ++ String.join (lines.map fun text => text ++ "\n") := by
  induction lines generalizing terminal with
  | nil => rw [List.foldl_nil, List.map_nil, String.join_nil, String.append_empty]
  | cons first rest inductionHypothesis =>
      rw [List.foldl_cons, inductionHypothesis, Terminal.out_line, List.map_cons,
        String.join_cons, String.append_assoc]

namespace Command

/-! ## The settings and the plan of a document -/

/-- The settings that hold for a document and its plan, or what is wrong with
either of them. -/
def planFor (around : Surroundings) (file : Path) : Except Failure (Settings × Plan) :=
  match settingsFor around file with
  | .error failure => .error failure
  | .ok settings =>
    match Document.compile around.storage settings file with
    | .error failure => .error (.document failure)
    | .ok plan => .ok (settings, plan)

theorem planFor_eq_ok_iff {around : Surroundings} {file : Path} {settings : Settings}
    {plan : Plan} :
    planFor around file = .ok (settings, plan) ↔
      settingsFor around file = .ok settings ∧
        Document.compile around.storage settings file = .ok plan := by
  rw [planFor]
  cases settingsFor around file with
  | error failure => simp
  | ok other =>
      simp only [Except.ok.injEq]
      constructor
      · intro found
        split at found
        · cases found
        · next made compiled =>
            cases found
            exact ⟨rfl, compiled⟩
      · rintro ⟨rfl, compiled⟩
        rw [compiled]

/-- What the commands on one document have in common: settings, then the plan,
then something printed. -/
def withPlan (around : Surroundings) (noColor : Bool) (file : Path) (terminal : Terminal)
    (print : Settings -> Terminal -> Plan -> Terminal) : Terminal × Except Failure Unit :=
  withSettings around terminal noColor file fun settings terminal =>
    orFail terminal ((Document.compile around.storage settings file).mapError .document)
      fun plan => (print settings terminal plan, .ok ())

theorem withPlan_of_error {around : Surroundings} {file : Path} {failure : Failure}
    (failed : planFor around file = .error failure) (noColor : Bool) (terminal : Terminal)
    (print : Settings -> Terminal -> Plan -> Terminal) :
    (withPlan around noColor file terminal print).2 = .error failure ∧
      (withPlan around noColor file terminal print).1.out = terminal.out := by
  rw [planFor] at failed
  rw [withPlan, withSettings]
  cases loaded : settingsFor around file with
  | error fault =>
      rw [loaded] at failed
      cases failed
      exact ⟨rfl, rfl⟩
  | ok settings =>
      simp only [loaded] at failed
      simp only [orFail]
      cases compiled : Document.compile around.storage settings file with
      | error fault =>
          rw [compiled] at failed
          cases failed
          exact ⟨rfl, Terminal.out_keepColor terminal _⟩
      | ok plan =>
          rw [compiled] at failed
          cases failed

theorem withPlan_of_ok {around : Surroundings} {file : Path} {settings : Settings} {plan : Plan}
    (found : planFor around file = .ok (settings, plan)) (noColor : Bool) (terminal : Terminal)
    (print : Settings -> Terminal -> Plan -> Terminal) :
    withPlan around noColor file terminal print =
      (print settings (terminal.keepColor (!noColor && settings.color)) plan, .ok ()) := by
  rcases planFor_eq_ok_iff.mp found with ⟨loaded, compiled⟩
  rw [withPlan, withSettings]
  simp only [loaded, orFail, compiled]
  rfl

/-! ## The three commands -/

def printPlan (format : Option OutputFormat) (settings : Settings) (terminal : Terminal)
    (plan : Plan) : Terminal :=
  match format.getD settings.format with
  | .tree => terminal.raw plan.outline.draw
  | .json => terminal.line plan.json

theorem compile_eq_withPlan (around : Surroundings) (noColor : Bool) (file : Path)
    (format : Option OutputFormat) (terminal : Terminal) :
    compile around noColor file format terminal =
      withPlan around noColor file terminal (printPlan format) := by
  refine congrArg (withSettings around terminal noColor file) ?_
  funext settings terminal
  refine congrArg (orFail terminal _) ?_
  funext plan
  rw [printPlan]
  cases format.getD settings.format <;> rfl

/-- The line on a document that compiles. -/
def printTally (file : Path) (_settings : Settings) (terminal : Terminal) (plan : Plan) :
    Terminal :=
  terminal.success (file.shown ++ ": " ++ plan.tally.text)

theorem check_eq_withPlan {around : Surroundings} {file : Path}
    (isDocument : around.storage.isFolder file = false) (noColor : Bool) (terminal : Terminal) :
    check around noColor (some file) terminal =
      withPlan around noColor file terminal (printTally file) := by
  rw [check, pathToCheck, orFail, withPlan]
  refine congrArg (withSettings around terminal noColor file) ?_
  funext settings terminal
  rw [isDocument]
  rfl

def printCommands (_settings : Settings) (terminal : Terminal) (plan : Plan) : Terminal :=
  plan.commands.foldl Terminal.line terminal

theorem commands_eq_withPlan (around : Surroundings) (noColor : Bool) (file : Path)
    (terminal : Terminal) :
    commands around noColor file terminal = withPlan around noColor file terminal printCommands :=
  rfl

/-- A request that compiles a document runs as its printing of the plan. -/
theorem exists_run_eq_withPlan {around : Surroundings} {file : Path}
    (isDocument : around.storage.isFolder file = false) {request : Request}
    (compiles : request.Compiles file) :
    Exists fun print => forall debug noColor terminal,
      run around ⟨debug, noColor, request⟩ terminal =
        reading around (withPlan around noColor file terminal print) := by
  cases request with
  | compile other format =>
      cases compiles
      exact ⟨printPlan format, fun debug noColor terminal => by
        rw [← compile_eq_withPlan]
        rfl⟩
  | check other =>
      cases compiles
      exact ⟨printTally file, fun debug noColor terminal => by
        rw [← check_eq_withPlan isDocument]
        rfl⟩
  | commands other =>
      cases compiles
      exact ⟨printCommands, fun debug noColor terminal => rfl⟩
  | _ => exact False.elim compiles

/-- What has a plan is a document that loads, and the commands of the plan are
those of its forest. -/
theorem exists_load_of_planFor {around : Surroundings} {file : Path} {settings : Settings}
    {plan : Plan} (found : planFor around file = .ok (settings, plan)) :
    Exists fun forest => Document.load around.storage file = .ok forest ∧
      plan.commands = forest.flatMap Section.commands := by
  rcases planFor_eq_ok_iff.mp found with ⟨_, compiled⟩
  rcases Document.exists_load_of_compile compiled with ⟨forest, root, document, step, rfl⟩
  exact ⟨forest, document, Forest.commands_of_compile step⟩

/-- A compiled plan has the commands of its forest.  So the commands that compile
a document, whatever else they are asked for, all fail with one failure and have
printed nothing, or all go well; and then the commands of the document are printed,
one on a line, in document order. -/
theorem run_document_agrees :
    (forall limit title (forest : Forest) step, forest.compile limit title = .ok step ->
      step.commands = forest.flatMap Section.commands) ∧
    forall (around : Surroundings) (file : Path), around.storage.isFolder file = false ->
      (Exists fun failure => forall request, Request.Compiles file request ->
        forall debug noColor terminal,
          (run around ⟨debug, noColor, request⟩ terminal).result = .error failure ∧
            (run around ⟨debug, noColor, request⟩ terminal).terminal.out = terminal.out) ∨
      ((forall request, Request.Compiles file request -> forall debug noColor terminal,
          (run around ⟨debug, noColor, request⟩ terminal).result = .ok ()) ∧
        Exists fun forest => Document.load around.storage file = .ok forest ∧
          forall debug noColor terminal,
            (run around ⟨debug, noColor, .commands file⟩ terminal).terminal.out =
              terminal.out ++ String.join
                ((forest.flatMap Section.commands).map fun text => text ++ "\n")) := by
  refine ⟨fun limit title forest step compiled => Forest.commands_of_compile compiled,
    fun around file isDocument => ?_⟩
  -- Settings and plan are the same for all requests; only the printing is chosen by them.
  cases planned : planFor around file with
  | error failure =>
      refine Or.inl ⟨failure, fun request compiles debug noColor terminal => ?_⟩
      rcases exists_run_eq_withPlan isDocument compiles with ⟨print, same⟩
      rw [same]
      exact withPlan_of_error planned noColor terminal print
  | ok found =>
      rcases found with ⟨settings, plan⟩
      rcases exists_load_of_planFor planned with ⟨forest, document, commands⟩
      refine Or.inr ⟨fun request compiles debug noColor terminal => ?_, forest, document,
        fun debug noColor terminal => ?_⟩
      · rcases exists_run_eq_withPlan isDocument compiles with ⟨print, same⟩
        rw [same, withPlan_of_ok planned]
        rfl
      · change (CommandLine.Command.commands around noColor file terminal).1.out = _
        rw [commands_eq_withPlan, withPlan_of_ok planned, printCommands,
          Terminal.out_foldl_line, Terminal.out_keepColor, commands]

/-- A folder with one document, of one command, and nothing configured. -/
def noteSurroundings : Surroundings :=
  ⟨⟨[], none⟩, Document.noteStorage (Bytes.ofText "[\x7b\"name\":\"x\"\x7d]")⟩

theorem settingsFor_note : settingsFor noteSurroundings Document.notePath = .ok .default := by
  rfl

theorem planFor_note :
    planFor noteSurroundings Document.notePath = .ok (.default, ⟨"note.json", .task "x"⟩) := by
  rw [planFor, settingsFor_note, noteSurroundings]
  simp only [Document.compile_of_load .default Document.load_note, Document.shown_notePath]
  rfl

theorem run_document_agrees_note :
    Step.commands (.task "x") = ["x"] ∧
      noteSurroundings.storage.isFolder Document.notePath = false ∧
      (run noteSurroundings ⟨0, false, .check (some Document.notePath)⟩ (.blank false)).result =
        .ok () ∧
      (run noteSurroundings ⟨0, false, .commands Document.notePath⟩ (.blank false)).terminal.out =
        "x\n" := by
  have isDocument : noteSurroundings.storage.isFolder Document.notePath = false := by rfl
  refine ⟨run_document_agrees.1 64 "doc" [.command "x"] (.task "x") rfl, isDocument, ?_⟩
  rcases run_document_agrees.2 noteSurroundings Document.notePath isDocument with
    ⟨failure, failed⟩ | ⟨succeeded, forest, loaded, printed⟩
  · have refused := (failed (.commands Document.notePath) rfl 0 false (.blank false)).1
    change (CommandLine.Command.commands ..).2 = _ at refused
    rw [commands_eq_withPlan, withPlan_of_ok planFor_note] at refused
    cases refused
  · have same : forest = [.command "x"] :=
      Except.ok.inj (loaded.symm.trans Document.load_note)
    refine ⟨succeeded (.check (some Document.notePath)) rfl 0 false (.blank false), ?_⟩
    rw [printed 0 false (.blank false), same]
    rfl

end Command
end CommandLine
end Guidebook
