import Guidebook.Proofs.CommandLine.Documents
import Guidebook.Proofs.Document.Replacement
import Guidebook.Proofs.Document.Workers

namespace Guidebook
namespace CommandLine

/-!
# Checks of folders

A check of a folder prints an entry for every document of the survey and counts those
without a plan.  What it says of a document is what a compilation of this document alone
comes to: no order of the work and no other document has a part in it.
-/

/-- The status that the program ends with after a command. -/
def statusOf (result : Except Failure Unit) : Nat :=
  match result with
  | .ok () => 0
  | .error failure => failure.status

namespace Program

/-- The terminal that a command starts with. -/
def opening (environment : Environment) (invocation : Invocation) : Terminal :=
  complainAbout invocation.debug (.blank (startsColored environment && !invocation.noColor))

theorem opening_blank (environment : Environment) (invocation : Invocation) :
    (opening environment invocation).out = "" ∧
      (opening environment invocation).color =
        (startsColored environment && !invocation.noColor) := by
  rw [opening, complainAbout]
  split <;> exact ⟨rfl, rfl⟩

/-- What a command prints to its output is what the program prints there. -/
theorem run_of_read {around : Surroundings} {words : List String} {invocation : Invocation}
    (asked : read words = .ok invocation) :
    (run around words).out =
        (Command.run around invocation (opening around.environment invocation)).terminal.out ∧
      (run around words).status = statusOf
        (Command.run around invocation (opening around.environment invocation)).result := by
  have started : opening around.environment invocation = complainAbout invocation.debug
      (.blank (startsColored around.environment && !invocation.noColor)) := rfl
  simp only [run, asked, ← started]
  cases (Command.run around invocation (opening around.environment invocation)).result <;>
    exact ⟨rfl, rfl⟩

end Program

namespace Command

open Document (Report)

/-! ## What is printed -/

/-- A sign in front of an entry. -/
def sign (color : Bool) (style : Style) (text : String) : String :=
  if color then style.paint text else text

/-- The entry on a document. -/
def entry (color : Bool) (report : Report) : String :=
  match report.result with
  | .ok plan =>
    sign color .green "✓" ++ " " ++ (report.path.shown ++ ": " ++ plan.tally.text) ++ "\n"
  | .error failure =>
    sign color .red "✗" ++ " " ++ (report.path.shown ++ ": " ++ failure.message) ++ "\n"

theorem report_eq_raw (terminal : Terminal) (document : Report) :
    report terminal document = terminal.raw (entry terminal.color document) := by
  rw [report, entry]
  cases document.result <;> rfl

theorem foldl_report_eq_raw (terminal : Terminal) (all : List Report) :
    all.foldl report terminal =
      terminal.raw (String.join (all.map (entry terminal.color))) := by
  induction all generalizing terminal with
  | nil => simp [Terminal.raw]
  | cons first rest inductionHypothesis =>
      rw [List.foldl_cons, inductionHypothesis, report_eq_raw, List.map_cons, String.join_cons]
      simp only [Terminal.raw, String.append_assoc]

/-- How a check of a folder ends. -/
def verdict (all : List Report) : Except Failure Unit :=
  if all.countP isFailed = 0 then .ok () else .error (.checkFailed (all.countP isFailed) all.length)

theorem reports_printed (path : Path) (terminal : Terminal) (all : List Report) :
    (reports path terminal all).1.out =
        terminal.out ++ String.join (all.map (entry terminal.color)) ∧
      (reports path terminal all).2 = verdict all := by
  rw [reports, verdict]
  cases all with
  | nil => exact ⟨String.append_empty.symm, rfl⟩
  | cons first rest =>
      rw [foldl_report_eq_raw]
      exact ⟨rfl, rfl⟩

theorem status_verdict (all : List Report) :
    statusOf (verdict all) = if all.countP isFailed = 0 then 0 else 65 := by
  rw [verdict]
  split <;> rfl

theorem isFailed_eq_false_iff {document : Report} :
    isFailed document = false ↔ Exists fun plan => document.result = .ok plan := by
  rw [isFailed]
  cases document.result <;> simp

/-! ## A check of a folder -/

section Check

variable {around : Surroundings} {settings : Settings} {folder : Path} {all : List Report}

/-- A check of a folder prints the entries of its survey, and nothing else to its output. -/
theorem check_folder {request : Option Path} (wanted : pathToCheck around request = .ok folder)
    (loaded : settingsFor around folder = .ok settings)
    (surveyed : Document.survey around.storage settings folder = .ok all) (debug : Nat)
    (noColor : Bool) (terminal : Terminal) :
    (run around ⟨debug, noColor, .check request⟩ terminal).terminal.out =
        terminal.out ++ String.join
          (all.map (entry (terminal.color && (!noColor && settings.color)))) ∧
      (run around ⟨debug, noColor, .check request⟩ terminal).result = verdict all := by
  rcases Document.exists_discover_of_survey surveyed with ⟨paths, found, -⟩
  rcases Document.exists_folder_of_discover found with ⟨location, entries, leads, -⟩
  have isFolder : around.storage.isFolder folder = true := by
    rw [Storage.isFolder, leads]
    rfl
  have checked : check around noColor request terminal =
      reports folder (terminal.keepColor (!noColor && settings.color)) all := by
    rw [check, wanted]
    simp only [orFail, withSettings, loaded, isFolder, if_true, surveyed]
    rfl
  change (check around noColor request terminal).1.out = _ ∧
    (check around noColor request terminal).2 = _
  rw [checked]
  exact reports_printed folder (terminal.keepColor (!noColor && settings.color)) all

end Check

/-- Where there are documents, a survey has one report on each of them in their order, and
each report is what compiling the document alone comes to.  Workers that take up the
documents in any order come to an end, and have these reports then.  To replace a
document changes no other report.  And a check of the folder prints these reports and
nothing else, and fails if and only if one of them tells of a failure. -/
theorem check_reports_every_document {storage : Storage} (tree : storage.root.IsTree)
    {settings : Settings} {folder : Path} {paths : List Path}
    (found : Document.discover storage settings folder = .ok paths) :
    Exists fun all =>
      Document.survey storage settings folder = .ok all ∧
      all.map Report.path = paths ∧
      (forall document, document ∈ all ->
        document.result = Document.compile storage settings document.path ∧
          (isFailed document = false ↔ Exists fun plan => document.result = .ok plan)) ∧
      (WellFounded fun next jobs => Document.Advances storage settings jobs next) ∧
      (forall jobs, Document.Run storage settings (paths.map Document.Job.new) jobs ->
        (Exists fun next => Document.Advances storage settings jobs next) ∨
          jobs = all.map Document.Job.finished) ∧
      (forall target content after, target ∈ paths ->
        storage.write target content = .ok after ->
        Exists fun changed =>
          Document.survey after settings folder = .ok changed ∧
          List.Forall₂ (fun old new => new.path = old.path ∧ (old.path ≠ target -> new = old))
            all changed) ∧
      forall environment request,
        pathToCheck ⟨environment, storage⟩ request = .ok folder ->
        settingsFor ⟨environment, storage⟩ folder = .ok settings ->
        (forall debug noColor terminal,
          (run ⟨environment, storage⟩ ⟨debug, noColor, .check request⟩ terminal).terminal.out =
            terminal.out ++ String.join
              (all.map (entry (terminal.color && (!noColor && settings.color)))) ∧
          (run ⟨environment, storage⟩ ⟨debug, noColor, .check request⟩ terminal).result =
            verdict all) ∧
        forall words debug noColor, read words = .ok ⟨debug, noColor, .check request⟩ ->
          (Program.run ⟨environment, storage⟩ words).out = String.join (all.map
            (entry (Program.startsColored environment && (!noColor && settings.color)))) ∧
          (Program.run ⟨environment, storage⟩ words).status =
            if all.countP isFailed = 0 then 0 else 65 := by
  have surveyed := Document.survey_of_discover found
  refine ⟨_, surveyed, ?_, ?_, Document.wellFounded_advances,
    fun jobs run => Document.run_finishes run, ?_, ?_⟩
  · exact List.map_map.trans (List.map_id paths)
  · intro document listed
    exact ⟨(Document.mem_reports_iff.mp listed).2, isFailed_eq_false_iff⟩
  · intro target content after member written
    rcases Document.discover_compile_of_write tree found member written with ⟨sameList, kept⟩
    refine ⟨_, Document.survey_of_discover sameList, ?_⟩
    rw [Document.reports, Document.reports, List.forall₂_map_left_iff,
      List.forall₂_map_right_iff, List.forall₂_same]
    exact fun path listed => ⟨rfl, fun apart => by rw [kept path listed apart]⟩
  · intro environment request wanted loaded
    have checked := check_folder wanted loaded surveyed
    refine ⟨checked, fun words debug noColor asked => ?_⟩
    rcases @Program.run_of_read ⟨environment, storage⟩ _ _ asked with ⟨out, status⟩
    rcases Program.opening_blank environment ⟨debug, noColor, .check request⟩ with ⟨blank, color⟩
    rw [out, status, (checked debug noColor _).1, (checked debug noColor _).2, status_verdict]
    simp only [blank, color, String.empty_append, Bool.and_assoc, Bool.and_self_left]
    exact ⟨trivial, trivial⟩

/-! A folder with two documents, of which the second one may be no text. -/

def pairFolder (second : Bytes) : Entry :=
  .folder [(Bytes.ofText "a.json", .file (Bytes.ofText "[\x7b\"name\":\"x\"\x7d]")),
    (Bytes.ofText "b.json", .file second)]

def pairStorage (second : Bytes) : Storage :=
  ⟨.folder [(Bytes.ofText "docs", pairFolder second)], []⟩

def pairPaths : List Path := [.ofText "docs/a.json", .ofText "docs/b.json"]

theorem isTree_pairStorage : (pairStorage [255]).root.IsTree := by
  have docs : (pairFolder [255]).IsTree :=
    .cons (by decide) (by decide) (.of_entries_nil rfl) <|
      .cons (by decide) (by decide) (.of_entries_nil rfl) (.of_entries_nil rfl)
  exact .cons (by decide) (by decide) docs (.of_entries_nil rfl)

theorem discover_pairStorage :
    Document.discover (pairStorage [255]) .default (.ofText "docs") = .ok pairPaths := by
  have leads : Storage.entry? (pairStorage [255]) (.ofText "docs") =
      .ok ([Bytes.ofText "docs"], pairFolder [255]) := by
    rfl
  have picked : Document.documents .default (.ofText "docs") (pairFolder [255]) = pairPaths := by
    rfl
  exact Document.discover_of_documents leads picked (by decide)

theorem compile_pairStorage_first :
    Document.compile (pairStorage [255]) .default (.ofText "docs/a.json") =
      .ok ⟨"docs/a.json", .task "x"⟩ := by
  have extension : Path.extension? (.ofText "docs/a.json") = some "json" := rfl
  have known : Document.formatOf (pairStorage [255]) (.ofText "docs/a.json") = .ok .json :=
    Document.formatOf_eq_ok extension rfl rfl
  have leads : Storage.entry? (pairStorage [255]) (.ofText "docs/a.json") =
      .ok ([Bytes.ofText "docs", Bytes.ofText "a.json"],
        .file (Bytes.ofText "[\x7b\"name\":\"x\"\x7d]")) := rfl
  have shown : Path.shown (.ofText "docs/a.json") = "docs/a.json" :=
    Bytes.shown_ofText "docs/a.json"
  rw [Document.compile_of_found .default known, Document.readText_of_entry leads, Document.planOf,
    Document.read_note, shown]
  rfl

theorem compile_pairStorage_second :
    Exists fun failure =>
      Document.compile (pairStorage [255]) .default (.ofText "docs/b.json") = .error failure := by
  have extension : Path.extension? (.ofText "docs/b.json") = some "json" := rfl
  have known : Document.formatOf (pairStorage [255]) (.ofText "docs/b.json") = .ok .json :=
    Document.formatOf_eq_ok extension rfl rfl
  have unread : Document.Readable.readText (pairStorage [255]) (.ofText "docs/b.json") =
      .error "stream did not contain valid UTF-8" := rfl
  rw [Document.compile_of_found .default known, unread]
  exact ⟨_, rfl⟩

theorem countP_isFailed_pairStorage :
    (Document.reports (pairStorage [255]) .default pairPaths).countP isFailed = 1 := by
  rcases compile_pairStorage_second with ⟨failure, failed⟩
  simp [Document.reports, pairPaths, compile_pairStorage_first, failed, isFailed]

/-- One document of two has no plan, and the other one keeps its plan when this one is
replaced. -/
theorem check_reports_every_document_pair :
    (pairStorage [255]).root.IsTree ∧
      Document.discover (pairStorage [255]) .default (.ofText "docs") = .ok pairPaths ∧
      (Exists fun next =>
        Document.Advances (pairStorage [255]) .default (pairPaths.map Document.Job.new) next) ∧
      (pairStorage [255]).write (.ofText "docs/b.json") [] = .ok (pairStorage []) ∧
      (Exists fun changed =>
        Document.survey (pairStorage []) .default (.ofText "docs") = .ok changed ∧
          changed.head? = some ⟨.ofText "docs/a.json",
            Document.compile (pairStorage [255]) .default (.ofText "docs/a.json")⟩) ∧
      (Program.run ⟨⟨[], none⟩, pairStorage [255]⟩ ["check", "docs"]).status = 65 := by
  have written : (pairStorage [255]).write (.ofText "docs/b.json") [] = .ok (pairStorage []) := by
    rfl
  rcases check_reports_every_document isTree_pairStorage discover_pairStorage with
    ⟨all, surveyed, -, -, -, workers, replaced, printed⟩
  cases surveyed.symm.trans (Document.survey_of_discover discover_pairStorage)
  refine ⟨isTree_pairStorage, discover_pairStorage, ?_, written, ?_, ?_⟩
  · rcases workers _ .refl with goesOn | finished
    · exact goesOn
    · cases finished
  · rcases replaced (.ofText "docs/b.json") [] _ (by decide) written with
      ⟨changed, surveyedToo, kept⟩
    refine ⟨changed, surveyedToo, ?_⟩
    cases kept with
    | cons first _ => exact congrArg some (first.2 (by decide))
  · have asked : read ["check", "docs"] = .ok ⟨0, false, .check (some (.ofText "docs"))⟩ := by
      rfl
    have loaded : settingsFor ⟨⟨[], none⟩, pairStorage [255]⟩ (.ofText "docs") = .ok .default := by
      rfl
    have ended := ((printed ⟨[], none⟩ (some (.ofText "docs")) rfl loaded).2 _ _ _ asked).2
    rw [countP_isFailed_pairStorage] at ended
    exact ended

end Command
end CommandLine
end Guidebook
