import Mathlib.Algebra.GroupWithZero.Nat
import Mathlib.Logic.Relation
import Mathlib.Tactic.Push
import Guidebook.Document.Survey

namespace Guidebook
namespace Document

/-!
# Surveys by many workers

The documents of a survey can be compiled by workers that run side by side.  Each
document is a job on a board, and whoever takes a job goes one step on with it: first
the document is looked up, later it is read and compiled.  Nothing is said about who
takes which job and when.  A step changes one job and not what the job will come to;
so wherever the workers stop for want of work, the board holds the reports of the
survey in their order.
-/

/-- How far the work on a document is. -/
inductive Progress where
  | waiting
  | opened (source : Source)
  | done (result : Except Failure Plan)

/-- A document on the board. -/
structure Job where
  path : Path
  progress : Progress

namespace Job

/-- A document that nobody has worked on. -/
def new (path : Path) : Job := ⟨path, .waiting⟩

/-- A document with its report. -/
def finished (report : Report) : Job := ⟨report.path, .done report.result⟩

/-- The steps that are left. -/
def remaining (job : Job) : Nat :=
  match job.progress with
  | .waiting => 2
  | .opened _ => 1
  | .done _ => 0

section Place

variable {Place : Type} [Readable Place] (place : Place) (settings : Settings)

/-- Go one step on. -/
def advance (job : Job) : Job :=
  match job.progress with
  | .waiting =>
    match source place job.path with
    | .error failure => ⟨job.path, .done (.error failure)⟩
    | .ok source => ⟨job.path, .opened source⟩
  | .opened source =>
    ⟨job.path, .done ((source.plan place settings.maxDepth).mapError .violation)⟩
  | .done result => ⟨job.path, .done result⟩

/-- What a job comes to. -/
def report (job : Job) : Report :=
  match job.progress with
  | .waiting => ⟨job.path, compile place settings job.path⟩
  | .opened source =>
    ⟨job.path, (source.plan place settings.maxDepth).mapError .violation⟩
  | .done result => ⟨job.path, result⟩

theorem report_advance (job : Job) :
    (job.advance place settings).report place settings = job.report place settings := by
  rcases job with ⟨path, waiting | source | result⟩
  · simp only [advance, report, compile]
    cases source place path <;> rfl
  · rfl
  · rfl

theorem remaining_advance {job : Job} (unfinished : job.remaining ≠ 0) :
    (job.advance place settings).remaining < job.remaining := by
  rcases job with ⟨path, waiting | source | result⟩
  · simp only [advance]
    cases source place path <;> simp [remaining]
  · simp [advance, remaining]
  · exact absurd rfl unfinished

theorem eq_finished {job : Job} (isDone : job.remaining = 0) :
    job = finished (job.report place settings) := by
  rcases job with ⟨path, waiting | source | result⟩
  · cases isDone
  · cases isDone
  · rfl

end Place

end Job

section Board

variable {Place : Type} [Readable Place] (place : Place) (settings : Settings)

/-- One worker goes one step on with some job that is not finished. -/
inductive Advances : List Job -> List Job -> Prop
  | intro (before : List Job) {job : Job} (after : List Job) (unfinished : job.remaining ≠ 0) :
      Advances (before ++ job :: after) (before ++ job.advance place settings :: after)

/-- What the workers do from one board to a later one. -/
abbrev Run : List Job -> List Job -> Prop := Relation.ReflTransGen (Advances place settings)

variable {place settings} {jobs next : List Job}

theorem Advances.reports_eq (step : Advances place settings jobs next) :
    next.map (Job.report place settings) = jobs.map (Job.report place settings) := by
  cases step with
  | intro before after unfinished =>
      rw [List.map_append, List.map_append, List.map_cons, List.map_cons, Job.report_advance]

theorem Run.reports_eq (run : Run place settings jobs next) :
    next.map (Job.report place settings) = jobs.map (Job.report place settings) := by
  induction run with
  | refl => rfl
  | tail _ step inductionHypothesis => exact step.reports_eq.trans inductionHypothesis

/-- A step uses up some of the work that is left. -/
theorem Advances.remaining_lt (step : Advances place settings jobs next) :
    (next.map Job.remaining).sum < (jobs.map Job.remaining).sum := by
  cases step with
  | intro before after unfinished =>
      have less := Job.remaining_advance place settings unfinished
      simp only [List.map_append, List.map_cons, List.sum_append, List.sum_cons]
      omega

/-- The workers cannot go on forever. -/
theorem wellFounded_advances :
    WellFounded fun next jobs => Advances place settings jobs next :=
  Subrelation.wf Advances.remaining_lt
    (measure fun jobs : List Job => (jobs.map Job.remaining).sum).wf

/-- The workers can go on as long as some job is not finished. -/
theorem exists_advances_or_finished (jobs : List Job) :
    (Exists fun next => Advances place settings jobs next) ∨
      jobs = (jobs.map (Job.report place settings)).map Job.finished := by
  by_cases isDone : forall job, job ∈ jobs -> job.remaining = 0
  · refine Or.inr ?_
    calc
      jobs = jobs.map id := (List.map_id jobs).symm
      _ = jobs.map (Job.finished ∘ Job.report place settings) :=
        List.map_congr_left fun job listed => Job.eq_finished place settings (isDone job listed)
      _ = (jobs.map (Job.report place settings)).map Job.finished := List.map_map.symm
  · push Not at isDone
    rcases isDone with ⟨job, listed, unfinished⟩
    rcases List.append_of_mem listed with ⟨before, after, rfl⟩
    exact Or.inl ⟨_, .intro before after unfinished⟩

/-- Wherever the workers are, starting from the documents of a survey, they can go on or
the board holds the reports of the survey. -/
theorem run_finishes {paths : List Path}
    (run : Run place settings (paths.map Job.new) jobs) :
    (Exists fun next => Advances place settings jobs next) ∨
      jobs = (reports place settings paths).map Job.finished := by
  -- The jobs have come to the same since nobody had worked on them.
  have started : (paths.map Job.new).map (Job.report place settings) =
      reports place settings paths := by
    rw [List.map_map]
    rfl
  rw [← started, ← run.reports_eq]
  exact exists_advances_or_finished jobs

end Board

end Document
end Guidebook
