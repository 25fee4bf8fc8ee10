import RibTree.Proofs.Run.Composition
import RibTree.Proofs.Run.History
import RibTree.Proofs.Step.Answer

/-!
# Accounting

A call decides which steps it runs before it runs any of them, and no failure of one keeps another
from being run and reported. The summary of a call is the tally of its reports, so that what is
created, edited, skipped and failed adds up to the steps of the call, and the exit code is that of
the first failure.
-/

namespace RibTree

set_option autoImplicit false

namespace StepReport

def status? (r : StepReport) : Option Status :=
  match r.result with
  | .ok report => some report.status
  | .error _ => none

def failure? (r : StepReport) : Option Failure :=
  match r.result with
  | .ok _ => none
  | .error e => some e

/-- What the report is about. -/
def label (r : StepReport) : Command × Option String × String := (r.command, r.parent, r.target)

end StepReport

def Step.label (step : Step) : Command × Option String × String :=
  (step.command, step.parent, step.target)

/-- What the reports of a call are about, in order, whatever the steps come to. -/
def Call.schedule : Call → List (Command × Option String × String)
  | add target none _ => [(.createComponent, none, target)]
  | add target (some parent) _ =>
      [(.createComponent, none, target), (.createExtension, some parent, target),
        (.addDependency, some parent, target)]
  | link parent child =>
      [(.createExtension, some parent, child), (.addDependency, some parent, child)]
  | scaffold edges => edges.flatMap fun edge =>
      [(.createComponent, none, edge.target), (.createExtension, some edge.parent, edge.target),
        (.addDependency, some edge.parent, edge.target)]

theorem Call.map_label_steps (call : Call) : call.steps.map Step.label = call.schedule := by
  cases call with
  | add target parent ownsView => cases parent <;> rfl
  | link parent child => rfl
  | scaffold edges =>
      rw [steps, List.map_flatMap]
      rfl

namespace Failure

theorem exitCode_ne_zero (e : Failure) : e.exitCode ≠ 0 := by
  cases e <;> simp [exitCode]

end Failure

namespace Summary

/-- The numbers of reports by outcome, and the exit code of the first that is a failure. -/
def tally (reports : List StepReport) : Summary where
  created := reports.countP fun r => r.status? = some .created
  edited := reports.countP fun r => r.status? = some .edited
  skipped := reports.countP fun r => r.status? = some .skipped
  failed := reports.countP fun r => r.failure?.isSome
  firstExitCode := (reports.findSome? StepReport.failure?).map Failure.exitCode

theorem tally_cons (r : StepReport) (reports : List StepReport) :
    tally (r :: reports) = (({} : Summary).record r).merge (tally reports) := by
  cases hr : r.result with
  | error e =>
      simp [tally, record, merge, hr, StepReport.status?, StepReport.failure?, Nat.add_comm]
  | ok report =>
      obtain ⟨status, message⟩ := report
      cases status <;>
        simp [tally, record, merge, hr, StepReport.status?, StepReport.failure?, Nat.add_comm]

theorem foldl_record (total : Summary) (reports : List StepReport) :
    reports.foldl record total = total.merge (tally reports) := by
  induction reports generalizing total with
  | nil => exact (merge_empty total).symm
  | cons r reports ih =>
      have hfirst : total.record r = total.merge (({} : Summary).record r) := by
        rw [merge_record, merge_empty]
      rw [List.foldl_cons, ih, tally_cons, hfirst, merge_assoc]

theorem foldl_record_eq_tally (reports : List StepReport) :
    reports.foldl record {} = tally reports := by
  rw [foldl_record, empty_merge]

theorem steps_merge (t u : Summary) : (t.merge u).steps = t.steps + u.steps := by
  simp only [steps, merge]
  omega

/-- Every report but one of information is counted once. -/
theorem steps_tally {reports : List StepReport} (h : ∀ r ∈ reports, r.status? ≠ some .info) :
    (tally reports).steps = reports.length := by
  induction reports with
  | nil => rfl
  | cons r reports ih =>
      obtain ⟨hfirst, hrest⟩ := List.forall_mem_cons.mp h
      have hone : (({} : Summary).record r).steps = 1 := by
        cases hr : r.result with
        | error e => simp only [record, hr, steps]
        | ok report =>
            obtain ⟨status, message⟩ := report
            rw [StepReport.status?, hr] at hfirst
            cases status <;> first | exact absurd rfl hfirst | simp only [record, hr, steps]
      rw [tally_cons, steps_merge, hone, ih hrest, List.length_cons, Nat.add_comm]

theorem firstExitCode_tally_eq_none_iff (reports : List StepReport) :
    (tally reports).firstExitCode = none ↔ ∀ r ∈ reports, r.failure? = none := by
  rw [tally, Option.map_eq_none_iff, List.findSome?_eq_none_iff]

/-- A failure never has the exit code of a success. -/
theorem exitCode_tally_eq_zero_iff (reports : List StepReport) :
    (tally reports).exitCode = 0 ↔ ∀ r ∈ reports, r.failure? = none := by
  rw [← firstExitCode_tally_eq_none_iff, exitCode, tally]
  cases reports.findSome? StepReport.failure? with
  | none => simp
  | some e => simpa using e.exitCode_ne_zero

end Summary

section

variable {σ : Type} (host : Host (StateM σ)) (s : Settings) (sink : StepReport → StateM σ Unit)

theorem reported_runSteps (steps : List Step) (before : σ) :
    List.Forall₂ (Step.Reported s) steps
      ((steps.mapM (Step.reported host s sink)).run before).1 :=
  Gives.state (gives_mapM fun step _ => (Step.gives_run host s step).bind fun report hreport =>
    (gives_any (sink report)).bind fun _ _ => gives_pure hreport) before

end

/-- What is known of a call from its reports. -/
structure Accounted (schedule : List (Command × Option String × String))
    (reports : List StepReport) (total : Summary) : Prop where
  label : reports.map StepReport.label = schedule
  tally : total = Summary.tally reports
  steps : total.created + total.edited + total.skipped + total.failed = schedule.length
  firstExitCode : total.firstExitCode = none ↔ ∀ r ∈ reports, r.failure? = none
  exitCode : total.exitCode = 0 ↔ ∀ r ∈ reports, r.failure? = none

theorem accounted_of_reported {s : Settings} {steps : List Step} {reports : List StepReport}
    (h : List.Forall₂ (Step.Reported s) steps reports) :
    Accounted (steps.map Step.label) reports (reports.foldl Summary.record {}) := by
  have hlabel : reports.map StepReport.label = steps.map Step.label := by
    induction h with
    | nil => rfl
    | cons hfirst _ ih =>
        rw [List.map_cons, List.map_cons, ih, StepReport.label, hfirst.command, hfirst.parent,
          hfirst.target, Step.label]
  have hinfo : ∀ r ∈ reports, r.status? ≠ some .info := by
    intro r hr
    obtain ⟨step, -, hreported⟩ := exists_mem_of_forall₂ h hr
    have hanswer := hreported.answer
    rw [StepReport.status?]
    cases hresult : r.result with
    | error e => simp
    | ok report =>
        rw [hresult] at hanswer
        simpa using hanswer.status_ne_info
  have hsteps := Summary.steps_tally hinfo
  rw [← List.length_map (f := StepReport.label), hlabel] at hsteps
  rw [Summary.foldl_record_eq_tally]
  exact ⟨hlabel, rfl, hsteps, Summary.firstExitCode_tally_eq_none_iff reports,
    Summary.exitCode_tally_eq_zero_iff reports⟩

/-- The report of a text that needs no work. -/
def informed (command : Command) (text : String) : StepReport :=
  ⟨command, none, "", .ok ⟨.info, text⟩⟩

section

variable {σ : Type} (host : Host (StateM σ)) (s : Settings) (sink : StepReport → StateM σ Unit)

/-- What a call returns, the reports that its sink was handed, and the state that it leaves. -/
def Call.seen (call : Call) (before : σ) : (Summary × List StepReport) × σ :=
  ((call.run (m := StateT (List StepReport) (StateM σ)) host.lift s (observed sink)).run []).run
    before

/-- What a request comes to, the reports that its sink was handed, and the state that it leaves. -/
def Request.seen (request : Request) (before : σ) :
    (Except Failure Summary × List StepReport) × σ :=
  ((execute (m := StateT (List StepReport) (StateM σ)) host.lift s (observed sink)
    request).run.run []).run before

theorem Call.seen_eq (call : Call) (before : σ) :
    call.seen host s sink before =
      let ended := (call.steps.mapM (Step.reported host s sink)).run before
      ((ended.1.foldl Summary.record {}, ended.1), ended.2) := by
  rw [seen, run_eq_runSteps, run_runSteps_observed, StateT.run_map]
  rfl

/-- That the sink of a call is observed changes nothing else. -/
theorem Call.run_eq_seen (call : Call) (before : σ) :
    (call.run host s sink).run before =
      ((call.seen host s sink before).1.1, (call.seen host s sink before).2) := by
  rw [seen_eq, run_eq_runSteps, runSteps_eq_map, StateT.run_map]
  rfl

end

/-- Whatever the host does, a call reports each of its steps once and in order, and its summary is
the tally of the reports. Requests for a text have one report, which is not counted. -/
theorem call_accounted {σ : Type} (host : Host (StateM σ)) (s : Settings)
    (sink : StepReport → StateM σ Unit) (before : σ) :
    (∀ call : Call,
      let seen := call.seen host s sink before
      (call.run host s sink).run before = (seen.1.1, seen.2) ∧
        Accounted call.schedule seen.1.2 seen.1.1) ∧
    Request.seen host s sink .help before =
      ((.ok {}, [informed .help usage]), ((sink (informed .help usage)).run before).2) ∧
    Request.seen host s sink .version before =
      ((.ok {}, [informed .version version]), ((sink (informed .version version)).run before).2) := by
  refine ⟨?_, rfl, rfl⟩
  intro call seen
  refine ⟨call.run_eq_seen host s sink before, ?_⟩
  have hseen : seen = _ := call.seen_eq host s sink before
  rw [hseen, ← call.map_label_steps]
  exact accounted_of_reported (reported_runSteps host s sink call.steps before)

end RibTree
