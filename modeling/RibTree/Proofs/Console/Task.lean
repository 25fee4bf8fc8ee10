import RibTree.Proofs.Console.Printing

/-!
# Tasks

What is left to do of a command line once nothing can keep it from starting: a text to tell or a
call to make, announced first if an outline asks for it. A task is finished in the same way
whatever is printed, unless the announcement is refused; then nothing of it is done.
-/

namespace RibTree

set_option autoImplicit false

inductive Job
  | tell (command : Command) (text : String)
  | make (call : Call)
  deriving DecidableEq, Repr

namespace Job

/-- What the reports are about, in order. -/
def schedule : Job → List (Command × Option String × String)
  | tell command _ => [(command, none, "")]
  | make call => call.schedule

def run {m : Type → Type} [Monad m] (host : Host m) (s : Settings) (sink : StepReport → m Unit) :
    Job → m Summary
  | tell command text => RibTree.inform sink command text
  | make call => call.run host s sink

/-- The summary, the reports and the state that are left. -/
def seen {σ : Type} (job : Job) (host : Host (StateM σ)) (s : Settings) (before : σ) :
    (Summary × List StepReport) × σ :=
  ((job.run (host.lift : Host (StateT (List StepReport) (StateM σ))) s keep).run []).run before

theorem rel_run {m n : Type → Type} [Monad m] [Monad n] [LawfulMonad m] [LawfulMonad n]
    {R : Simulation m n} {h : Host m} {k : Host n} (hosts : R.Hosts h k) (s : Settings)
    {sink : StepReport → m Unit} {outlet : StepReport → n Unit}
    (hsinks : ∀ report, R.Rel (sink report) (outlet report)) (job : Job) :
    R.Rel (job.run h s sink) (job.run k s outlet) := by
  cases job with
  | tell command text => exact R.bind (hsinks _) fun _ => R.pure _
  | make call =>
      rw [run, run, call.run_eq_runSteps, call.run_eq_runSteps]
      exact Simulation.runSteps hosts s hsinks call.steps

section

variable {σ : Type} (job : Job) (host : Host (StateM σ)) (s : Settings) (before : σ)

theorem seen_make (call : Call) :
    (Job.make call).seen host s before =
      let ended := (call.steps.mapM (Step.run host s)).run before
      ((ended.1.foldl Summary.record {}, ended.1), ended.2) := by
  rw [seen, run, call.run_eq_runSteps, run_runSteps_keep, StateT.run_map]
  rfl

/-- There is a report for every entry of the schedule, and the summary is their tally. -/
theorem accounted_seen :
    (job.seen host s before).1.2.map StepReport.label = job.schedule ∧
      (job.seen host s before).1.1 = Summary.tally (job.seen host s before).1.2 := by
  cases job with
  | tell command text => exact ⟨rfl, rfl⟩
  | make call =>
      have hsteps : Step.reported host s (fun _ => pure ()) = Step.run host s := by
        funext step
        simp [Step.reported]
      have hreported := reported_runSteps host s (fun _ => pure ()) call.steps before
      rw [hsteps] at hreported
      have haccounted := accounted_of_reported hreported
      rw [seen_make, schedule, ← call.map_label_steps]
      exact ⟨haccounted.label, haccounted.tally⟩

end

end Job

structure Task where
  /-- What an outline is announced with. -/
  title? : Option String
  job : Job
  deriving DecidableEq, Repr

namespace Task

variable (display : Display) (task : Task) (total : Summary)

def heading : Option String := task.title?.bind display.heading

/-- The line for the totals, which an outline always has. -/
def totals : Option String :=
  if task.title?.isSome ∨ 1 < total.steps then display.summary total else none

def lines (reports : List StepReport) : List String :=
  (task.heading display).toList ++ reports.filterMap display.step ++
    (task.totals display total).toList

end Task

namespace Display

theorem heading_eq_none_iff (d : Display) (text : String) :
    d.heading text = none ↔ d.quiet ∨ d.look = .json := by
  rw [heading]
  split
  · rename_i h
    simpa using h
  · rename_i h
    split <;> simpa using h

theorem look_ofFlags_eq_json_iff (f : Flags) (onTerminal : Bool) :
    (ofFlags f onTerminal).look = .json ↔ f.format = some .json := by
  have hhuman : (if f.noColor then Look.plain else .styled) ≠ .json := by
    split <;> exact Look.noConfusion
  rw [ofFlags]
  cases f.format with
  | none => cases onTerminal <;> simp [hhuman]
  | some format => cases format <;> cases onTerminal <;> simp [hhuman]

end Display

theorem Task.heading_eq_none_iff (display : Display) (task : Task) :
    task.heading display = none ↔
      task.title?.isSome = false ∨ display.quiet ∨ display.look = .json := by
  rw [heading]
  cases task.title? with
  | none => simp
  | some title => simpa using display.heading_eq_none_iff title

namespace CommandLine

def finish {m : Type → Type} [Monad m] (machine : Machine m) (display : Display) (s : Settings)
    (task : Task) : ExceptT Problem m Nat := do
  print machine (task.heading display)
  let total ← runPrinting machine display s fun host sink => task.job.run host s sink
  print machine (task.totals display total)
  return total.exitCode

section

variable {σ : Type} (machine : Machine (StateM σ)) (display : Display) (s : Settings)

theorem run_runPrinting (job : Job) (o : Output) (before : σ) :
    ((runPrinting machine.withOutput display s fun host sink => job.run host s sink).run.run
        o).run before =
      let seen := job.seen (machine.host (templateSource s)) s before
      let told := seen.1.2.foldl (display.account s.dependencyAnchor) (none, o)
      (((match told.1 with | some e => .error e | none => .ok seen.1.1), told.2), seen.2) := by
  obtain ⟨total, reports, after, hkept, htold⟩ :=
    job.rel_run (hosts_printing machine display (templateSource s) s.dependencyAnchor) s
      (rel_printStep machine display s) before
  have hseen : job.seen (machine.host (templateSource s)) s before = ((total, reports), after) :=
    hkept []
  rw [hseen]
  dsimp only
  -- the reports are told from no refusal on, and what they come to is all that is left of them
  have hended := htold (none, o)
  generalize reports.foldl (display.account s.dependencyAnchor) (none, o) = told at hended ⊢
  have hlifted : ((liftM ((job.run (machine.withOutput.host (templateSource s)).lift s
      (printStep machine.withOutput display s)).run none) :
        ExceptT Problem (StateT Output (StateM σ)) _).run.run o).run before =
          ((.ok (total, told.1), told.2), after) :=
    congrArg (fun ended : Summary × (Option Problem × Output) × σ =>
      ((Except.ok (ended.1, ended.2.1.1), ended.2.1.2), ended.2.2)) hended
  refine (run_bind_of_ok hlifted).trans ?_
  cases told.1 <;> rfl

end

end CommandLine

/-! ### What an output takes -/

namespace Output

variable {o : Output}

theorem take_of_free (h : o.isFull = false) (line : Option String) :
    o.take line = (.ok (), ⟨o.lines ++ line.toList, o.log, false⟩) := by
  obtain ⟨lines, log, isFull⟩ := o
  obtain rfl : isFull = false := h
  cases line with
  | none =>
      rw [Option.toList_none, List.append_nil]
      rfl
  | some line => rfl

theorem take_of_full (h : o.isFull = true) (line : String) :
    o.take (some line) = (.error (.terminal fullReason), o) := by
  rw [take, print, if_pos h]
  rfl

theorem snd_take (o : Output) (line : Option String) :
    (o.take line).2 = ⟨o.lines ++ if o.isFull then [] else line.toList, o.log, o.isFull⟩ := by
  cases h : o.isFull with
  | false => rw [take_of_free h, if_neg Bool.false_ne_true]
  | true =>
      rw [if_pos rfl, List.append_nil, ← h]
      cases line with
      | none => rfl
      | some line => rw [take_of_full h]

end Output

namespace Display

variable (display : Display) (anchor : String) {o : Output}

theorem account_of_free (h : o.isFull = false) (report : StepReport) :
    ∃ log, display.account anchor (none, o) report =
      (none, ⟨o.lines ++ (display.step report).toList, log, false⟩) := by
  generalize hnoted : o.note ((LogLine.ofStep anchor report).filter (·.isShown display.quiet)) =
    noted
  have hfree : noted.isFull = false := by rw [← hnoted, Output.note, h]
  have hlines : noted.lines = o.lines := by rw [← hnoted, Output.note]
  refine ⟨noted.log, ?_⟩
  rw [account, hnoted, Output.take_of_free hfree, hlines]

theorem account_of_full (h : o.isFull = true) (report : StepReport) :
    ∃ log, display.account anchor (none, o) report =
      ((display.step report).map fun _ => .terminal Output.fullReason, ⟨o.lines, log, true⟩) := by
  generalize hnoted : o.note ((LogLine.ofStep anchor report).filter (·.isShown display.quiet)) =
    noted
  have hfull : noted.isFull = true := by rw [← hnoted, Output.note, h]
  have hlater : noted = ⟨o.lines, noted.log, true⟩ := by rw [← hfull, ← hnoted, Output.note]
  refine ⟨noted.log, ?_⟩
  rw [account, hnoted, ← hlater]
  cases display.step report with
  | none => rfl
  | some line => rw [Output.take_of_full hfull]; rfl

/-- What was refused first stays, and no more lines are offered. -/
theorem foldl_account_of_refused (e : Problem) (reports : List StepReport) (o : Output) :
    ∃ log, reports.foldl (display.account anchor) (some e, o) =
      (some e, ⟨o.lines, log, o.isFull⟩) := by
  induction reports generalizing o with
  | nil => exact ⟨o.log, rfl⟩
  | cons report reports ih => exact ih _

theorem foldl_account_of_free (h : o.isFull = false) (reports : List StepReport) :
    ∃ log, reports.foldl (display.account anchor) (none, o) =
      (none, ⟨o.lines ++ reports.filterMap display.step, log, false⟩) := by
  induction reports generalizing o with
  | nil =>
      refine ⟨o.log, ?_⟩
      rw [List.filterMap_nil, List.append_nil, ← h]
      rfl
  | cons report reports ih =>
      obtain ⟨log, hfirst⟩ := display.account_of_free anchor h report
      obtain ⟨later, hrest⟩ := ih (o := ⟨o.lines ++ (display.step report).toList, log, false⟩) rfl
      refine ⟨later, ?_⟩
      rw [List.foldl_cons, hfirst, hrest, List.filterMap_cons, List.append_assoc]
      cases display.step report <;> rfl

theorem foldl_account_of_full (h : o.isFull = true) (reports : List StepReport) :
    ∃ log, reports.foldl (display.account anchor) (none, o) =
      ((reports.filterMap display.step).head?.map fun _ => .terminal Output.fullReason,
        ⟨o.lines, log, true⟩) := by
  induction reports generalizing o with
  | nil =>
      refine ⟨o.log, ?_⟩
      rw [← h]
      rfl
  | cons report reports ih =>
      obtain ⟨log, hfirst⟩ := display.account_of_full anchor h report
      rw [List.foldl_cons, hfirst, List.filterMap_cons]
      cases display.step report with
      | none => exact ih rfl
      | some line => exact display.foldl_account_of_refused anchor _ reports _

end Display

namespace CommandLine

section

variable {σ : Type} (machine : Machine (StateM σ)) (display : Display) (s : Settings) (task : Task)
variable {o : Output}

/-- While the output takes lines, all of them are printed. -/
theorem run_finish_of_free (h : o.isFull = false) (before : σ) :
    let seen := task.job.seen (machine.host (templateSource s)) s before
    ∃ log, ((finish machine.withOutput display s task).run.run o).run before =
      ((.ok seen.1.1.exitCode, ⟨o.lines ++ task.lines display seen.1.1 seen.1.2, log, false⟩),
        seen.2) := by
  intro seen
  have hheading := run_print machine (task.heading display) o before
  rw [Output.take_of_free h] at hheading
  obtain ⟨log, htold⟩ := display.foldl_account_of_free s.dependencyAnchor
    (o := ⟨o.lines ++ (task.heading display).toList, o.log, false⟩) rfl seen.1.2
  have hreports := run_runPrinting machine display s task.job
    ⟨o.lines ++ (task.heading display).toList, o.log, false⟩ before
  dsimp only at hreports
  rw [htold] at hreports
  have htotals := run_print machine (task.totals display seen.1.1)
    ⟨o.lines ++ (task.heading display).toList ++ seen.1.2.filterMap display.step, log, false⟩ seen.2
  rw [Output.take_of_free rfl] at htotals
  refine ⟨log, ?_⟩
  rw [finish, run_bind_of_ok hheading, run_bind_of_ok hreports]
  refine (run_bind_of_ok htotals).trans ?_
  simp only [Task.lines, List.append_assoc]
  rfl

/-- An announcement that is refused ends the task before it begins. -/
theorem run_finish_of_announced (h : o.isFull = true) {line : String}
    (hheading : task.heading display = some line) (before : σ) :
    ((finish machine.withOutput display s task).run.run o).run before =
      ((.error (.terminal Output.fullReason), o), before) := by
  have hrefused := run_print machine (task.heading display) o before
  rw [hheading, Output.take_of_full h] at hrefused
  rw [finish, hheading]
  exact run_bind_of_error hrefused

/-- Without an announcement all is done, whether or not a line is refused. -/
theorem run_finish_of_silent (h : o.isFull = true) (hheading : task.heading display = none)
    (before : σ) :
    let seen := task.job.seen (machine.host (templateSource s)) s before
    ∃ log, ((finish machine.withOutput display s task).run.run o).run before =
      ((if task.lines display seen.1.1 seen.1.2 = [] then .ok seen.1.1.exitCode
        else .error (.terminal Output.fullReason), ⟨o.lines, log, true⟩), seen.2) := by
  intro seen
  have hnothing : ((print machine.withOutput (task.heading display)).run.run o).run before =
      ((.ok (), o), before) := by
    rw [hheading]
    rfl
  obtain ⟨log, htold⟩ := display.foldl_account_of_full s.dependencyAnchor h seen.1.2
  have hreports := run_runPrinting machine display s task.job o before
  dsimp only at hreports
  rw [htold] at hreports
  refine ⟨log, ?_⟩
  rw [finish, run_bind_of_ok hnothing, Task.lines, hheading, Option.toList_none, List.nil_append]
  -- the first line that is offered decides, be it for a report or for the totals
  cases hlines : seen.1.2.filterMap display.step with
  | cons line lines =>
      rw [hlines] at hreports
      exact run_bind_of_error hreports
  | nil =>
      rw [hlines] at hreports
      have htotals := run_print machine (task.totals display seen.1.1) ⟨o.lines, log, true⟩ seen.2
      refine (run_bind_of_ok hreports).trans ?_
      cases hline : task.totals display seen.1.1 with
      | none =>
          rw [hline] at htotals
          rw [List.nil_append, Option.toList_none, if_pos rfl]
          exact run_bind_of_ok htotals
      | some line =>
          rw [hline, Output.take_of_full rfl] at htotals
          rw [List.nil_append, Option.toList_some, if_neg (by simp)]
          exact run_bind_of_error htotals

end

end CommandLine

end RibTree
