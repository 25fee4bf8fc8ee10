import RibTree.Proofs.Host.Simulation
import RibTree.Proofs.Run.Composition

/-!
# Reports

A sink that keeps the reports has one for every step of a run, in order, and the summary of the
run counts them.
-/

namespace RibTree

set_option autoImplicit false

theorem Step.length_flatMap {α : Type} {steps : α → List Step} {count : Nat}
    (h : ∀ a, (steps a).length = count) (l : List α) :
    (l.flatMap steps).length = count * l.length := by
  induction l with
  | nil => rfl
  | cons a l ih =>
      rw [List.flatMap_cons, List.length_append, h, ih, List.length_cons, Nat.mul_succ]
      omega

theorem Step.length_flatMap_forEdge (edges : List Edge) :
    (edges.flatMap Step.forEdge).length = 3 * edges.length := by
  apply length_flatMap
  intro edge
  rfl

theorem Step.length_flatMap_forLink (parent : String) (children : List String) :
    (children.flatMap (Step.forLink parent)).length = 2 * children.length := by
  apply length_flatMap
  intro child
  rfl

section

variable {m : Type → Type} [Monad m]

/-- A step whose report is handed to the sink. -/
def Step.reported (host : Host m) (s : Settings) (sink : StepReport → m Unit) (step : Step) :
    m StepReport := do
  let report ← step.run host s
  sink report
  return report

/-- A sink with a list of the reports that it was handed. -/
def observed (sink : StepReport → m Unit) (report : StepReport) :
    StateT (List StepReport) m Unit := do
  keep report
  liftM (sink report)

variable [LawfulMonad m] (host : Host m) (s : Settings) (sink : StepReport → m Unit)

theorem foldlM_reportStep_eq_map (steps : List Step) (total : Summary) :
    steps.foldlM (reportStep host s sink) total =
      List.foldl Summary.record total <$> steps.mapM (Step.reported host s sink) := by
  induction steps generalizing total with
  | nil => simp
  | cons step steps ih =>
      rw [List.foldlM_cons, List.mapM_cons]
      simp only [reportStep, Step.reported, bind_assoc, pure_bind, map_bind, map_pure]
      refine bind_congr fun report => bind_congr fun _ => ?_
      rw [ih, map_eq_pure_bind]
      rfl

/-- A run is its steps one after the other, with a summary that counts their reports. -/
theorem runSteps_eq_map (steps : List Step) :
    runSteps host s sink steps =
      List.foldl Summary.record {} <$> steps.mapM (Step.reported host s sink) :=
  foldlM_reportStep_eq_map host s sink steps {}

theorem run_mapM_observed (steps : List Step) (kept : List StepReport) :
    (steps.mapM (Step.reported (m := StateT (List StepReport) m) host.lift s (observed sink))).run
      kept = (fun reports => (reports, kept ++ reports)) <$>
        steps.mapM (Step.reported host s sink) := by
  induction steps generalizing kept with
  | nil => simp
  | cons step steps ih =>
      have hfirst : (Step.reported (m := StateT (List StepReport) m) host.lift s (observed sink)
          step).run kept =
          (fun report => (report, kept ++ [report])) <$> Step.reported host s sink step := by
        simp [Step.reported, Step.run_lift, observed, keep]
      rw [List.mapM_cons, StateT.run_bind, hfirst, bind_map_left, List.mapM_cons, map_bind]
      refine bind_congr fun report => ?_
      rw [StateT.run_bind, ih]
      simp

/-- A sink that is observed has been handed one report for each step, in order. -/
theorem run_runSteps_observed (steps : List Step) (kept : List StepReport) :
    (runSteps (m := StateT (List StepReport) m) host.lift s (observed sink) steps).run kept =
      (fun reports => (reports.foldl Summary.record {}, kept ++ reports)) <$>
        steps.mapM (Step.reported host s sink) := by
  rw [runSteps_eq_map, StateT.run_map, run_mapM_observed, Functor.map_map]

theorem run_runSteps_keep (steps : List Step) (kept : List StepReport) :
    (runSteps (host.lift : Host (StateT (List StepReport) m)) s keep steps).run kept =
      (fun reports => (reports.foldl Summary.record {}, kept ++ reports)) <$>
        steps.mapM (Step.run host s) := by
  have hkeep : (keep : StepReport → StateT (List StepReport) m Unit) =
      observed fun _ => pure () := by
    funext report
    simp [observed]
  have hsteps : Step.reported host s (fun _ => pure ()) = Step.run host s := by
    funext step
    simp [Step.reported]
  rw [hkeep, run_runSteps_observed, hsteps]

end

theorem Summary.foldl_record_of_skipped {reports : List StepReport} (total : Summary)
    (h : ∀ r ∈ reports, ∃ message, r.result = .ok ⟨.skipped, message⟩) :
    reports.foldl Summary.record total = { total with skipped := total.skipped + reports.length } := by
  induction reports generalizing total with
  | nil => rfl
  | cons r reports ih =>
      obtain ⟨⟨message, hr⟩, hrest⟩ := List.forall_mem_cons.mp h
      have hrecord : total.record r = { total with skipped := total.skipped + 1 } := by
        rw [Summary.record, hr]
      rw [List.foldl_cons, ih _ hrest, hrecord, List.length_cons]
      simp only [Summary.mk.injEq, true_and, and_true]
      omega

theorem Summary.ok_of_failed_eq_zero {reports : List StepReport} {total : Summary}
    (h : (reports.foldl Summary.record total).failed = 0) :
    total.failed = 0 ∧ ∀ r ∈ reports, ∃ report, r.result = .ok report := by
  induction reports generalizing total with
  | nil => exact ⟨h, by simp⟩
  | cons r reports ih =>
      obtain ⟨hfirst, hrest⟩ := ih h
      cases hr : r.result with
      | error e =>
          rw [Summary.record, hr] at hfirst
          exact absurd hfirst (by simp)
      | ok report =>
          refine ⟨?_, List.forall_mem_cons.mpr ⟨⟨report, hr⟩, hrest⟩⟩
          obtain ⟨status, message⟩ := report
          rw [Summary.record, hr] at hfirst
          cases status <;> exact hfirst

end RibTree
