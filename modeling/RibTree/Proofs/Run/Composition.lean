import RibTree.Proofs.Fault.Computation
import RibTree.Run

/-!
# Composed runs

A run is made of the runs of its parts: steps that follow one another can be run by one call or by
several, with the same effects in the same order, and the summary of the whole is the merge of the
summaries of the parts. The equations are between computations over any host. A host may count its
calls, keep a record of them or fail at some of them, and the two sides still agree in all of this.
-/

namespace RibTree

set_option autoImplicit false

namespace Summary

@[simp] theorem merge_empty (t : Summary) : t.merge {} = t := by
  simp [merge]

@[simp] theorem empty_merge (t : Summary) : ({} : Summary).merge t = t := by
  simp [merge]

theorem merge_assoc (t u v : Summary) : (t.merge u).merge v = t.merge (u.merge v) := by
  simp only [merge, Nat.add_assoc, Option.or_assoc]

/-- A report is counted in the same way before and after a merge. -/
theorem merge_record (t u : Summary) (r : StepReport) :
    t.merge (u.record r) = (t.merge u).record r := by
  cases hr : r.result with
  | error e =>
      simp only [record, hr, merge, Nat.add_assoc, Summary.mk.injEq, true_and]
      cases t.firstExitCode <;> rfl
  | ok report =>
      obtain ⟨status, message⟩ := report
      cases status <;> simp only [record, hr, merge, Nat.add_assoc]

theorem foldl_merge (t : Summary) (totals : List Summary) :
    totals.foldl merge t = t.merge (totals.foldl merge {}) := by
  induction totals generalizing t with
  | nil => simp
  | cons u totals ih =>
      rw [List.foldl_cons, List.foldl_cons, ih, ih (({} : Summary).merge u), empty_merge,
        merge_assoc]

end Summary

section

variable {m : Type → Type} [Monad m] (host : Host m) (s : Settings) (sink : StepReport → m Unit)

/-- What a run does for each of its steps. -/
def reportStep (total : Summary) (step : Step) : m Summary := do
  let report ← step.run host s
  sink report
  return total.record report

theorem runSteps_eq_foldlM (steps : List Step) :
    runSteps host s sink steps = steps.foldlM (reportStep host s sink) {} := rfl

theorem scaffold_eq_foldlM (edges : List Edge) :
    scaffold host s sink edges =
      edges.foldlM (fun total edge => (Step.forEdge edge).foldlM (reportStep host s sink) total)
        {} := rfl

@[simp] theorem runSteps_nil : runSteps host s sink [] = pure {} := rfl

variable [LawfulMonad m]

/-- A run that starts from a summary adds to it what it would come to without it. -/
theorem foldlM_reportStep_merge (steps : List Step) (t u : Summary) :
    steps.foldlM (reportStep host s sink) (t.merge u) =
      t.merge <$> steps.foldlM (reportStep host s sink) u := by
  induction steps generalizing u with
  | nil => simp
  | cons step steps ih =>
      -- A step is not shown the summary, which only its report is added to.
      have hfirst : reportStep host s sink (t.merge u) step =
          t.merge <$> reportStep host s sink u step := by
        simp only [reportStep, map_bind, map_pure, Summary.merge_record]
      rw [List.foldlM_cons, List.foldlM_cons, hfirst, bind_map_left, map_bind]
      exact bind_congr ih

theorem foldlM_reportStep (steps : List Step) (t : Summary) :
    steps.foldlM (reportStep host s sink) t = t.merge <$> runSteps host s sink steps := by
  rw [runSteps_eq_foldlM, ← foldlM_reportStep_merge, Summary.merge_empty]

theorem foldlM_flatMap_reportStep {α : Type} (steps : α → List Step) (l : List α) (t : Summary) :
    (l.flatMap steps).foldlM (reportStep host s sink) t =
      l.foldlM (fun total a => (steps a).foldlM (reportStep host s sink) total) t := by
  induction l generalizing t with
  | nil => rfl
  | cons a l ih =>
      rw [List.flatMap_cons, List.foldlM_append, List.foldlM_cons]
      exact bind_congr ih

/-- The steps of the edges run as one list of steps. -/
theorem scaffold_eq_runSteps (edges : List Edge) :
    scaffold host s sink edges = runSteps host s sink (edges.flatMap Step.forEdge) := by
  rw [scaffold_eq_foldlM, runSteps_eq_foldlM, foldlM_flatMap_reportStep]

theorem runSteps_append (steps later : List Step) :
    runSteps host s sink (steps ++ later) = do
      let t ← runSteps host s sink steps
      let u ← runSteps host s sink later
      return t.merge u := by
  rw [runSteps_eq_foldlM, List.foldlM_append, ← runSteps_eq_foldlM]
  refine bind_congr fun t => ?_
  rw [foldlM_reportStep, bind_pure_comp]

theorem runSteps_flatMap {α : Type} (steps : α → List Step) (l : List α) :
    runSteps host s sink (l.flatMap steps) =
      List.foldl Summary.merge {} <$> l.mapM fun a => runSteps host s sink (steps a) := by
  induction l with
  | nil => simp
  | cons a l ih =>
      rw [List.flatMap_cons, runSteps_append, ih, List.mapM_cons, map_bind]
      refine bind_congr fun t => ?_
      simp only [map_eq_pure_bind, bind_assoc, pure_bind, List.foldl_cons, Summary.empty_merge]
      exact bind_congr fun totals => by rw [Summary.foldl_merge t]

end

/-- A scaffold is its edges added one after the other; a longer scaffold is the scaffold of its
first edges and then that of the others; and adding a component under a parent is adding it alone
and then linking it. -/
theorem scaffold_composes {m : Type → Type} [Monad m] [LawfulMonad m] (host : Host m) (s : Settings)
    (sink : StepReport → m Unit) :
    (∀ edges, scaffold host s sink edges =
      List.foldl Summary.merge {} <$> edges.mapM fun edge =>
        add host s sink edge.target (some edge.parent) edge.ownsView) ∧
    (∀ edges later, scaffold host s sink (edges ++ later) = do
      let t ← scaffold host s sink edges
      let u ← scaffold host s sink later
      return t.merge u) ∧
    ∀ target parent ownsView, add host s sink target (some parent) ownsView = do
      let t ← add host s sink target none ownsView
      let u ← link host s sink parent target
      return t.merge u := by
  refine ⟨?_, ?_, ?_⟩
  · intro edges
    rw [scaffold_eq_runSteps]
    exact runSteps_flatMap host s sink Step.forEdge edges
  · intro edges later
    simp only [scaffold_eq_runSteps, List.flatMap_append]
    exact runSteps_append host s sink _ _
  · intro target parent ownsView
    exact runSteps_append host s sink [.component target ownsView] (Step.forLink parent target)

/-- Two edges of which the second meets a disk that is full for one file: it is added under the
counters that the first one has left, and its failure is that of the whole run. -/
theorem scaffold_composes_behind_fault :
    let host : Host (StateT (List StepReport) (StateT (List Fault) (StateM Store))) :=
      (Store.faultyHost fun _ => .ok "").lift
    let s : Settings := { targetDirectory := ⟨""⟩, dependencyAnchor := "//" }
    let edges : List Edge := [⟨"A", "B", false⟩, ⟨"A", "C", false⟩]
    let faults : List Fault := [{ call := .write, skip := 5, times := some 1, reason := "full" }]
    let store := Store.empty.withFile ⟨"ABuilder.swift"⟩ "//"
    let added := edges.mapM fun edge =>
      add host s keep edge.target (some edge.parent) edge.ownsView
    LawfulMonad (StateT (List StepReport) (StateT (List Fault) (StateM Store))) ∧
      scaffold host s keep edges = List.foldl Summary.merge {} <$> added ∧
      (((added.run []).run faults).run store).1.1.1 =
        [{ created := 2, edited := 1 },
          { created := 1, edited := 1, failed := 1, firstExitCode := some 4 }] := by
  intro host s edges faults store added
  have hlawful : LawfulMonad (StateT (List StepReport) (StateT (List Fault) (StateM Store))) :=
    inferInstance
  exact ⟨hlawful, (scaffold_composes host s keep).1 edges, by decide +kernel⟩

end RibTree
