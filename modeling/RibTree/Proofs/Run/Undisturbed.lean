import RibTree.Proofs.Run.History
import RibTree.Proofs.Step.Success

/-!
# Runs without faults

What a run comes to when no fault stands before it: each moment is the effect of its step, and no
faults are left. A step that creates files does so if nothing but a lock could keep it from it.
-/

namespace RibTree

set_option autoImplicit false

variable {template : TemplateKey → Except TemplateFailure String} {s : Settings}

theorem play_cons (step : Step) (steps : List Step) (store : Store) :
    play template s (step :: steps) [] store =
      let first := moment template s step [] store
      let rest := play template s steps [] first.after
      ⟨first :: rest.moments, rest.left, rest.after⟩ := by
  simp only [play, left_moment]

theorem left_play (steps : List Step) (store : Store) :
    (play template s steps [] store).left = [] := by
  induction steps generalizing store with
  | nil => rfl
  | cons step steps ih =>
      rw [play_cons]
      exact ih _

def Played.total (p : Played) : Summary := p.reports.foldl Summary.record {}

theorem history_singleton (call : Call) (store : Store) :
    history template s [call] [] store =
      let played := play template s call.steps [] store
      ((([played.total], played.reports), []), played.after) := by
  rw [history_eq_play]
  simp only [summaries, List.flatMap_cons, List.flatMap_nil, List.append_nil, left_play,
    Played.total]

theorem history_pair (first second : Call) (store : Store) :
    history template s [first, second] [] store =
      let played := play template s first.steps [] store
      let rest := play template s second.steps [] played.after
      ((([played.total, rest.total], played.reports ++ rest.reports), []), rest.after) := by
  rw [history_eq_play]
  simp only [summaries, List.flatMap_cons, List.flatMap_nil, List.append_nil, play_append,
    left_play, Played.total, Played.reports, List.map_append]

section

variable (template) (hslash : '/' ∉ s.fileExtension.toList)
include hslash

theorem moment_eq_effect {step : Step} {store : Store} (hnames : ∀ n ∈ step.names, '/' ∉ n.toList)
    (hs : store.WellFormed) :
    let effect := step.effect template s store
    moment template s step [] store =
      ⟨step, [], store, ⟨step.command, step.parent, step.target, effect.result⟩, [],
        effect.apply store⟩ :=
  moment_of_run (Step.run_eq_effect template hslash hnames hs)

theorem moment_created {step : Step} {store : Store} (hnames : ∀ n ∈ step.names, '/' ∉ n.toList)
    (hs : store.WellFormed) {a : Artifact} (hlead : step.lead? = some a)
    (hmissing : a.located? s store = none)
    (hreadable : ∀ d ∈ step.drafts s, d.Readable template)
    (hfree : ∀ d ∈ step.drafts s, store.isLocked (d.artifact.path s) = false) :
    let created := (step.drafts s).map (Draft.file template s)
    moment template s step [] store =
      ⟨step, [], store, step.successReport s, [],
        (store.ensure (a.folder s)).overwriteAll created⟩ := by
  rw [moment_eq_effect template hslash hnames hs, Step.effect_of_lead hlead,
    Step.creation_of_free hslash hnames hlead hmissing hreadable hfree]
  rfl

end

end RibTree
