import RibTree.Proofs.Run.Reports
import RibTree.Proofs.Step.Done

/-!
# Histories

Calls to one service, one after the other, are a sequence of steps, each behind the faults and on
the store that the steps before it left. What one of them has done is there for all that follow,
so that it is never done again.
-/

namespace RibTree

set_option autoImplicit false

inductive Call
  | add (target : String) (parent : Option String) (ownsView : Bool)
  | link (parent child : String)
  | scaffold (edges : List Edge)
  deriving DecidableEq, Repr

namespace Call

def names : Call → List String
  | add target parent _ => target :: parent.toList
  | link parent child => [parent, child]
  | scaffold edges => edges.flatMap fun edge => [edge.parent, edge.target]

def steps : Call → List Step
  | add target parent ownsView => Step.forAdd target parent ownsView
  | link parent child => Step.forLink parent child
  | scaffold edges => edges.flatMap Step.forEdge

def run {m : Type → Type} [Monad m] (host : Host m) (s : Settings) (sink : StepReport → m Unit) :
    Call → m Summary
  | add target parent ownsView => RibTree.add host s sink target parent ownsView
  | link parent child => RibTree.link host s sink parent child
  | scaffold edges => RibTree.scaffold host s sink edges

theorem run_eq_runSteps {m : Type → Type} [Monad m] [LawfulMonad m] (host : Host m)
    (s : Settings) (sink : StepReport → m Unit) (call : Call) :
    call.run host s sink = runSteps host s sink call.steps := by
  cases call with
  | add | link => rfl
  | scaffold edges => exact scaffold_eq_runSteps host s sink edges

theorem names_of_mem_forLink {parent child : String} {step : Step}
    (h : step ∈ Step.forLink parent child) : step.names = [parent, child] := by
  simp only [Step.forLink, List.mem_cons, List.not_mem_nil, or_false] at h
  rcases h with rfl | rfl <;> rfl

theorem names_of_mem_steps {call : Call} {step : Step} (hstep : step ∈ call.steps) {n : String}
    (hn : n ∈ step.names) : n ∈ call.names := by
  cases call with
  | add target parent ownsView =>
      rcases List.mem_cons.mp hstep with rfl | hlink
      · exact List.mem_cons.mpr (Or.inl (List.mem_singleton.mp hn))
      · cases parent with
        | none => simp at hlink
        | some parent =>
            rw [names_of_mem_forLink hlink] at hn
            simp only [List.mem_cons, List.not_mem_nil, or_false] at hn
            rcases hn with rfl | rfl <;> simp [names]
  | link parent child =>
      rw [names_of_mem_forLink hstep] at hn
      exact hn
  | scaffold edges =>
      obtain ⟨edge, hedge, hstep⟩ := List.mem_flatMap.mp hstep
      refine List.mem_flatMap.mpr ⟨edge, hedge, ?_⟩
      rcases List.mem_cons.mp hstep with rfl | hlink
      · rw [List.mem_singleton.mp hn]
        simp
      · rw [names_of_mem_forLink hlink] at hn
        exact hn

end Call

/-- The same work, whether or not a component is to have a view. -/
def Step.SameWork : Step → Step → Prop
  | component target _, component other _ => target = other
  | step, other => step = other

instance (step other : Step) : Decidable (step.SameWork other) := by
  cases step <;> cases other <;> exact inferInstanceAs (Decidable (_ = _))

theorem Step.SameWork.done {step other : Step} (h : step.SameWork other) {s : Settings}
    {store : Store} (hdone : step.Done s store) : other.Done s store := by
  cases step <;> cases other <;> cases h <;> exact hdone

/-- One step of a history, with what it finds and what it leaves. -/
structure Moment where
  step : Step
  faults : List Fault
  before : Store
  report : StepReport
  left : List Fault
  after : Store

structure Played where
  moments : List Moment
  left : List Fault
  after : Store

def Played.reports (p : Played) : List StepReport := p.moments.map Moment.report

section

variable (template : TemplateKey → Except TemplateFailure String) (s : Settings)

def moment (step : Step) (faults : List Fault) (store : Store) : Moment :=
  let ended := ((step.run (Store.faultyHost template) s).run faults).run store
  ⟨step, faults, store, ended.1.1, ended.1.2, ended.2⟩

def play : List Step → List Fault → Store → Played
  | [], faults, store => ⟨[], faults, store⟩
  | step :: steps, faults, store =>
      let first := moment template s step faults store
      let rest := play steps first.left first.after
      ⟨first :: rest.moments, rest.left, rest.after⟩

def callAll (calls : List Call) :
    StateT (List StepReport) (StateT (List Fault) (StateM Store)) (List Summary) :=
  calls.mapM (Call.run (Store.faultyHost template).lift s keep)

/-- What calls return and report, and what they leave of the faults and the store. -/
def history (calls : List Call) (faults : List Fault) (store : Store) :
    ((List Summary × List StepReport) × List Fault) × Store :=
  (((callAll template s calls).run []).run faults).run store

end

variable {template : TemplateKey → Except TemplateFailure String} {s : Settings}

theorem play_append (steps rest : List Step) (faults : List Fault) (store : Store) :
    play template s (steps ++ rest) faults store =
      let first := play template s steps faults store
      let second := play template s rest first.left first.after
      ⟨first.moments ++ second.moments, second.left, second.after⟩ := by
  induction steps generalizing faults store with
  | nil => rfl
  | cons step steps ih => simp only [List.cons_append, play, ih]

theorem reports_play_append (steps rest : List Step) (faults : List Fault) (store : Store) :
    (play template s (steps ++ rest) faults store).reports =
      let first := play template s steps faults store
      first.reports ++ (play template s rest first.left first.after).reports := by
  rw [play_append]
  exact List.map_append

theorem length_reports_play (steps : List Step) (faults : List Fault) (store : Store) :
    (play template s steps faults store).reports.length = steps.length := by
  induction steps generalizing faults store with
  | nil => rfl
  | cons step steps ih => exact congrArg (· + 1) (ih _ _)

theorem run_mapM_step (steps : List Step) (faults : List Fault) (store : Store) :
    ((steps.mapM (Step.run (Store.faultyHost template) s)).run faults).run store =
      let played := play template s steps faults store
      ((played.reports, played.left), played.after) := by
  induction steps generalizing faults store with
  | nil => rfl
  | cons step steps ih =>
      let first := moment template s step faults store
      rw [List.mapM_cons]
      change (let rest :=
        ((steps.mapM (Step.run (Store.faultyHost template) s)).run first.left).run first.after
        ((first.report :: rest.1.1, rest.1.2), rest.2)) = _
      rw [ih first.left first.after]
      rfl

theorem run_call (call : Call) (kept : List StepReport) (faults : List Fault) (store : Store) :
    (((call.run (m := StateT (List StepReport) (StateT (List Fault) (StateM Store)))
      (Store.faultyHost template).lift s keep).run kept).run faults).run store =
      let played := play template s call.steps faults store
      (((played.reports.foldl Summary.record {}, kept ++ played.reports), played.left),
        played.after) := by
  rw [Call.run_eq_runSteps, run_runSteps_keep, StateT.run_map, StateT.run_map, run_mapM_step]
  rfl

theorem run_bind_of_eq {α β : Type}
    {x : StateT (List StepReport) (StateT (List Fault) (StateM Store)) α}
    {f : α → StateT (List StepReport) (StateT (List Fault) (StateM Store)) β}
    {kept reports : List StepReport} {faults left : List Fault} {store after : Store} {a : α}
    (h : ((x.run kept).run faults).run store = (((a, reports), left), after)) :
    (((x >>= f).run kept).run faults).run store =
      (((f a).run reports).run left).run after := by
  change (((f (((x.run kept).run faults).run store).1.1.1).run
    (((x.run kept).run faults).run store).1.1.2).run
      (((x.run kept).run faults).run store).1.2).run (((x.run kept).run faults).run store).2 = _
  rw [h]

/-- What the calls return, each for the reports of its own steps. -/
def summaries (template : TemplateKey → Except TemplateFailure String) (s : Settings) :
    List Call → List Fault → Store → List Summary
  | [], _, _ => []
  | call :: calls, faults, store =>
      let played := play template s call.steps faults store
      played.reports.foldl Summary.record {} :: summaries template s calls played.left played.after

theorem run_callAll (calls : List Call) (kept : List StepReport) (faults : List Fault)
    (store : Store) :
    (((callAll template s calls).run kept).run faults).run store =
      let played := play template s (calls.flatMap Call.steps) faults store
      (((summaries template s calls faults store, kept ++ played.reports), played.left),
        played.after) := by
  induction calls generalizing kept faults store with
  | nil =>
      simp only [List.flatMap_nil, play, Played.reports, List.map_nil, List.append_nil]
      rfl
  | cons call calls ih =>
      let first := play template s call.steps faults store
      have hrest := ih (kept ++ first.reports) first.left first.after
      rw [callAll, List.mapM_cons, run_bind_of_eq (run_call call kept faults store)]
      refine (run_bind_of_eq hrest).trans ?_
      rw [List.flatMap_cons, play_append]
      simp only [Played.reports, List.map_append, List.append_assoc]
      rfl

theorem history_eq_play (calls : List Call) (faults : List Fault) (store : Store) :
    history template s calls faults store =
      let played := play template s (calls.flatMap Call.steps) faults store
      (((summaries template s calls faults store, played.reports), played.left), played.after) := by
  rw [history, run_callAll]
  rfl

variable (template s) in
theorem outcome_moment (step : Step) (faults : List Fault) (store : Store) :
    Step.Outcome template s store step (moment template s step faults store).report.result
      (moment template s step faults store).after :=
  (Step.outcome_of_leads ⟨faults, _, rfl⟩).2

theorem exists_of_mem_play {steps : List Step} {faults : List Fault} {store : Store} {m : Moment}
    (h : m ∈ (play template s steps faults store).moments) :
    ∃ before step rest, steps = before ++ step :: rest ∧
      m = moment template s step (play template s before faults store).left
        (play template s before faults store).after := by
  induction steps generalizing faults store with
  | nil => simp [play] at h
  | cons step steps ih =>
      rcases List.mem_cons.mp h with rfl | h
      · exact ⟨[], step, steps, rfl, rfl⟩
      · obtain ⟨before, other, rest, rfl, hm⟩ := ih h
        exact ⟨step :: before, other, rest, rfl, hm⟩

theorem step_of_mem_play {steps : List Step} {faults : List Fault} {store : Store} {m : Moment}
    (h : m ∈ (play template s steps faults store).moments) : m.step ∈ steps := by
  obtain ⟨before, step, rest, rfl, rfl⟩ := exists_of_mem_play h
  exact List.mem_append_right _ List.mem_cons_self

theorem outcome_of_mem_play {steps : List Step} {faults : List Fault} {store : Store} {m : Moment}
    (h : m ∈ (play template s steps faults store).moments) :
    Step.Outcome template s m.before m.step m.report.result m.after := by
  obtain ⟨before, step, rest, rfl, rfl⟩ := exists_of_mem_play h
  exact outcome_moment template s step _ _

/-- What every outcome of every step keeps, a run keeps. -/
theorem play_keeps {P : Store → Prop} {steps : List Step}
    (hP : ∀ step ∈ steps, ∀ {before after : Store} {r : Except Failure Report},
      Step.Outcome template s before step r after → P before → P after)
    (faults : List Fault) {store : Store} (h : P store) :
    P (play template s steps faults store).after := by
  induction steps generalizing faults store with
  | nil => exact h
  | cons step steps ih =>
      apply ih fun other hother => hP other (List.mem_cons_of_mem _ hother)
      exact hP step List.mem_cons_self (outcome_moment template s step faults store) h

variable (template s) in
theorem wellFormed_play (steps : List Step) (faults : List Fault) {store : Store}
    (hs : store.WellFormed) : (play template s steps faults store).after.WellFormed :=
  play_keeps (fun _ _ _ _ _ houtcome hbefore => houtcome.wellFormed hbefore) faults hs

/-- A moment that writes nothing. It reports that its step was skipped, unless a fault keeps the
step from looking for its result. -/
structure Moment.IsIdle (s : Settings) (m : Moment) : Prop where
  unchanged : m.after = m.before
  skipped_of_ok : ∀ report, m.report.result = .ok report → report.status = .skipped
  skipped : Fault.Spares (m.step.lookups s m.before) m.faults →
    m.report.result = .ok (m.step.presence s)

variable (template) in
theorem isIdle_moment {step : Step} {store : Store} (hdone : step.Done s store)
    (faults : List Fault) : (moment template s step faults store).IsIdle s := by
  obtain ⟨hunchanged, hskipped⟩ := (outcome_moment template s step faults store).idle hdone
  refine ⟨hunchanged, hskipped, ?_⟩
  intro hspares
  obtain ⟨left, hrun⟩ := hdone.skipped template
    (show Fault.Spares (step.lookups s store) faults from hspares)
  have hreport : (moment template s step faults store).report =
    (((step.run (Store.faultyHost template) s).run faults).run store).1.1 := rfl
  rw [hreport, hrun]
  rfl

/-- The names of the step are single words of lines and of paths. -/
def Step.WellNamed (step : Step) : Prop := ∀ n ∈ step.names, IsPlain n ∧ IsUnbroken n

section

variable (hslash : '/' ∉ s.fileExtension.toList)
include hslash

/-- Whatever the steps come to, what is done before them is done after them. -/
theorem done_play {steps : List Step} (hsteps : ∀ step ∈ steps, step.WellNamed) {step : Step}
    (hstep : step.WellNamed) {faults : List Fault} {store : Store} (hs : store.WellFormed)
    (hdone : step.Done s store) : step.Done s (play template s steps faults store).after := by
  refine (play_keeps (P := fun store => store.WellFormed ∧ step.Done s store) ?_ faults
    ⟨hs, hdone⟩).2
  intro other hother before after r houtcome hbefore
  refine ⟨houtcome.wellFormed hbefore.1, ?_⟩
  exact houtcome.done hslash hbefore.1 (fun n hn => (hsteps other hother n hn).1)
    (fun n hn => (hstep n hn).1) (fun n hn => (hstep n hn).2) hbefore.2

theorem pairwise_isIdle_play (hdot : '.' ∉ s.fileExtension.toList) {steps : List Step}
    (hsteps : ∀ step ∈ steps, step.WellNamed) {faults : List Fault} {store : Store}
    (hs : store.WellFormed) :
    (play template s steps faults store).moments.Pairwise fun earlier later =>
      earlier.step.SameWork later.step →
        ∀ report, earlier.report.result = .ok report → later.IsIdle s := by
  induction steps generalizing faults store with
  | nil => exact List.Pairwise.nil
  | cons first steps ih =>
      obtain ⟨hfirst, hrest⟩ := List.forall_mem_cons.mp hsteps
      have houtcome := outcome_moment template s first faults store
      have hafter := houtcome.wellFormed hs
      apply List.pairwise_cons.mpr
      refine ⟨?_, ih hrest hafter⟩
      intro later hlater hsame report hok
      obtain ⟨before, step, rest, rfl, rfl⟩ := exists_of_mem_play hlater
      rw [hok] at houtcome
      have hdone : first.Done s (moment template s first faults store).after :=
        houtcome.done_of_ok hslash hdot hs (fun n hn => (hfirst n hn).1) fun n hn => (hfirst n hn).2
      have hbefore : ∀ other ∈ before, other.WellNamed :=
        fun other hother => hrest other (List.mem_append_left _ hother)
      exact isIdle_moment template (hsame.done (done_play hslash hbefore hfirst hafter hdone)) _

theorem done_play_of_ok (hdot : '.' ∉ s.fileExtension.toList) {steps : List Step}
    (hsteps : ∀ step ∈ steps, step.WellNamed) {faults : List Fault} {store : Store}
    (hs : store.WellFormed)
    (hok : ∀ r ∈ (play template s steps faults store).reports, ∃ report, r.result = .ok report) :
    ∀ step ∈ steps, step.Done s (play template s steps faults store).after := by
  induction steps generalizing faults store with
  | nil => simp
  | cons first steps ih =>
      obtain ⟨hfirst, hrest⟩ := List.forall_mem_cons.mp hsteps
      obtain ⟨⟨report, hreport⟩, hothers⟩ := List.forall_mem_cons.mp hok
      have houtcome := outcome_moment template s first faults store
      have hafter := houtcome.wellFormed hs
      refine List.forall_mem_cons.mpr ⟨?_, ih hrest hafter hothers⟩
      rw [hreport] at houtcome
      exact done_play hslash hrest hfirst hafter (houtcome.done_of_ok hslash hdot hs
        (fun n hn => (hfirst n hn).1) fun n hn => (hfirst n hn).2)

end

theorem moment_of_run {step : Step} {store after : Store} {report : StepReport}
    (h : (step.run (Store.host template) s).run store = (report, after)) :
    moment template s step [] store = ⟨step, [], store, report, [], after⟩ := by
  have hrun : ((step.run (Store.faultyHost template) s).run []).run store =
      ((report, []), after) := by
    rw [Step.run_withFaults (Store.host template) s step, StateT.run_map, h]
    rfl
  simp only [moment, hrun]

theorem left_moment (step : Step) (store : Store) : (moment template s step [] store).left = [] := by
  obtain ⟨⟨report, after⟩, hrun⟩ : ∃ ended, (step.run (Store.host template) s).run store = ended :=
    ⟨_, rfl⟩
  rw [moment_of_run hrun]

variable (template) in
theorem moment_of_done {step : Step} {store : Store} (hdone : step.Done s store) :
    moment template s step [] store =
      ⟨step, [], store, ⟨step.command, step.parent, step.target, .ok (step.presence s)⟩, [],
        store⟩ := by
  obtain ⟨left, hrun⟩ := hdone.skipped template (Fault.spares_nil_right _)
  have hleft : (moment template s step [] store).left = [] := left_moment step store
  simp only [moment, hrun] at hleft ⊢
  rw [hleft]

variable (template) in
theorem play_of_done {steps : List Step} {store : Store}
    (hdone : ∀ step ∈ steps, step.Done s store) :
    (play template s steps [] store).left = [] ∧ (play template s steps [] store).after = store ∧
      ∀ r ∈ (play template s steps [] store).reports,
        ∃ message, r.result = .ok ⟨.skipped, message⟩ := by
  induction steps with
  | nil => exact ⟨rfl, rfl, by simp [play, Played.reports]⟩
  | cons step steps ih =>
      obtain ⟨hfirst, hrest⟩ := List.forall_mem_cons.mp hdone
      obtain ⟨hleft, hafter, hreports⟩ := ih hrest
      unfold play
      rw [moment_of_done template hfirst]
      refine ⟨hleft, hafter, List.forall_mem_cons.mpr ⟨⟨(step.presence s).message, ?_⟩, hreports⟩⟩
      exact congrArg Except.ok (step.presence_eq s)

theorem Call.wellNamed_of_mem_steps {call : Call}
    (hnames : ∀ n ∈ call.names, IsPlain n ∧ IsUnbroken n) : ∀ step ∈ call.steps, step.WellNamed :=
  fun _ hstep n hn => hnames n (names_of_mem_steps hstep hn)

theorem done_of_mem_zip_summaries (hslash : '/' ∉ s.fileExtension.toList)
    (hdot : '.' ∉ s.fileExtension.toList) {calls : List Call}
    (hnames : ∀ call ∈ calls, ∀ n ∈ call.names, IsPlain n ∧ IsUnbroken n) {faults : List Fault}
    {store : Store} (hs : store.WellFormed) {call : Call} {total : Summary}
    (hcall : (call, total) ∈ calls.zip (summaries template s calls faults store))
    (htotal : total.failed = 0) :
    ∀ step ∈ call.steps,
      step.Done s (play template s (calls.flatMap Call.steps) faults store).after := by
  induction calls generalizing faults store with
  | nil => simp at hcall
  | cons first calls ih =>
      obtain ⟨hfirst, hrest⟩ := List.forall_mem_cons.mp hnames
      have hafter := wellFormed_play template s first.steps faults hs
      rw [List.flatMap_cons, play_append]
      rcases List.mem_cons.mp hcall with he | hcall
      · obtain ⟨rfl, rfl⟩ := Prod.mk.inj he
        intro step hstep
        have hnamed := Call.wellNamed_of_mem_steps hfirst
        have hothers : ∀ other ∈ calls.flatMap Call.steps, other.WellNamed := by
          intro other hother
          obtain ⟨call', hcall', hother⟩ := List.mem_flatMap.mp hother
          exact Call.wellNamed_of_mem_steps (hrest call' hcall') other hother
        exact done_play hslash hothers (hnamed step hstep) hafter
          (done_play_of_ok hslash hdot hnamed hs (Summary.ok_of_failed_eq_zero htotal).2 step hstep)
      · exact ih hrest hafter hcall

/-- A step that has been reported is not done again, whatever comes between: each time it occurs
again it writes nothing, and no fault but one that keeps it from looking for its result keeps it
from being skipped. So a scaffold that did not fail is skipped throughout when it is repeated. -/
theorem history_repeats_nothing (template : TemplateKey → Except TemplateFailure String)
    {s : Settings} (hslash : '/' ∉ s.fileExtension.toList) (hdot : '.' ∉ s.fileExtension.toList)
    {store : Store} (hstore : store.Built) (faults : List Fault) {calls : List Call}
    (hnames : ∀ call ∈ calls, ∀ n ∈ call.names, IsPlain n ∧ IsUnbroken n) :
    let played := play template s (calls.flatMap Call.steps) faults store
    history template s calls faults store =
        (((summaries template s calls faults store, played.reports), played.left), played.after) ∧
      (played.moments.Pairwise fun earlier later => earlier.step.SameWork later.step →
        ∀ report, earlier.report.result = .ok report → later.IsIdle s) ∧
      ∀ edges total,
        (Call.scaffold edges, total) ∈ calls.zip (summaries template s calls faults store) →
        total.failed = 0 →
        ∃ reports, history template s [.scaffold edges] [] played.after =
            ((([{ skipped := 3 * edges.length }], reports), []), played.after) ∧
          ({ skipped := 3 * edges.length } : Summary).exitCode = 0 ∧
          reports.length = 3 * edges.length ∧
          ∀ r ∈ reports, ∃ message, r.result = .ok ⟨.skipped, message⟩ := by
  intro played
  have hs := hstore.wellFormed
  have hsteps : ∀ step ∈ calls.flatMap Call.steps, step.WellNamed := by
    intro step hstep
    obtain ⟨call, hcall, hstep⟩ := List.mem_flatMap.mp hstep
    exact Call.wellNamed_of_mem_steps (hnames call hcall) step hstep
  refine ⟨history_eq_play calls faults store, pairwise_isIdle_play hslash hdot hsteps hs, ?_⟩
  intro edges total hcall htotal
  have hdone : ∀ step ∈ (Call.scaffold edges).steps, step.Done s played.after :=
    done_of_mem_zip_summaries hslash hdot hnames hs hcall htotal
  obtain ⟨hleft, hafter, hreports⟩ := play_of_done template hdone
  have hlength : (play template s (Call.scaffold edges).steps [] played.after).reports.length =
      3 * edges.length := by
    rw [length_reports_play, Call.steps, Step.length_flatMap_forEdge]
  refine ⟨_, ?_, rfl, hlength, hreports⟩
  rw [history_eq_play, List.flatMap_singleton, summaries, summaries,
    Summary.foldl_record_of_skipped {} hreports, hlength, Nat.zero_add]
  simp only [hleft, hafter]

/-- A scaffold of one edge, a link that it has made already, and the scaffold once more. -/
theorem history_repeats_nothing_of_one_edge :
    let template : TemplateKey → Except TemplateFailure String := fun _ => .ok ""
    let s : Settings := { targetDirectory := ⟨""⟩, dependencyAnchor := "//" }
    let store := Store.empty.withFile ⟨"ABuilder.swift"⟩ "//"
    let edges : List Edge := [⟨"A", "B", false⟩]
    let calls : List Call := [.scaffold edges, .link "A" "B"]
    let played := play template s (calls.flatMap Call.steps) [] store
    ('/' ∉ s.fileExtension.toList ∧ '.' ∉ s.fileExtension.toList ∧ store.Built ∧
      ∀ call ∈ calls, ∀ n ∈ call.names, IsPlain n ∧ IsUnbroken n) ∧
      ∃ reports, history template s [.scaffold edges] [] played.after =
          ((([{ skipped := 3 * edges.length }], reports), []), played.after) ∧
        ∀ r ∈ reports, ∃ message, r.result = .ok ⟨.skipped, message⟩ := by
  intro template s store edges calls played
  have hslash : '/' ∉ s.fileExtension.toList := by decide
  have hdot : '.' ∉ s.fileExtension.toList := by decide
  have hstore : store.Built := .withFile _ _ .empty
  have hnames : ∀ call ∈ calls, ∀ n ∈ call.names, IsPlain n ∧ IsUnbroken n := by decide +kernel
  obtain ⟨-, -, hrepeat⟩ := history_repeats_nothing template hslash hdot hstore [] hnames
  let total := (play template s (Call.scaffold edges).steps [] store).reports.foldl
    Summary.record {}
  have hfirst : (Call.scaffold edges, total) ∈ calls.zip (summaries template s calls [] store) := by
    rw [summaries, List.zip_cons_cons]
    exact List.mem_cons_self
  have hfailed : total.failed = 0 := by decide +kernel
  obtain ⟨reports, hhistory, -, -, hskipped⟩ := hrepeat edges total hfirst hfailed
  exact ⟨⟨hslash, hdot, hstore, hnames⟩, reports, hhistory, hskipped⟩

end RibTree
