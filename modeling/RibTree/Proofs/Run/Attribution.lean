import RibTree.Proofs.Host.Recording
import RibTree.Proofs.Run.Accounting

/-!
# Whose failure it is

A request comes to nothing only if the outline that it names is missing, cannot be read or does not
compile; then no step has been reported and no call has been made but to read the outline. All
other failures belong to a step. They say what the step could not do and never pass on as their own
kind what a host has answered.
-/

namespace RibTree

set_option autoImplicit false

/-- The kinds of failure that a step with this command can have. -/
def Command.failureKinds : Command → List String
  | createComponent | createExtension =>
      ["indexFailed", "failedCreateFile", "failedCreateDirectory"]
  | addDependency => ["indexFailed", "builderNotFound", "failedEditFile"]
  | help | version => []

/-- The kinds of failure that keep a run from starting. -/
def Failure.outlineKinds : List String :=
  ["outlineNotFound", "outlineUnreadable", "malformedOutline"]

/-- The kinds in which a host answers, before a step says what they mean for it. -/
def Failure.hostKinds : List String := ["filesystem", "templateNotFound"]

theorem Step.Answer.attributed {s : Settings} {step : Step} {e : Failure}
    (h : step.Answer s (.error e)) :
    e.isFatal = false ∧ e.kind ∈ step.command.failureKinds := by
  cases h with
  | unlisted => cases step <;> exact ⟨rfl, by simp [Failure.kind, command, Command.failureKinds]⟩
  | noFolder reason hlead =>
      cases step with
      | component | extension => exact ⟨rfl, by simp [Failure.kind, command, Command.failureKinds]⟩
      | dependency => simp [lead?] at hlead
  | noFile reason hd =>
      cases step with
      | component | extension => exact ⟨rfl, by simp [Failure.kind, command, Command.failureKinds]⟩
      | dependency => simp [drafts] at hd
  | noBuilder | notEdited =>
      exact ⟨rfl, by simp [Failure.kind, command, Command.failureKinds]⟩

theorem Command.hostKinds_disjoint (command : Command) :
    ∀ kind ∈ command.failureKinds, kind ∉ Failure.hostKinds := by
  cases command <;> decide

theorem Failure.hostKinds_disjoint : ∀ kind ∈ outlineKinds, kind ∉ hostKinds := by
  decide

section

variable {σ : Type} (host : Host (StateM σ)) (s : Settings) (sink : StepReport → StateM σ Unit)

/-- What the outline at `path` comes to on the host, and the state in which that is known. -/
inductive Host.Reads (path : Path) (root : String) (before : σ) :
    Except Failure (List Edge) → σ → Prop
  | absent {after : σ} :
      (host.isPresent path).run before = (false, after) →
      Reads path root before (.error (.outlineNotFound path)) after
  | unreadable {e : StorageFailure} {between after : σ} :
      (host.isPresent path).run before = (true, between) →
      (host.read path).run between = (.error e, after) →
      Reads path root before (.error (.outlineUnreadable path e.message)) after
  | malformed {text : String} {e : OutlineFailure} {between after : σ} :
      (host.isPresent path).run before = (true, between) →
      (host.read path).run between = (.ok text, after) → compile text root = .error e →
      Reads path root before (.error (.outline e)) after
  | compiled {text : String} {edges : List Edge} {between after : σ} :
      (host.isPresent path).run before = (true, between) →
      (host.read path).run between = (.ok text, after) → compile text root = .ok edges →
      Reads path root before (.ok edges) after

theorem Host.exists_reads (path : Path) (root : String) (before : σ) :
    ∃ q after, host.Reads path root before q after := by
  rcases hpresent : (host.isPresent path).run before with ⟨present, between⟩
  cases present with
  | false => exact ⟨_, _, .absent hpresent⟩
  | true =>
      rcases hread : (host.read path).run between with ⟨e | text, after⟩
      · exact ⟨_, _, .unreadable hpresent hread⟩
      · cases hcompile : compile text root with
        | error e => exact ⟨_, _, .malformed hpresent hread hcompile⟩
        | ok edges => exact ⟨_, _, .compiled hpresent hread hcompile⟩

theorem Host.Reads.attributed {host : Host (StateM σ)} {path : Path} {root : String}
    {before after : σ} {e : Failure} (h : host.Reads path root before (.error e) after) :
    e.isFatal = true ∧ e.exitCode = 7 ∧ e.kind ∈ Failure.outlineKinds := by
  cases h <;> exact ⟨rfl, rfl, by simp [Failure.kind, Failure.outlineKinds]⟩

section

variable {host} {path : Path} {root : String} {before after : σ} {q : Except Failure (List Edge)}

/-- An outline is read with at most one recorded call. -/
theorem run_compileFile_recorded (h : host.Reads path root before q after)
    (log : List HostEvent) :
    ∃ events, (∀ event ∈ events, event.request.call = .read) ∧
      ((compileFile host.recorded path root).run.run log).run before =
        ((q, log ++ events), after) := by
  have hasked : ∀ {present between}, (host.isPresent path).run before = (present, between) →
      ((liftM (host.recorded.isPresent path) :
        ExceptT Failure (StateT (List HostEvent) (StateM σ)) Bool).run.run log).run before =
          ((.ok present, log), between) := by
    intro present between hpresent
    change ((Except.ok ((host.isPresent path).run before).1, log),
      ((host.isPresent path).run before).2) = _
    rw [hpresent]
  have hread : ∀ {answer between after}, (host.read path).run between = (answer, after) →
      ((host.recorded.read path).run log).run between =
        ((answer, log ++ [⟨.read path, !answer.isOk⟩]), after) := by
    intro answer between after hanswer
    change ((((host.read path).run between).1,
      log ++ [⟨.read path, !((host.read path).run between).1.isOk⟩]),
        ((host.read path).run between).2) = _
    rw [hanswer]
  have hcall : ∀ failed, ∀ event ∈ [HostEvent.mk (.read path) failed],
      event.request.call = .read := by
    intro failed event hevent
    rw [List.mem_singleton.mp hevent]
    rfl
  cases h with
  | absent hpresent =>
      refine ⟨[], by simp, ?_⟩
      rw [compileFile, run_bind_of_ok (hasked hpresent), List.append_nil]
      rfl
  | unreadable hpresent hanswer =>
      refine ⟨_, hcall true, ?_⟩
      rw [compileFile, run_bind_of_ok (hasked hpresent)]
      exact run_bind_of_error (run_attempt (hread hanswer) _)
  | malformed hpresent hanswer hcompile =>
      refine ⟨_, hcall false, ?_⟩
      rw [compileFile, run_bind_of_ok (hasked hpresent)]
      refine (run_bind_of_ok (run_attempt (hread hanswer) _)).trans ?_
      rw [hcompile]
      rfl
  | compiled hpresent hanswer hcompile =>
      refine ⟨_, hcall false, ?_⟩
      rw [compileFile, run_bind_of_ok (hasked hpresent)]
      refine (run_bind_of_ok (run_attempt (hread hanswer) _)).trans ?_
      rw [hcompile]
      rfl

theorem run_compileFile (h : host.Reads path root before q after) :
    (compileFile host path root).run.run before = (q, after) := by
  obtain ⟨events, -, hrun⟩ := run_compileFile_recorded h []
  rw [← Simulation.compileFile (Simulation.hosts_recorded host) path root [], StateT.run_map, hrun]
  rfl

theorem run_compileFile_lift {τ : Type} (h : host.Reads path root before q after) (aside : τ) :
    ((compileFile (m := StateT τ (StateM σ)) host.lift path root).run.run aside).run before =
      ((q, aside), after) := by
  rw [compileFile_lift]
  change ((((compileFile host path root).run.run before).1, aside),
    ((compileFile host path root).run.run before).2) = _
  rw [run_compileFile h]

end

namespace Request

/-- What a request comes to, the calls that were made for it, and the state that it leaves. -/
def logged (request : Request) (before : σ) : (Except Failure Summary × List HostEvent) × σ :=
  ((execute (m := StateT (List HostEvent) (StateM σ)) host.recorded s
    (fun report => liftM (sink report)) request).run.run []).run before

theorem run_eq_logged (request : Request) (before : σ) :
    (execute host s sink request).run.run before =
      ((request.logged host s sink before).1.1, (request.logged host s sink before).2) := by
  have hsinks : ∀ report, (Simulation.unrecorded (StateM σ)).Rel
      (liftM (sink report) : StateT (List HostEvent) (StateM σ) Unit) (sink report) := by
    intro report log
    simp
  rw [← Simulation.execute (Simulation.hosts_recorded host) s hsinks request [], StateT.run_map]
  rfl

variable {host} {path : Path} {root : String} {before after : σ}

theorem logged_of_error {e : Failure} (h : host.Reads path root before (.error e) after) :
    ∃ events, (∀ event ∈ events, event.request.call = .read) ∧
      logged host s sink (.scaffold path root) before = ((.error e, events), after) := by
  obtain ⟨events, hevents, hrun⟩ := run_compileFile_recorded h []
  exact ⟨events, hevents, run_bind_of_error hrun⟩

theorem seen_of_error {e : Failure} (h : host.Reads path root before (.error e) after) :
    seen host s sink (.scaffold path root) before = ((.error e, []), after) :=
  run_bind_of_error (run_compileFile_lift h [])

theorem seen_of_ok {edges : List Edge} (h : host.Reads path root before (.ok edges) after) :
    seen host s sink (.scaffold path root) before =
      let seen := Call.seen host s sink (.scaffold edges) after
      ((.ok seen.1.1, seen.1.2), seen.2) :=
  run_bind_of_ok (run_compileFile_lift h [])

theorem run_eq_seen_of_call {request : Request} (call : Call) {between : σ}
    (hrun : (execute host s sink request).run.run before =
      (((call.run host s sink).run between).map Except.ok id))
    (hseen : request.seen host s sink before =
      let seen := call.seen host s sink between
      ((.ok seen.1.1, seen.1.2), seen.2)) :
    (execute host s sink request).run.run before =
      ((request.seen host s sink before).1.1, (request.seen host s sink before).2) := by
  rw [hrun, hseen, call.run_eq_seen]
  rfl

/-- That the sink is observed changes nothing else. -/
theorem run_eq_seen (host : Host (StateM σ)) (request : Request) (before : σ) :
    (execute host s sink request).run.run before =
      ((request.seen host s sink before).1.1, (request.seen host s sink before).2) := by
  cases request with
  | help | version => rfl
  | add target parent ownsView =>
      exact run_eq_seen_of_call s sink (.add target parent ownsView) rfl rfl
  | link parent child => exact run_eq_seen_of_call s sink (.link parent child) rfl rfl
  | scaffold path root =>
      obtain ⟨e | edges, after, hreads⟩ := host.exists_reads path root before
      · rw [seen_of_error s sink hreads]
        exact run_bind_of_eq_error (run_compileFile hreads)
      · exact run_eq_seen_of_call s sink (.scaffold edges)
          (run_bind_of_eq_ok (run_compileFile hreads)) (seen_of_ok s sink hreads)

/-- A request that starts has the reports of a call, or that of a text. -/
theorem seen_cases (host : Host (StateM σ)) (request : Request) (before : σ) :
    (∃ path root e after, request = .scaffold path root ∧
      host.Reads path root before (.error e) after ∧
      request.seen host s sink before = ((.error e, []), after)) ∨
    (∃ command text, (request.seen host s sink before).1 = (.ok {}, [informed command text])) ∨
    ∃ call between, request.seen host s sink before =
      let seen := Call.seen host s sink call between
      ((.ok seen.1.1, seen.1.2), seen.2) := by
  cases request with
  | help => exact Or.inr (Or.inl ⟨.help, usage, rfl⟩)
  | version => exact Or.inr (Or.inl ⟨.version, RibTree.version, rfl⟩)
  | add target parent ownsView => exact Or.inr (Or.inr ⟨.add target parent ownsView, before, rfl⟩)
  | link parent child => exact Or.inr (Or.inr ⟨.link parent child, before, rfl⟩)
  | scaffold path root =>
      obtain ⟨e | edges, after, hreads⟩ := host.exists_reads path root before
      · exact Or.inl ⟨path, root, e, after, rfl, hreads, seen_of_error s sink hreads⟩
      · exact Or.inr (Or.inr ⟨.scaffold edges, after, seen_of_ok s sink hreads⟩)

/-- An outline is read in one way only, as a host has one answer. -/
theorem seen_error_iff (host : Host (StateM σ)) (request : Request) (before : σ) (e : Failure) :
    (request.seen host s sink before).1.1 = .error e ↔
      ∃ path root after, request = .scaffold path root ∧
        host.Reads path root before (.error e) after := by
  constructor
  · intro h
    rcases seen_cases s sink host request before with
      ⟨path, root, e', after, hrequest, hreads, hseen⟩ | ⟨_, _, hseen⟩ | ⟨_, _, hseen⟩
    · rw [hseen] at h
      obtain rfl := Except.error.inj h
      exact ⟨path, root, after, hrequest, hreads⟩
    · rw [hseen] at h
      exact absurd h (by simp)
    · rw [hseen] at h
      exact absurd h (by simp)
  · rintro ⟨path, root, after, rfl, hreads⟩
    rw [seen_of_error s sink hreads]

theorem attributed_of_mem_seen (host : Host (StateM σ)) (request : Request) (before : σ)
    {r : StepReport} (hr : r ∈ (request.seen host s sink before).1.2) {e : Failure}
    (he : r.result = .error e) : e.isFatal = false ∧ e.kind ∈ r.command.failureKinds := by
  rcases seen_cases s sink host request before with
    ⟨path, root, e', after, hrequest, hreads, hseen⟩ | ⟨command, text, hseen⟩ |
      ⟨call, between, hseen⟩
  · simp [hseen] at hr
  · rw [hseen, List.mem_singleton] at hr
    rw [hr] at he
    exact absurd he (by simp [informed])
  · rw [hseen, Call.seen_eq] at hr
    obtain ⟨step, -, hreported⟩ :=
      exists_mem_of_forall₂ (reported_runSteps host s sink call.steps between) hr
    have hanswer := hreported.answer
    rw [he] at hanswer
    rw [hreported.command]
    exact hanswer.attributed

end Request

/-- Whatever the host does, a request comes to nothing just when its outline cannot be had, and
then nothing was reported, listed, created or written. Any other failure is that of a step and has
one of the kinds of its command. Nothing fails with a kind that belongs to the host. -/
theorem request_attributed (request : Request) (before : σ) :
    let seen := request.seen host s sink before
    let logged := request.logged host s sink before
    (execute host s sink request).run.run before = (seen.1.1, seen.2) ∧
    (execute host s sink request).run.run before = (logged.1.1, logged.2) ∧
    (∀ e, seen.1.1 = .error e ↔ ∃ path root after, request = .scaffold path root ∧
      host.Reads path root before (.error e) after) ∧
    (∀ e, seen.1.1 = .error e →
      (e.isFatal = true ∧ e.exitCode = 7 ∧ e.kind ∈ Failure.outlineKinds) ∧
      seen.1.2 = [] ∧ ∀ event ∈ logged.1.2, event.request.call = .read) ∧
    (∀ r ∈ seen.1.2, ∀ e, r.result = .error e →
      e.isFatal = false ∧ e.kind ∈ r.command.failureKinds) ∧
    ∀ e, (seen.1.1 = .error e ∨ ∃ r ∈ seen.1.2, r.result = .error e) →
      e.kind ∉ Failure.hostKinds := by
  intro seen logged
  have hfatal := Request.seen_error_iff s sink host request before
  have hsteps : ∀ r ∈ seen.1.2, ∀ e, r.result = .error e →
      e.isFatal = false ∧ e.kind ∈ r.command.failureKinds :=
    fun r hr e he => Request.attributed_of_mem_seen s sink host request before hr he
  refine ⟨Request.run_eq_seen s sink host request before,
    Request.run_eq_logged host s sink request before, hfatal, ?_, hsteps, ?_⟩
  · intro e he
    obtain ⟨path, root, after, rfl, hreads⟩ := (hfatal e).mp he
    obtain ⟨events, hevents, hlogged⟩ := Request.logged_of_error s sink hreads
    have hseen : seen = ((.error e, []), after) := Request.seen_of_error s sink hreads
    refine ⟨hreads.attributed, by rw [hseen], ?_⟩
    rwa [show logged.1.2 = events from congrArg (·.1.2) hlogged]
  · rintro e (he | ⟨r, hr, he⟩)
    · obtain ⟨path, root, after, -, hreads⟩ := (hfatal e).mp he
      exact Failure.hostKinds_disjoint _ hreads.attributed.2.2
    · exact r.command.hostKinds_disjoint _ (hsteps r hr e he).2

end

/-- A scaffold whose outline is missing, and an addition for which no template can be read. -/
theorem request_attributed_of_empty_store :
    let host := Store.host fun key => .error (.missing key)
    let s : Settings := { targetDirectory := ⟨"S"⟩ }
    let sink : StepReport → StateM Store Unit := fun _ => pure ()
    let absent := Request.scaffold ⟨"o"⟩ "A"
    let seen := (Request.add "B" (some "A") false).seen host s sink .empty
    let failure := Failure.fileNotCreated (s.roleFile "B" .builder)
      (TemplateFailure.missing (.component .builder false "swift")).message
    let report : StepReport := ⟨.createComponent, none, "B", .error failure⟩
    (absent.seen host s sink .empty).1.1 = .error (.outlineNotFound ⟨"o"⟩) ∧
      (∀ event ∈ (absent.logged host s sink .empty).1.2, event.request.call = .read) ∧
      report ∈ seen.1.2 ∧ failure.isFatal = false ∧ failure.kind ∈ report.command.failureKinds ∧
      failure.kind ∉ Failure.hostKinds := by
  intro host s sink absent seen failure report
  have habsent : (absent.seen host s sink .empty).1.1 = .error (.outlineNotFound ⟨"o"⟩) := rfl
  have hreport : report ∈ seen.1.2 := List.mem_cons_self
  obtain ⟨-, -, -, hfatal, -⟩ := request_attributed host s sink absent .empty
  obtain ⟨-, -, -, -, hsteps, hkinds⟩ :=
    request_attributed host s sink (.add "B" (some "A") false) .empty
  exact ⟨habsent, (hfatal _ habsent).2.2, hreport, (hsteps report hreport failure rfl).1,
    (hsteps report hreport failure rfl).2, hkinds failure (Or.inr ⟨report, hreport, rfl⟩)⟩

end RibTree
