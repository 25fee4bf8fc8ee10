import RibTree.Proofs.Console.Settings
import RibTree.Proofs.Console.Task
import RibTree.Proofs.Run.Attribution

/-!
# How a command line ends

A command line that can be read meets an obstacle, which is a matter of the settings, the request
or the outline in this order, or has a task ready. With an obstacle nothing is done, and the
problem is all that is printed. A task is finished, and where a line is refused the exit code says
so. Three equations, for an obstacle and for a task before an output that takes lines and one that
does not, say all about the end of a command line.
-/

namespace RibTree

set_option autoImplicit false

/-- The task of a request for which no outline has to be read. -/
def Request.task? : Request → Option Task
  | help => some ⟨none, .tell .help usage⟩
  | version => some ⟨none, .tell .version RibTree.version⟩
  | add target parent ownsView => some ⟨none, .make (.add target parent ownsView)⟩
  | link parent child => some ⟨none, .make (.link parent child)⟩
  | scaffold .. => none

namespace Request

def isScaffold : Request → Bool
  | scaffold .. => true
  | _ => false

variable {request : Request} {task : Task} (h : request.task? = some task)
include h

theorem isScaffold_eq_false : request.isScaffold = false := by
  cases request with
  | scaffold => cases h
  | help | version | add | link => rfl

theorem title?_eq_none : task.title? = none := by
  cases request with
  | scaffold => cases h
  | help | version | add | link => rw [← Option.some.inj h]

end Request

def Task.ofOutline (outline : Path) (parent : String) (edges : List Edge) : Task where
  title? := some s!"Scaffolding {edges.length} RIB(s) under {parent} from {outline.text}"
  job := .make (.scaffold edges)

theorem Host.Reads.files_eq {σ φ : Type} {host : Host (StateM σ)} {path : Path} {root : String}
    {before after : σ} {q : Except Failure (List Edge)} (h : host.Reads path root before q after)
    {files : σ → φ} (hpresent : ∀ s, files ((host.isPresent path).run s).2 = files s)
    (hread : ∀ s, files ((host.read path).run s).2 = files s) : files after = files before := by
  have hasked : ∀ {present between}, (host.isPresent path).run before = (present, between) →
      files between = files before := by
    intro present between hrun
    rw [← hpresent before, hrun]
  have hanswered : ∀ {answer between}, (host.read path).run between = (answer, after) →
      files after = files between := by
    intro answer between hrun
    rw [← hread between, hrun]
  cases h with
  | absent hrun => exact hasked hrun
  | unreadable hrun hanswer | malformed hrun hanswer | compiled hrun hanswer =>
      exact (hanswered hanswer).trans (hasked hrun)

namespace CommandLine

def requestOf (tokens : List String) : Except ArgumentFailure Request := do
  (← Arguments.parse tokens).request

def scaffolds (tokens : List String) : Bool :=
  match requestOf tokens with
  | .ok request => request.isScaffold
  | .error _ => false

section

variable {σ : Type} (machine : Machine (StateM σ)) (asked : Option Path) (tokens : List String)
variable (before : σ)

/-- What keeps a command line from its task, with its exit code and the state that is left. -/
inductive Obstacle : Nat → Problem → σ → Prop
  | settings {e : Problem} {after : σ} :
      machine.Loads asked before (.error e) after → Obstacle 1 e after
  | request {s : Settings} {e : ArgumentFailure} {after : σ} :
      machine.Loads asked before (.ok s) after → requestOf tokens = .error e →
      Obstacle 2 (.failure (.argument e)) after
  | outline {s : Settings} {between after : σ} {outline : Path} {parent : String} {e : Failure} :
      machine.Loads asked before (.ok s) between →
      requestOf tokens = .ok (.scaffold outline parent) →
      (machine.host (templateSource s)).Reads outline parent between (.error e) after →
      Obstacle 7 (.failure e) after

/-- What is ready to be done, and the state in which it begins. -/
inductive Ready : Settings → Task → σ → Prop
  | request {s : Settings} {request : Request} {task : Task} {ready : σ} :
      machine.Loads asked before (.ok s) ready →
      requestOf tokens = .ok request → request.task? = some task → Ready s task ready
  | outline {s : Settings} {between ready : σ} {outline : Path} {parent : String}
      {edges : List Edge} :
      machine.Loads asked before (.ok s) between →
      requestOf tokens = .ok (.scaffold outline parent) →
      (machine.host (templateSource s)).Reads outline parent between (.ok edges) ready →
      Ready s (.ofOutline outline parent edges) ready

theorem obstacle_or_ready :
    (∃ code e after, Obstacle machine asked tokens before code e after) ∨
      ∃ s task ready, Ready machine asked tokens before s task ready := by
  obtain ⟨e | s, between, hsettings⟩ := machine.exists_loads asked before
  · exact Or.inl ⟨1, e, between, .settings hsettings⟩
  · rcases hrequest : requestOf tokens with e | request
    · exact Or.inl ⟨2, _, between, .request hsettings hrequest⟩
    · cases request with
      | scaffold outline parent =>
          obtain ⟨e | edges, after, hreads⟩ :=
            (machine.host (templateSource s)).exists_reads outline parent between
          · exact Or.inl ⟨7, _, after, .outline hsettings hrequest hreads⟩
          · exact Or.inr ⟨s, _, after, .outline hsettings hrequest hreads⟩
      | help | version | add | link =>
          exact Or.inr ⟨s, _, between, .request hsettings hrequest rfl⟩

variable {machine asked tokens before}

theorem Ready.isSome_title {s : Settings} {task : Task} {ready : σ}
    (h : Ready machine asked tokens before s task ready) :
    task.title?.isSome = scaffolds tokens := by
  cases h with
  | outline _ hrequest _ =>
      rw [scaffolds, hrequest]
      rfl
  | request _ hrequest htask =>
      rw [scaffolds, hrequest, Request.title?_eq_none htask]
      exact (Request.isScaffold_eq_false htask).symm

theorem Obstacle.exitCode {code : Nat} {e : Problem} {after : σ}
    (h : Obstacle machine asked tokens before code e after) : e.exitCode = code := by
  cases h with
  | settings hsettings => exact exitCode_of_loads hsettings
  | request => rfl
  | outline _ _ hreads => exact hreads.attributed.2.1

section

variable {φ : Type} {files : σ → φ} (hlooks : machine.LooksAt files)
include hlooks

theorem files_eq_of_loads {q : Except Problem Settings} {after : σ}
    (h : machine.Loads asked before q after) : files after = files before := by
  rw [← hlooks.loadSettings asked before, run_loadSettings_of_loads h]

theorem files_eq_of_reads {s : Settings} {outline : Path} {parent : String}
    {q : Except Failure (List Edge)} {between after : σ}
    (hload : machine.Loads asked before (.ok s) between)
    (hreads : (machine.host (templateSource s)).Reads outline parent between q after) :
    files after = files before :=
  (hreads.files_eq (hlooks.isPresent _ _) (hlooks.read _ _)).trans
    (files_eq_of_loads hlooks hload)

theorem Obstacle.files_eq {code : Nat} {e : Problem} {after : σ}
    (h : Obstacle machine asked tokens before code e after) : files after = files before := by
  cases h with
  | settings hload | request hload => exact files_eq_of_loads hlooks hload
  | outline hload _ hreads => exact files_eq_of_reads hlooks hload hreads

theorem Ready.files_eq {s : Settings} {task : Task} {ready : σ}
    (h : Ready machine asked tokens before s task ready) : files ready = files before := by
  cases h with
  | request hload => exact files_eq_of_loads hlooks hload
  | outline hload _ hreads => exact files_eq_of_reads hlooks hload hreads

end

end

/-! ### What an obstacle or a task comes to -/

section

variable {m : Type → Type} [Monad m] [LawfulMonad m] (machine : Machine m) (display : Display)
variable (s : Settings)

theorem runPrinting_map {α β : Type} (f : α → β)
    (x : Host (StateT (Option Problem) m) → (StepReport → StateT (Option Problem) m Unit) →
      StateT (Option Problem) m α) :
    runPrinting machine display s (fun host sink => f <$> x host sink) =
      f <$> runPrinting machine display s x := by
  rw [runPrinting, runPrinting, map_bind, StateT.run_map, liftM_map, bind_map_left]
  refine bind_congr fun ⟨result, refusal⟩ => ?_
  cases refusal with
  | none => exact (map_pure ..).symm
  | some e =>
      apply ExceptT.ext
      simp

theorem finish_eq_of_untitled {task : Task} (htitle : task.title? = none) :
    finish machine display s task = do
      let total ← runPrinting machine display s fun host sink => task.job.run host s sink
      if 1 < total.steps then print machine (display.summary total)
      return total.exitCode := by
  have hheading : print machine (task.heading display) = pure () := by
    rw [Task.heading, htitle]
    rfl
  rw [finish, hheading, pure_bind]
  refine bind_congr fun total => ?_
  rw [Task.totals, htitle]
  by_cases hmany : 1 < total.steps
  · rw [if_pos hmany, if_pos (Or.inr hmany)]
  · have hnone : print machine none = pure () := rfl
    rw [if_neg hmany, if_neg (by simpa using hmany), hnone, pure_bind]

/-- A request without an outline is its task. -/
theorem perform_eq_finish {request : Request} {task : Task} (h : request.task? = some task) :
    perform machine display s request = finish machine display s task := by
  have hexecute : ∃ conclude : Except Failure Summary → ExceptT Problem m Nat,
      (perform machine display s request = do
        let total ← runPrinting machine display s fun host sink =>
          Except.ok <$> task.job.run host s sink
        conclude total) ∧
      ∀ total, conclude (.ok total) = do
        if 1 < total.steps then print machine (display.summary total)
        return total.exitCode := by
    cases request with
    | scaffold => cases h
    | help | version | add | link =>
        obtain rfl := Option.some.inj h
        exact ⟨_, rfl, fun _ => rfl⟩
  obtain ⟨conclude, hperform, hconclude⟩ := hexecute
  rw [hperform, runPrinting_map, bind_map_left,
    finish_eq_of_untitled machine display s (Request.title?_eq_none h)]
  exact bind_congr hconclude

end

section

variable {σ : Type} {machine : Machine (StateM σ)} {asked : Option Path} {tokens : List String}
variable {before after : σ} {o : Output} (display : Display)

theorem run_loadSettings {q : Except Problem Settings}
    (h : machine.Loads asked before q after) (o : Output) :
    ((loadSettings machine.withOutput asked).run.run o).run before = ((q, o), after) := by
  rw [machine.loadSettings_withOutput]
  change (((((loadSettings machine asked).run.run before).1, o),
    ((loadSettings machine asked).run.run before).2) : _ × _) = _
  rw [run_loadSettings_of_loads h]

theorem run_adapt_compileFile {templates : TemplateSource} {outline : Path} {parent : String}
    {q : Except Failure (List Edge)}
    (h : (machine.host templates).Reads outline parent before q after) (o : Output) :
    ((ExceptT.adapt Problem.failure (compileFile (machine.withOutput.host templates) outline
      parent)).run.run o).run before = ((q.mapError Problem.failure, o), after) := by
  exact congrArg (fun ended : (Except Failure (List Edge) × Output) × σ =>
    ((ended.1.1.mapError Problem.failure, ended.1.2), ended.2)) (run_compileFile_lift h o)

theorem work_eq (flags : Flags) :
    work machine.withOutput display flags tokens =
      loadSettings machine.withOutput flags.settings >>= fun s =>
        match requestOf tokens with
        | .error e => throw (.failure (.argument e))
        | .ok request => perform machine.withOutput display s request :=
  rfl

theorem run_work_of_obstacle {flags : Flags} {code : Nat} {e : Problem}
    (h : Obstacle machine flags.settings tokens before code e after) (o : Output) :
    ((work machine.withOutput display flags tokens).run.run o).run before =
      ((.error e, o), after) := by
  rw [work_eq]
  cases h with
  | settings hload => exact run_bind_of_error (run_loadSettings hload o)
  | request hload hrequest =>
      refine (run_bind_of_ok (run_loadSettings hload o)).trans ?_
      rw [hrequest]
      rfl
  | outline hload hrequest hreads =>
      refine (run_bind_of_ok (run_loadSettings hload o)).trans ?_
      rw [hrequest]
      exact run_bind_of_error (run_adapt_compileFile hreads o)

theorem run_work_of_ready {flags : Flags} {s : Settings} {task : Task} {ready : σ}
    (h : Ready machine flags.settings tokens before s task ready) (o : Output) :
    ((work machine.withOutput display flags tokens).run.run o).run before =
      ((finish machine.withOutput display s task).run.run o).run ready := by
  rw [work_eq]
  cases h with
  | request hload hrequest htask =>
      refine (run_bind_of_ok (run_loadSettings hload o)).trans ?_
      rw [hrequest, ← perform_eq_finish machine.withOutput display s htask]
  | outline hload hrequest hreads =>
      refine (run_bind_of_ok (run_loadSettings hload o)).trans ?_
      rw [hrequest]
      exact run_bind_of_ok (run_adapt_compileFile hreads o)

end

/-! ### Command lines -/

section

variable {σ : Type} (machine : Machine (StateM σ)) (around : Surroundings) (words : List String)

structure Ended (σ : Type) where
  exitCode : Nat
  lines : List String
  after : σ

def ended (isFull : Bool) (before : σ) : Ended σ :=
  let left := ((run machine.withOutput around words).run { isFull }).run before
  ⟨left.1.1.exitCode, left.1.2.lines, left.2⟩

/-- The words of the command line can be read, as these flags and the words of a request. -/
def Accepts (before : σ) (flags : Flags) (tokens : List String) : Prop :=
  Flags.parse words (((loadVariables machine).run before).1 Flags.noColorVariable) =
    .ok (flags, tokens)

/-- The state in which a command line begins its work, after the variables. -/
def begun (before : σ) : σ := ((loadVariables machine).run before).2

variable {machine words} {before after : σ} {flags : Flags} {tokens : List String}

theorem run_of_accepts (haccepts : Accepts machine words before flags tokens) (o : Output) :
    let display := Display.ofFlags flags around.outputIsTerminal
    let worked := ((work machine.withOutput display flags tokens).run.run o).run
      (begun machine before)
    ((run machine.withOutput around words).run o).run before =
      match worked.1.1 with
      | .ok code => ((⟨code, ""⟩, worked.1.2), worked.2)
      | .error e =>
          ((fail machine.withOutput display around flags.verbose e).run worked.1.2).run
            worked.2 := by
  intro display worked
  have hread : ∀ {α β : Type} (x : StateM σ α) (f : α → StateT Output (StateM σ) β),
      ((liftM x >>= f).run o).run before =
        ((f (x.run before).1).run o).run (x.run before).2 := fun _ _ => rfl
  have hworked : ∀ {β : Type} (f : Except Problem Nat → StateT Output (StateM σ) β),
      (((work machine.withOutput display flags tokens).run >>= f).run o).run
        (begun machine before) = ((f worked.1.1).run worked.1.2).run worked.2 := fun _ => rfl
  rw [run, machine.loadVariables_withOutput, hread, haccepts]
  refine (hworked _).trans ?_
  cases worked.1.1 <;> rfl

variable (machine) in
theorem run_fail (display : Display) (verbose : Bool) (e : Problem) (o : Output) (before : σ) :
    ∃ errors log, ((fail machine.withOutput display around verbose e).run o).run before =
      ((⟨e.exitCode, errors⟩,
        ⟨o.lines ++ if o.isFull then [] else (display.problem e).toList, log, o.isFull⟩),
        before) := by
  have hbind : ∀ {α β : Type} {x : StateT Output (StateM σ) α} {f : α → StateT Output (StateM σ) β}
      {o : Output} {ended : α × Output}, (x.run o).run before = (ended, before) →
      ((x >>= f).run o).run before = ((f ended.1).run ended.2).run before := by
    intro α β x f o ended h
    change ((f ((x.run o).run before).1.1).run ((x.run o).run before).1.2).run
      ((x.run o).run before).2 = _
    rw [h]
  have hnoted := run_note machine display [LogLine.ofProblem e] o before
  have htaken := run_print machine (display.problem e)
    (o.note ([LogLine.ofProblem e].filter (·.isShown display.quiet))) before
  rw [fail, hbind hnoted, hbind htaken, Output.snd_take]
  exact ⟨_, _, rfl⟩

theorem ended_of_ok (haccepts : Accepts machine words before flags tokens) {isFull : Bool}
    {code : Nat} {o : Output}
    (h : ((work machine.withOutput (.ofFlags flags around.outputIsTerminal) flags tokens).run.run
      { isFull }).run (begun machine before) = ((.ok code, o), after)) :
    ended machine around words isFull before = ⟨code, o.lines, after⟩ := by
  have hrun := run_of_accepts around haccepts { isFull }
  dsimp only at hrun
  rw [h] at hrun
  rw [ended, hrun]

theorem ended_of_error (haccepts : Accepts machine words before flags tokens) {isFull : Bool}
    {e : Problem} {o : Output}
    (h : ((work machine.withOutput (.ofFlags flags around.outputIsTerminal) flags tokens).run.run
      { isFull }).run (begun machine before) = ((.error e, o), after)) :
    ended machine around words isFull before =
      ⟨e.exitCode,
        o.lines ++ if o.isFull then []
          else ((Display.ofFlags flags around.outputIsTerminal).problem e).toList, after⟩ := by
  have hrun := run_of_accepts around haccepts { isFull }
  dsimp only at hrun
  rw [h] at hrun
  obtain ⟨errors, log, hfail⟩ := run_fail machine around
    (.ofFlags flags around.outputIsTerminal) flags.verbose e o after
  rw [ended, hrun]
  dsimp only
  rw [hfail]

theorem ended_of_obstacle (haccepts : Accepts machine words before flags tokens) {code : Nat}
    {e : Problem} (h : Obstacle machine flags.settings tokens (begun machine before) code e after)
    (isFull : Bool) :
    ended machine around words isFull before =
      ⟨code, if isFull then []
        else ((Display.ofFlags flags around.outputIsTerminal).problem e).toList, after⟩ := by
  rw [ended_of_error around haccepts (run_work_of_obstacle _ h _), h.exitCode, List.nil_append]

variable {s : Settings} {task : Task} {ready : σ}
variable (haccepts : Accepts machine words before flags tokens)
  (hready : Ready machine flags.settings tokens (begun machine before) s task ready)
include haccepts hready

theorem ended_of_ready :
    let seen := task.job.seen (machine.host (templateSource s)) s ready
    ended machine around words false before =
      ⟨seen.1.1.exitCode,
        task.lines (.ofFlags flags around.outputIsTerminal) seen.1.1 seen.1.2, seen.2⟩ := by
  intro seen
  obtain ⟨log, hfinish⟩ := run_finish_of_free machine (.ofFlags flags around.outputIsTerminal) s
    task (o := { isFull := false }) rfl ready
  rw [ended_of_ok around haccepts ((run_work_of_ready _ hready _).trans hfinish), List.nil_append]

theorem ended_of_announced {line : String}
    (hheading : task.heading (.ofFlags flags around.outputIsTerminal) = some line) :
    ended machine around words true before = ⟨1, [], ready⟩ := by
  have hfinish := run_finish_of_announced machine (.ofFlags flags around.outputIsTerminal) s task
    (o := { isFull := true }) rfl hheading ready
  rw [ended_of_error around haccepts ((run_work_of_ready _ hready _).trans hfinish)]
  rfl

theorem ended_of_silent
    (hheading : task.heading (.ofFlags flags around.outputIsTerminal) = none) :
    let seen := task.job.seen (machine.host (templateSource s)) s ready
    ended machine around words true before =
      ⟨if task.lines (.ofFlags flags around.outputIsTerminal) seen.1.1 seen.1.2 = []
        then seen.1.1.exitCode else 1, [], seen.2⟩ := by
  intro seen
  obtain ⟨log, hfinish⟩ := run_finish_of_silent machine (.ofFlags flags around.outputIsTerminal) s
    task (o := { isFull := true }) rfl hheading ready
  have hworked := (run_work_of_ready _ hready _).trans hfinish
  split at hworked
  · rename_i hlines
    rw [ended_of_ok around haccepts hworked, if_pos hlines]
  · rename_i hlines
    rw [ended_of_error around haccepts hworked, if_neg hlines]
    rfl

end

end CommandLine

end RibTree
