import RibTree.Fault
import RibTree.Run

/-!
# Hosts that correspond

A step is built from the calls of its host, from values and from sequences of these. A relation of
computations that respects all three therefore carries over from the calls of two hosts to their
steps, whatever the hosts are.
-/

namespace RibTree

set_option autoImplicit false

/-- A relation of the computations of two monads that values and sequences respect. -/
structure Simulation (m n : Type → Type) [Monad m] [Monad n] where
  Rel : {α : Type} → m α → n α → Prop
  pure {α : Type} (a : α) : Rel (Pure.pure a) (Pure.pure a)
  bind {α β : Type} {x : m α} {y : n α} {f : α → m β} {g : α → n β} :
    Rel x y → (∀ a, Rel (f a) (g a)) → Rel (x >>= f) (y >>= g)

namespace Simulation

variable {m n : Type → Type} [Monad m] [Monad n] (R : Simulation m n)

structure Hosts (h : Host m) (k : Host n) : Prop where
  createFolders (path : Path) : R.Rel (h.createFolders path) (k.createFolders path)
  write (path : Path) (content : String) : R.Rel (h.write path content) (k.write path content)
  read (path : Path) : R.Rel (h.read path) (k.read path)
  isPresent (path : Path) : R.Rel (h.isPresent path) (k.isPresent path)
  isFolder (path : Path) : R.Rel (h.isFolder path) (k.isFolder path)
  sources (root : Path) (extension : String) :
    R.Rel (h.sources root extension) (k.sources root extension)
  template (key : TemplateKey) : R.Rel (h.template key) (k.template key)

variable {R} {α β ε : Type}

section Lawful

variable [LawfulMonad m] [LawfulMonad n]

theorem map {x : m α} {y : n α} (h : R.Rel x y) (f : α → β) : R.Rel (f <$> x) (f <$> y) := by
  rw [← bind_pure_comp, ← bind_pure_comp]
  exact R.bind h fun a => R.pure (f a)

theorem lift {x : m α} {y : n α} (h : R.Rel x y) :
    R.Rel (liftM x : ExceptT ε m α).run (liftM y : ExceptT ε n α).run :=
  map h Except.ok

theorem attempt {x : m (Except ε α)} {y : n (Except ε α)} (h : R.Rel x y)
    (meaning : ε → Failure) : R.Rel (attempt x meaning).run (RibTree.attempt y meaning).run :=
  map h (·.mapError meaning)

end Lawful

theorem run_bind {x : ExceptT ε m α} {y : ExceptT ε n α} (h : R.Rel x.run y.run)
    {f : α → ExceptT ε m β} {g : α → ExceptT ε n β}
    (hfg : ∀ a, R.Rel (f a).run (g a).run) : R.Rel (x >>= f).run (y >>= g).run := by
  refine R.bind (f := ExceptT.bindCont f) (g := ExceptT.bindCont g) h fun q => ?_
  cases q with
  | error e => exact R.pure (Except.error e)
  | ok a => exact hfg a

theorem run_pure (a : α) :
    R.Rel (Pure.pure a : ExceptT ε m α).run (Pure.pure a : ExceptT ε n α).run :=
  R.pure (Except.ok a)

theorem run_throw (e : ε) :
    R.Rel (throw e : ExceptT ε m α).run (throw e : ExceptT ε n α).run :=
  R.pure (Except.error e)

theorem run_forM {f : α → ExceptT Failure m Unit} {g : α → ExceptT Failure n Unit}
    (hfg : ∀ a, R.Rel (f a).run (g a).run) (l : List α) :
    R.Rel (l.forM f).run (l.forM g).run := by
  induction l with
  | nil => exact run_pure ()
  | cons a l ih => exact run_bind (hfg a) fun _ => ih

theorem foldlM {f : β → α → m β} {g : β → α → n β} (hfg : ∀ b a, R.Rel (f b a) (g b a))
    (l : List α) (b : β) : R.Rel (l.foldlM f b) (l.foldlM g b) := by
  induction l generalizing b with
  | nil => exact R.pure b
  | cons a l ih =>
      rw [List.foldlM_cons, List.foldlM_cons]
      exact R.bind (hfg b a) ih

section Steps

variable [LawfulMonad m] [LawfulMonad n]

theorem run_mapM {f : α → ExceptT Failure m β} {g : α → ExceptT Failure n β}
    (hfg : ∀ a, R.Rel (f a).run (g a).run) (l : List α) :
    R.Rel (l.mapM f).run (l.mapM g).run := by
  induction l with
  | nil => exact run_pure []
  | cons a l ih =>
      rw [List.mapM_cons, List.mapM_cons]
      exact run_bind (hfg a) fun b => run_bind ih fun bs => run_pure (b :: bs)

variable {h : Host m} {k : Host n} (hosts : R.Hosts h k) (s : Settings)
include hosts

theorem renderFile (path : Path) (key : TemplateKey) (names : Placeholders) :
    R.Rel (Step.renderFile h path key names).run (Step.renderFile k path key names).run :=
  run_bind (attempt (hosts.template key) _) fun _ => run_pure _

theorem ensureFolder (folder : Path) :
    R.Rel (Step.ensureFolder h folder).run (Step.ensureFolder k folder).run := by
  apply run_bind (lift (hosts.isFolder folder))
  intro there
  cases there with
  | true => exact run_pure ()
  | false => exact attempt (hosts.createFolders folder) _

theorem writeFile (file : SourceFile) :
    R.Rel (Step.writeFile h file).run (Step.writeFile k file).run :=
  attempt (hosts.write file.path file.content) _

theorem createComponent (target : String) (ownsView : Bool) :
    R.Rel (Step.createComponent h s target ownsView).run
      (Step.createComponent k s target ownsView).run := by
  apply run_bind (run_mapM (fun role => renderFile hosts _ _ _) _)
  intro files
  apply run_bind (ensureFolder hosts _)
  intro _
  exact run_bind (run_forM (writeFile hosts) files) fun _ => run_pure _

theorem createExtension (parent child : String) :
    R.Rel (Step.createExtension h s parent child).run
      (Step.createExtension k s parent child).run := by
  apply run_bind (renderFile hosts _ _ _)
  intro file
  apply run_bind (ensureFolder hosts _)
  intro _
  exact run_bind (writeFile hosts file) fun _ => run_pure _

theorem addDependency (path : Path) (parent child : String) :
    R.Rel (Step.addDependency h s path parent child).run
      (Step.addDependency k s path parent child).run := by
  apply run_bind (attempt (hosts.read path) _)
  intro source
  cases Declaration.isDeclared child source with
  | true => exact run_pure _
  | false =>
      cases Declaration.insertAbove s.dependencyAnchor (Declaration.statement child) source with
      | none => exact run_throw _
      | some updated => exact run_bind (attempt (hosts.write path updated) _) fun _ => run_pure _

theorem perform (listing : List Path) (step : Step) :
    R.Rel (step.perform h s listing).run (step.perform k s listing).run := by
  cases step with
  | component target ownsView =>
      simp only [Step.perform]
      split
      · exact createComponent hosts s target ownsView
      · exact run_pure _
  | extension parent child =>
      simp only [Step.perform]
      split
      · exact createExtension hosts s parent child
      · exact run_pure _
  | dependency parent child =>
      simp only [Step.perform]
      split
      · exact run_throw _
      · exact addDependency hosts s _ parent child

theorem run (step : Step) : R.Rel (step.run h s) (step.run k s) :=
  R.bind (run_bind (attempt (hosts.sources s.targetDirectory s.fileExtension) _)
    fun listing => perform hosts s listing step) fun _ => R.pure _

section Runs

variable {sink : StepReport → m Unit} {outlet : StepReport → n Unit}
variable (hsinks : ∀ report, R.Rel (sink report) (outlet report))
include hsinks

theorem reported (total : Summary) (step : Step) :
    R.Rel (do let report ← step.run h s; sink report; return total.record report)
      (do let report ← step.run k s; outlet report; return total.record report) :=
  R.bind (run hosts s step) fun report => R.bind (hsinks report) fun _ => R.pure _

/-- Runs on corresponding hosts correspond if their sinks do. -/
theorem runSteps (steps : List Step) :
    R.Rel (runSteps h s sink steps) (RibTree.runSteps k s outlet steps) :=
  foldlM (reported hosts s hsinks) steps {}

theorem scaffold (edges : List Edge) :
    R.Rel (scaffold h s sink edges) (RibTree.scaffold k s outlet edges) :=
  foldlM (fun total edge => foldlM (reported hosts s hsinks) (Step.forEdge edge) total) edges {}

end Runs

theorem compileFile (path : Path) (root : String) :
    R.Rel (compileFile h path root).run (RibTree.compileFile k path root).run := by
  apply run_bind (lift (hosts.isPresent path))
  intro there
  cases there with
  | false =>
      refine run_bind (run_throw (α := PUnit) _) fun _ => ?_
      exact run_bind (attempt (hosts.read path) _) fun _ => attempt (R.pure _) _
  | true => exact run_bind (attempt (hosts.read path) _) fun _ => attempt (R.pure _) _

/-- What a request comes to on one host corresponds to what it comes to on the other. -/
theorem execute {sink : StepReport → m Unit} {outlet : StepReport → n Unit}
    (hsinks : ∀ report, R.Rel (sink report) (outlet report)) (request : Request) :
    R.Rel (execute h s sink request).run (RibTree.execute k s outlet request).run := by
  cases request with
  | help | version => exact lift (R.bind (hsinks _) fun _ => R.pure _)
  | add target parent ownsView =>
      exact lift (runSteps hosts s hsinks (Step.forAdd target parent ownsView))
  | link parent child => exact lift (runSteps hosts s hsinks (Step.forLink parent child))
  | scaffold outline parent =>
      exact run_bind (compileFile hosts outline parent) fun edges =>
        lift (scaffold hosts s hsinks edges)

end Steps

/-- A computation corresponds to itself as a part of more. -/
def ofLift (m n : Type → Type) [Monad m] [Monad n] [MonadLift n m] [LawfulMonadLift n m] :
    Simulation m n where
  Rel x y := x = liftM y
  pure a := (liftM_pure a).symm
  bind := by
    rintro α β x y f g rfl hfg
    rw [liftM_bind]
    exact bind_congr hfg

/-- A computation behind faults corresponds to one without them if there are none. -/
def unstruck (m : Type → Type) [Monad m] [LawfulMonad m] :
    Simulation (StateT (List Fault) m) m where
  Rel x y := x.run [] = (·, []) <$> y
  pure a := by simp
  bind := by
    intro α β x y f g hxy hfg
    rw [StateT.run_bind, hxy]
    simp [hfg]

theorem hosts_withFaults {m : Type → Type} [Monad m] [LawfulMonad m] (host : Host m) :
    (unstruck m).Hosts host.withFaults host := by
  have hguard : ∀ {ε α : Type} (call : HostCall) (path : Path) (failure : String → ε)
      (action : m (Except ε α)),
      (Fault.guard call path failure action).run [] = (·, []) <$> action := by
    intro ε α call path failure action
    simp [Fault.guard]
  have hlift : ∀ {α : Type} (x : m α),
      (liftM x : StateT (List Fault) m α).run [] = (·, []) <$> x := by
    intro α x
    simp
  exact
    { createFolders := fun _ => hguard ..
      write := fun _ _ => hguard ..
      read := fun _ => hguard ..
      isPresent := fun _ => hlift _
      isFolder := fun _ => hlift _
      sources := fun _ _ => hguard ..
      template := fun _ => hguard .. }

end Simulation

/-- A host that is seen from a computation that does more is the same host. -/
theorem Simulation.hosts_lift {m n : Type → Type} [Monad m] [Monad n] [MonadLift n m]
    [LawfulMonadLift n m] (host : Host n) :
    (Simulation.ofLift m n).Hosts (host.lift : Host m) host :=
  { createFolders := fun _ => rfl
    write := fun _ _ => rfl
    read := fun _ => rfl
    isPresent := fun _ => rfl
    isFolder := fun _ => rfl
    sources := fun _ _ => rfl
    template := fun _ => rfl }

section

variable {m n : Type → Type} [Monad m] [Monad n] [LawfulMonad m] [LawfulMonad n] [MonadLift n m]
variable [LawfulMonadLift n m] (host : Host n)

theorem Step.run_lift (s : Settings) (step : Step) :
    step.run (host.lift : Host m) s = liftM (step.run host s) :=
  Simulation.run (Simulation.hosts_lift host) s step

theorem compileFile_lift (path : Path) (root : String) :
    (compileFile (host.lift : Host m) path root).run = liftM (compileFile host path root).run :=
  Simulation.compileFile (Simulation.hosts_lift host) path root

end

/-- Behind no faults, a step is what it is without them. -/
theorem Step.run_withFaults {m : Type → Type} [Monad m] [LawfulMonad m] (host : Host m)
    (s : Settings) (step : Step) :
    (step.run host.withFaults s).run [] = (·, []) <$> step.run host s :=
  Simulation.run (Simulation.hosts_withFaults host) s step

end RibTree
