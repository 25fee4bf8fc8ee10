import RibTree.Proofs.Fault.Computation
import RibTree.Proofs.Host.Simulation
import RibTree.Proofs.Store.Update

/-!
# Recorded runs

A host can keep a record of its calls, each with whether it failed. The record changes nothing in a
run, and it accounts for the store: the calls that did not fail, done once more to the store before
the run, lead to the store after it.
-/

namespace RibTree

set_option autoImplicit false

/-- A call that can fail, with all that it is about. -/
inductive HostRequest
  | createFolders (path : Path)
  | write (path : Path) (content : String)
  | read (path : Path)
  | sources (root : Path) (extension : String)
  | template (key : TemplateKey)
  deriving DecidableEq, Repr

def HostRequest.call : HostRequest → HostCall
  | createFolders .. => .createFolders
  | write .. => .write
  | read .. => .read
  | sources .. => .sources
  | template .. => .template

structure HostEvent where
  request : HostRequest
  failed : Bool
  deriving DecidableEq, Repr

namespace HostEvent

def change (e : HostEvent) (store : Store) : Store :=
  if e.failed then store
  else
    match e.request with
    | .createFolders path => store.addFolders path.parts
    | .write path content => store.overwrite ⟨path, content⟩
    | .read _ | .sources _ _ | .template _ => store

def replay (events : List HostEvent) (store : Store) : Store :=
  events.foldl (fun store e => e.change store) store

/-- A call that creates or writes nothing changes nothing. -/
theorem change_of_call {e : HostEvent} (hfolders : e.request.call ≠ .createFolders)
    (hwrite : e.request.call ≠ .write) (store : Store) : e.change store = store := by
  obtain ⟨request, failed⟩ := e
  cases request with
  | createFolders path => exact absurd rfl hfolders
  | write path content => exact absurd rfl hwrite
  | read | sources | template => exact ite_self _

theorem files_change {e : HostEvent} (hwrite : e.request.call ≠ .write) (store : Store) :
    (e.change store).files = store.files ∧ (e.change store).writes = store.writes := by
  obtain ⟨request, failed⟩ := e
  cases request with
  | createFolders path => cases failed <;> exact ⟨rfl, rfl⟩
  | write path content => exact absurd rfl hwrite
  | read | sources | template => cases failed <;> exact ⟨rfl, rfl⟩

theorem folders_change {e : HostEvent} (hfolders : e.request.call ≠ .createFolders)
    (store : Store) : (e.change store).folders = store.folders := by
  obtain ⟨request, failed⟩ := e
  cases request with
  | createFolders path => exact absurd rfl hfolders
  | write | read | sources | template => cases failed <;> rfl

theorem replay_cons (e : HostEvent) (events : List HostEvent) (store : Store) :
    replay (e :: events) store = replay events (e.change store) := rfl

theorem replay_of_forall {events : List HostEvent}
    (h : ∀ e ∈ events, e.request.call ≠ .createFolders ∧ e.request.call ≠ .write)
    (store : Store) : replay events store = store := by
  induction events generalizing store with
  | nil => rfl
  | cons e events ih =>
      obtain ⟨hfirst, hrest⟩ := List.forall_mem_cons.mp h
      rw [replay_cons, change_of_call hfirst.1 hfirst.2, ih hrest]

theorem files_replay {events : List HostEvent} (h : ∀ e ∈ events, e.request.call ≠ .write)
    (store : Store) :
    (replay events store).files = store.files ∧ (replay events store).writes = store.writes := by
  induction events generalizing store with
  | nil => exact ⟨rfl, rfl⟩
  | cons e events ih =>
      obtain ⟨hfirst, hrest⟩ := List.forall_mem_cons.mp h
      obtain ⟨hfiles, hwrites⟩ := files_change hfirst store
      rw [replay_cons, (ih hrest _).1, (ih hrest _).2, hfiles, hwrites]
      exact ⟨rfl, rfl⟩

theorem folders_replay {events : List HostEvent}
    (h : ∀ e ∈ events, e.request.call ≠ .createFolders) (store : Store) :
    (replay events store).folders = store.folders := by
  induction events generalizing store with
  | nil => rfl
  | cons e events ih =>
      obtain ⟨hfirst, hrest⟩ := List.forall_mem_cons.mp h
      rw [replay_cons, ih hrest, folders_change hfirst]

theorem replay_append (events later : List HostEvent) (store : Store) :
    replay (events ++ later) store = replay later (replay events store) :=
  List.foldl_append

end HostEvent

namespace Host

variable {m : Type → Type} [Monad m]

def recording {ε α : Type} (request : HostRequest) (action : m (Except ε α)) :
    StateT (List HostEvent) m (Except ε α) := do
  let q ← action
  modify (· ++ [⟨request, !q.isOk⟩])
  return q

/-- The host with a record of its calls. Questions about what is there are not recorded. -/
def recorded (host : Host m) : Host (StateT (List HostEvent) m) where
  createFolders path := recording (.createFolders path) (host.createFolders path)
  write path content := recording (.write path content) (host.write path content)
  read path := recording (.read path) (host.read path)
  isPresent path := liftM (host.isPresent path)
  isFolder path := liftM (host.isFolder path)
  sources root extension := recording (.sources root extension) (host.sources root extension)
  template key := recording (.template key) (host.template key)

end Host

namespace Simulation

/-- A recorded computation without its record. -/
def unrecorded (m : Type → Type) [Monad m] [LawfulMonad m] :
    Simulation (StateT (List HostEvent) m) m where
  Rel x y := ∀ log, Prod.fst <$> x.run log = y
  pure a := by simp
  bind := by
    intro α β x y f g hxy hfg log
    rw [StateT.run_bind, map_bind, ← hxy log, bind_map_left]
    exact bind_congr fun q => hfg q.1 q.2

theorem hosts_recorded {m : Type → Type} [Monad m] [LawfulMonad m] (host : Host m) :
    (unrecorded m).Hosts host.recorded host := by
  have hcall : ∀ {ε α : Type} (request : HostRequest) (action : m (Except ε α)) (log),
      Prod.fst <$> (Host.recording request action).run log = action := by
    intro ε α request action log
    simp [Host.recording]
  have hquestion : ∀ {α : Type} (x : m α) (log : List HostEvent),
      Prod.fst <$> (liftM x : StateT (List HostEvent) m α).run log = x := by
    intro α x log
    simp
  exact
    { createFolders := fun _ => hcall _ _
      write := fun _ _ => hcall _ _
      read := fun _ => hcall _ _
      isPresent := fun _ => hquestion _
      isFolder := fun _ => hquestion _
      sources := fun _ _ => hcall _ _
      template := fun _ => hcall _ _ }

end Simulation

/-- Computations over a store behind faults, with a record of their calls. -/
abbrev Recorded : Type → Type := StateT (List HostEvent) (StateT (List Fault) (StateM Store))

/-- How a recorded computation ends. -/
structure Ending (α : Type) where
  result : α
  log : List HostEvent
  left : List Fault
  after : Store

namespace Recorded

variable {α β : Type}

def ending (x : Recorded α) (log : List HostEvent) (faults : List Fault) (store : Store) :
    Ending α :=
  let ended := ((x.run log).run faults).run store
  ⟨ended.1.1.1, ended.1.1.2, ended.1.2, ended.2⟩

theorem ending_bind (x : Recorded α) (f : α → Recorded β) (log : List HostEvent)
    (faults : List Fault) (store : Store) :
    ending (x >>= f) log faults store =
      let first := ending x log faults store
      ending (f first.result) first.log first.left first.after := rfl

/-- The store that a computation leaves is the one that its record accounts for. -/
def Accounted (x : Recorded α) : Prop :=
  ∀ log faults store, ∃ events, (ending x log faults store).log = log ++ events ∧
    (ending x log faults store).after = HostEvent.replay events store

theorem accounted_pure (a : α) : Accounted (pure a) := by
  intro log faults store
  exact ⟨[], (List.append_nil log).symm, rfl⟩

theorem accounted_bind {x : Recorded α} {f : α → Recorded β} (hx : Accounted x)
    (hf : ∀ a, Accounted (f a)) : Accounted (x >>= f) := by
  intro log faults store
  obtain ⟨events, hlog, hafter⟩ := hx log faults store
  obtain ⟨later, hlog', hafter'⟩ := hf (ending x log faults store).result
    (ending x log faults store).log (ending x log faults store).left
    (ending x log faults store).after
  refine ⟨events ++ later, ?_, ?_⟩
  · rw [ending_bind, hlog', hlog, List.append_assoc]
  · rw [ending_bind, hafter', hafter, HostEvent.replay_append]

theorem ending_recording {ε : Type} (request : HostRequest) (action : Faulty (Except ε α))
    (log : List HostEvent) (faults : List Fault) (store : Store) :
    ending (Host.recording request action) log faults store =
      let ended := (action.run faults).run store
      ⟨ended.1.1, log ++ [⟨request, !ended.1.1.isOk⟩], ended.1.2, ended.2⟩ := rfl

/-- A call is accounted for if it fails without a change and succeeds with that of its event. -/
theorem accounted_recording {ε : Type} {request : HostRequest} {action : Faulty (Except ε α)}
    (h : ∀ {store after : Store} {q : Except ε α}, Leads action store q after →
      after = (HostEvent.mk request !q.isOk).change store) :
    Accounted (Host.recording request action) := by
  intro log faults store
  refine ⟨_, congrArg Ending.log (ending_recording request action log faults store), ?_⟩
  rw [ending_recording]
  exact h ⟨faults, _, rfl⟩

theorem accounted_liftM {x : Faulty α} (h : ∀ {store after : Store} {a : α},
    Leads x store a after → after = store) : Accounted (liftM x : Recorded α) := by
  intro log faults store
  exact ⟨[], (List.append_nil log).symm, h (a := ((x.run faults).run store).1.1) ⟨faults, _, rfl⟩⟩

theorem Accounted.after_eq {x : Recorded α} (h : Accounted x) (faults : List Fault) (store : Store) :
    (ending x [] faults store).after = HostEvent.replay (ending x [] faults store).log store := by
  obtain ⟨events, hlog, hafter⟩ := h [] faults store
  rw [List.nil_append] at hlog
  rw [hlog, hafter]

/-- A recorded computation ends as it does without its record. -/
theorem run_of_unrecorded {x : Recorded α} {y : Faulty α}
    (h : (Simulation.unrecorded (StateT (List Fault) (StateM Store))).Rel x y)
    (log : List HostEvent) (faults : List Fault) (store : Store) :
    (y.run faults).run store =
      (((ending x log faults store).result, (ending x log faults store).left),
        (ending x log faults store).after) := by
  rw [← h log]
  rfl

end Recorded

/-- What holds of all that is accounted for, as a relation of computations with themselves. -/
def Simulation.accounted : Simulation Recorded Recorded where
  Rel x y := x = y ∧ Recorded.Accounted x
  pure a := ⟨rfl, Recorded.accounted_pure a⟩
  bind := by
    rintro α β x y f g ⟨rfl, hx⟩ hfg
    obtain rfl : f = g := funext fun a => (hfg a).1
    exact ⟨rfl, Recorded.accounted_bind hx fun a => (hfg a).2⟩

theorem Simulation.hosts_accounted (template : TemplateKey → Except TemplateFailure String) :
    Simulation.accounted.Hosts (Store.faultyHost template).recorded
      (Store.faultyHost template).recorded where
  createFolders path := by
    refine ⟨rfl, Recorded.accounted_recording ?_⟩
    intro store after q h
    rcases Store.leads_createFolders h with ⟨e, rfl, rfl⟩ | ⟨rfl, hcreate⟩
    · rfl
    · exact (Store.createFolders_eq_ok_iff.mp hcreate).2
  write path content := by
    refine ⟨rfl, Recorded.accounted_recording ?_⟩
    intro store after q h
    rcases Store.leads_write h with ⟨e, rfl, rfl⟩ | ⟨rfl, hwrite⟩
    · rfl
    · exact (Store.write_eq_ok_iff.mp hwrite).2.2
  read path := by
    refine ⟨rfl, Recorded.accounted_recording ?_⟩
    intro store after q h
    obtain ⟨rfl, -⟩ := Store.leads_read h
    exact (ite_self _).symm
  isPresent path := by
    refine ⟨rfl, Recorded.accounted_liftM ?_⟩
    rintro store after there ⟨faults, left, h⟩
    exact (Prod.mk.inj h).2.symm
  isFolder path := ⟨rfl, Recorded.accounted_liftM fun h => (Store.leads_isFolder h).2⟩
  sources root extension := by
    refine ⟨rfl, Recorded.accounted_recording ?_⟩
    intro store after q h
    obtain ⟨rfl, -⟩ := Store.leads_sources h
    exact (ite_self _).symm
  template key := by
    refine ⟨rfl, Recorded.accounted_recording ?_⟩
    intro store after q h
    obtain ⟨rfl, -⟩ := Store.leads_template h
    exact (ite_self _).symm

namespace Recorded

variable {α β : Type}

/-- Whatever the store and the faults are, the events of a computation and its result are related
in this way. -/
def Tells (P : List HostEvent → Except Failure α → Prop) (x : ExceptT Failure Recorded α) : Prop :=
  ∀ log faults store, ∃ events, (ending x.run log faults store).log = log ++ events ∧
    P events (ending x.run log faults store).result

theorem Tells.weaken {P Q : List HostEvent → Except Failure α → Prop}
    {x : ExceptT Failure Recorded α} (h : Tells P x) (hPQ : ∀ events r, P events r → Q events r) :
    Tells Q x := by
  intro log faults store
  obtain ⟨events, hlog, hP⟩ := h log faults store
  exact ⟨events, hlog, hPQ _ _ hP⟩

theorem tells_pure (a : α) :
    Tells (fun events r => events = [] ∧ r = .ok a) (pure a : ExceptT Failure Recorded α) := by
  intro log faults store
  exact ⟨[], (List.append_nil log).symm, rfl, rfl⟩

theorem tells_throw (e : Failure) :
    Tells (fun events r => events = [] ∧ r = .error e) (throw e : ExceptT Failure Recorded α) := by
  intro log faults store
  exact ⟨[], (List.append_nil log).symm, rfl, rfl⟩

theorem tells_liftM (x : Faulty α) :
    Tells (fun events r => events = [] ∧ ∃ a, r = .ok a)
      (liftM (liftM x : Recorded α) : ExceptT Failure Recorded α) := by
  intro log faults store
  exact ⟨[], (List.append_nil log).symm, rfl, _, rfl⟩

theorem tells_attempt {ε : Type} (request : HostRequest) (action : Faulty (Except ε α))
    (meaning : ε → Failure) :
    Tells (fun events r => events = [⟨request, !r.isOk⟩])
      (attempt (Host.recording request action) meaning) := by
  intro log faults store
  have hmeaning : ∀ q : Except ε α, (q.mapError meaning).isOk = q.isOk := by
    intro q
    cases q <;> rfl
  refine ⟨_, rfl, ?_⟩
  exact congrArg (fun ok => [HostEvent.mk request !ok]) (hmeaning _).symm

theorem ending_bind_of_error {x : ExceptT Failure Recorded α} {f : α → ExceptT Failure Recorded β}
    {log log' : List HostEvent} {faults left : List Fault} {store after : Store} {e : Failure}
    (h : ending x.run log faults store = ⟨.error e, log', left, after⟩) :
    ending (x >>= f).run log faults store = ⟨.error e, log', left, after⟩ := by
  change (let first := ending x.run log faults store
    ending (ExceptT.bindCont f first.result) first.log first.left first.after) = _
  rw [h]
  rfl

theorem ending_bind_of_ok {x : ExceptT Failure Recorded α} {f : α → ExceptT Failure Recorded β}
    {log log' : List HostEvent} {faults left : List Fault} {store after : Store} {a : α}
    (h : ending x.run log faults store = ⟨.ok a, log', left, after⟩) :
    ending (x >>= f).run log faults store = ending (f a).run log' left after := by
  change (let first := ending x.run log faults store
    ending (ExceptT.bindCont f first.result) first.log first.left first.after) = _
  rw [h]
  rfl

/-- A computation tells what its first part tells, and if that has given a value, what follows it. -/
theorem Tells.bind {P : List HostEvent → Except Failure α → Prop}
    {Q : α → List HostEvent → Except Failure β → Prop} {x : ExceptT Failure Recorded α}
    {f : α → ExceptT Failure Recorded β} (hx : Tells P x) (hf : ∀ a, Tells (Q a) (f a)) :
    Tells (fun events r => (∃ e, P events (.error e) ∧ r = .error e) ∨
      ∃ a first rest, events = first ++ rest ∧ P first (.ok a) ∧ Q a rest r) (x >>= f) := by
  intro log faults store
  obtain ⟨events, hlog, hP⟩ := hx log faults store
  rcases hfirst : ending x.run log faults store with ⟨result, log', left, after⟩
  rw [hfirst] at hlog hP
  obtain rfl : log' = log ++ events := hlog
  cases result with
  | error e =>
      rw [ending_bind_of_error hfirst]
      exact ⟨events, rfl, Or.inl ⟨e, hP, rfl⟩⟩
  | ok a =>
      rw [ending_bind_of_ok hfirst]
      obtain ⟨later, hlog', hQ⟩ := hf a (log ++ events) left after
      refine ⟨events ++ later, ?_, Or.inr ⟨a, events, later, rfl, hP, hQ⟩⟩
      rw [hlog', List.append_assoc]

theorem Tells.log {P : List HostEvent → Except Failure α → Prop} {x : ExceptT Failure Recorded α}
    (h : Tells P x) (faults : List Fault) (store : Store) :
    P (ending x.run [] faults store).log (ending x.run [] faults store).result := by
  obtain ⟨events, hlog, hP⟩ := h [] faults store
  rw [List.nil_append] at hlog
  rwa [hlog]

/-- All events are calls of this kind, and none of them has failed if there is a value. -/
structure Only (call : HostCall) (events : List HostEvent) (r : Except Failure α) : Prop where
  call : ∀ e ∈ events, e.request.call = call
  passed : ∀ a, r = .ok a → ∀ e ∈ events, e.failed = false

variable {call : HostCall}

theorem Only.of_nil {r : Except Failure α} : Only call [] r := ⟨by simp, by simp⟩

theorem tells_only_attempt {ε : Type} {request : HostRequest} (hcall : request.call = call)
    (action : Faulty (Except ε α)) (meaning : ε → Failure) :
    Tells (Only call) (attempt (Host.recording request action) meaning) := by
  apply (tells_attempt request action meaning).weaken
  rintro events r rfl
  constructor
  · intro e he
    rw [List.mem_singleton.mp he]
    exact hcall
  · rintro a rfl e he
    rw [List.mem_singleton.mp he]
    rfl

theorem tells_only_bind {x : ExceptT Failure Recorded α} {f : α → ExceptT Failure Recorded β}
    (hx : Tells (Only call) x) (hf : ∀ a, Tells (Only call) (f a)) :
    Tells (Only call) (x >>= f) := by
  apply (hx.bind hf).weaken
  rintro events r (⟨e, hfirst, rfl⟩ | ⟨a, first, rest, rfl, hfirst, hrest⟩)
  · exact ⟨hfirst.call, by simp⟩
  · constructor
    · intro e he
      exact (List.mem_append.mp he).elim (hfirst.call e) (hrest.call e)
    · intro b hb e he
      exact (List.mem_append.mp he).elim (hfirst.passed a rfl e) (hrest.passed b hb e)

theorem tells_only_pure (a : α) : Tells (Only call) (pure a : ExceptT Failure Recorded α) := by
  apply (tells_pure a).weaken
  rintro events r ⟨rfl, -⟩
  exact .of_nil

theorem tells_only_liftM (x : Faulty α) :
    Tells (Only call) (liftM (liftM x : Recorded α) : ExceptT Failure Recorded α) := by
  apply (tells_liftM x).weaken
  rintro events r ⟨rfl, -⟩
  exact .of_nil

theorem tells_only_mapM {f : α → ExceptT Failure Recorded β} (h : ∀ a, Tells (Only call) (f a))
    (l : List α) : Tells (Only call) (l.mapM f) := by
  induction l with
  | nil => exact tells_only_pure []
  | cons a l ih =>
      rw [List.mapM_cons]
      exact tells_only_bind (h a) fun b => tells_only_bind ih fun bs => tells_only_pure (b :: bs)

theorem tells_only_forM {f : α → ExceptT Failure Recorded Unit}
    (h : ∀ a, Tells (Only call) (f a)) (l : List α) : Tells (Only call) (l.forM f) := by
  induction l with
  | nil => exact tells_only_pure ()
  | cons a l ih => exact tells_only_bind (h a) fun _ => ih

end Recorded

end RibTree
