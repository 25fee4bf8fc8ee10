import RibTree.Host

/-!
# Faults

Failures planned for the calls of a host. They stand in front of it: a call that a fault strikes
fails without reaching the host. A run over a host with faults shows what it does when a call
fails, whatever the host is.
-/

namespace RibTree

set_option autoImplicit false

/-- The calls of a host that can fail. -/
inductive HostCall
  | createFolders
  | write
  | read
  | sources
  | template
  deriving DecidableEq, Repr

structure Fault where
  call : HostCall
  /-- The path of the calls that the fault meets; without one it meets every such call. -/
  path : Option Path := none
  /-- The number of calls that it meets before it strikes. -/
  skip : Nat := 0
  /-- The number of calls that it strikes; without one there is no end. -/
  times : Option Nat := none
  reason : String
  deriving DecidableEq, Repr

namespace Fault

def Meets (f : Fault) (call : HostCall) (path : Path) : Prop :=
  f.call = call ∧ ∀ p ∈ f.path, p.Same path

instance (f : Fault) (call : HostCall) (path : Path) : Decidable (f.Meets call path) :=
  inferInstanceAs (Decidable (_ ∧ _))

/-- What one call leaves of the faults, and the reason of the fault that strikes it. The first
fault that can strike does; those before it count the call. -/
def strike (call : HostCall) (path : Path) : List Fault → Option String × List Fault
  | [] => (none, [])
  | fault :: rest =>
      let (reason, others) := strike call path rest
      if fault.Meets call path then
        match fault.skip, fault.times with
        | skip + 1, _ => (reason, { fault with skip } :: others)
        | 0, some 0 => (reason, fault :: others)
        | 0, some (times + 1) => (some fault.reason, { fault with times := some times } :: rest)
        | 0, none => (some fault.reason, fault :: rest)
      else (reason, fault :: others)

/-- A call behind the faults. -/
def guard {m : Type → Type} {ε α : Type} [Monad m] (call : HostCall) (path : Path)
    (failure : String → ε) (action : m (Except ε α)) : StateT (List Fault) m (Except ε α) := do
  match ← modifyGet (strike call path) with
  | some reason => return .error (failure reason)
  | none => liftM action

end Fault

/-- The host behind faults. Questions about what is there are always answered. -/
def Host.withFaults {m : Type → Type} [Monad m] (host : Host m) : Host (StateT (List Fault) m) where
  createFolders path := Fault.guard .createFolders path (.mk path) (host.createFolders path)
  write path content := Fault.guard .write path (.mk path) (host.write path content)
  read path := Fault.guard .read path (.mk path) (host.read path)
  isPresent path := liftM (host.isPresent path)
  isFolder path := liftM (host.isFolder path)
  sources root extension := Fault.guard .sources root (.mk root) (host.sources root extension)
  template key :=
    Fault.guard .template key.path (.unreadable ⟨key.path, ·⟩) (host.template key)

@[simp] theorem Fault.strike_nil (call : HostCall) (path : Path) :
    strike call path [] = (none, []) := rfl

end RibTree
