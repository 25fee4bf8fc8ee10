import RibTree.Outline.Basic
import RibTree.Step

/-!
# Runs

A request becomes a list of steps, and the steps run in order. Before each step the sources are
listed anew, so that a step sees what the steps before it wrote. A step that fails is reported and
the run goes on; only an outline that cannot be compiled keeps a run from starting.
-/

namespace RibTree

set_option autoImplicit false

/-- The outcome of one step. -/
structure StepReport where
  command : Command
  parent : Option String
  target : String
  result : Except Failure Report

/-- The numbers of steps by outcome, and the exit code of the first failure. -/
structure Summary where
  created : Nat := 0
  edited : Nat := 0
  skipped : Nat := 0
  failed : Nat := 0
  firstExitCode : Option Nat := none
  deriving DecidableEq, Repr

namespace Summary

/-- Counts one more step. Information is not counted. -/
def record (t : Summary) (r : StepReport) : Summary :=
  match r.result with
  | .ok ⟨.created, _⟩ => { t with created := t.created + 1 }
  | .ok ⟨.edited, _⟩ => { t with edited := t.edited + 1 }
  | .ok ⟨.skipped, _⟩ => { t with skipped := t.skipped + 1 }
  | .ok ⟨.info, _⟩ => t
  | .error e =>
      { t with
        failed := t.failed + 1
        firstExitCode := some (t.firstExitCode.getD e.exitCode) }

/-- The summary of two runs, one after the other. -/
def merge (t u : Summary) : Summary where
  created := t.created + u.created
  edited := t.edited + u.edited
  skipped := t.skipped + u.skipped
  failed := t.failed + u.failed
  firstExitCode := t.firstExitCode.or u.firstExitCode

def isSuccess (t : Summary) : Bool := t.failed == 0

def exitCode (t : Summary) : Nat := t.firstExitCode.getD 0

/-- The number of steps that were counted. -/
def steps (t : Summary) : Nat := t.created + t.edited + t.skipped + t.failed

end Summary

def version : String := "0.1.0"

def usage : String := "Usage: ribgen [OPTIONS] <COMMAND> <ARGUMENT> [--option [value]]...

Commands:
  add <Name> [--parent <Parent>] [--no-view]
        Create a RIB. With --parent, also link it to the parent.
  link <Child> --parent <Parent>
        Create the component extension and declare the child builder
        inside the parent builder.
  scaffold <outline.md> --parent <Root>
        Create and link every RIB listed in an indented bullet outline.
        A trailing '*' on a name creates a RIB without a view.
  help <anything>
        Show this message.
  version <anything>
        Show the version.

Every command takes at least two tokens. Settings are read from .ribgen
in the current directory before anything else runs."

namespace Step

def forLink (parent child : String) : List Step :=
  [extension parent child, dependency parent child]

def forAdd (target : String) (parent : Option String) (ownsView : Bool) : List Step :=
  component target ownsView ::
    match parent with
    | none => []
    | some parent => [extension parent target, dependency parent target]

def forEdge (edge : Edge) : List Step :=
  [component edge.target edge.ownsView, extension edge.parent edge.target,
    dependency edge.parent edge.target]

end Step

section

variable {m : Type → Type} [Monad m] (host : Host m) (s : Settings)

/-- Lists the sources and performs one step in view of them. -/
def Step.run (step : Step) : m StepReport := do
  let performed : ExceptT Failure m Report := do
    let listing ← attempt (host.sources s.targetDirectory s.fileExtension) .index
    step.perform host s listing
  return ⟨step.command, step.parent, step.target, ← performed.run⟩

variable (sink : StepReport → m Unit)

/-- Runs the steps in order. `sink` gets the report of a step before the next step starts. -/
def runSteps (steps : List Step) : m Summary :=
  steps.foldlM
    (fun total step => do
      let report ← step.run host s
      sink report
      return total.record report)
    {}

def add (target : String) (parent : Option String) (ownsView : Bool) : m Summary :=
  runSteps host s sink (Step.forAdd target parent ownsView)

def link (parent child : String) : m Summary :=
  runSteps host s sink (Step.forLink parent child)

/-- Adds and links the target of every edge, in order, and counts all reports in one summary. -/
def scaffold (edges : List Edge) : m Summary :=
  edges.foldlM
    (fun total edge =>
      (Step.forEdge edge).foldlM
        (fun total step => do
          let report ← step.run host s
          sink report
          return total.record report)
        total)
    {}

/-- Reports a text that needs no work. -/
def inform (command : Command) (text : String) : m Summary := do
  let report : StepReport := ⟨command, none, "", .ok ⟨.info, text⟩⟩
  sink report
  return ({} : Summary).record report

/-- Reads and compiles an outline document. -/
def compileFile (path : Path) (root : String) : ExceptT Failure m (List Edge) := do
  if !(← host.isPresent path) then
    throw (.outlineNotFound path)
  let text ← attempt (host.read path) fun e => .outlineUnreadable path e.message
  attempt (pure (compile text root)) .outline

/-- Runs what a request asks for. It fails only when the run cannot start. -/
def execute : Request → ExceptT Failure m Summary
  | .help => .lift (inform sink .help usage)
  | .version => .lift (inform sink .version version)
  | .add target parent ownsView => .lift (add host s sink target parent ownsView)
  | .link parent child => .lift (link host s sink parent child)
  | .scaffold outline parent => do
      let edges ← compileFile host outline parent
      .lift (scaffold host s sink edges)

end

/-- A host as seen from a computation that does more. -/
def Host.lift {m n : Type → Type} [MonadLift m n] (host : Host m) : Host n where
  createFolders path := liftM (host.createFolders path)
  write path content := liftM (host.write path content)
  read path := liftM (host.read path)
  isPresent path := liftM (host.isPresent path)
  isFolder path := liftM (host.isFolder path)
  sources root extension := liftM (host.sources root extension)
  template key := liftM (host.template key)

/-- A sink that keeps the reports in order. -/
def keep {m : Type → Type} [Monad m] (report : StepReport) : StateT (List StepReport) m Unit :=
  modify (· ++ [report])

end RibTree
