import RibTree.Console.CommandLine
import RibTree.Proofs.Host.Simulation

/-!
# Machines that correspond

What a command line reads before it prints anything is built from the calls of its machine, so that
a relation of computations carries over from the calls of two machines to the settings that are
found on them. A machine with an output in front of it reads what it reads without one.
-/

namespace RibTree

set_option autoImplicit false

section

variable {m : Type → Type} [Monad m]

/-- The machine with an output in front of it, to which all lines and the log go. -/
def Machine.withOutput (machine : Machine m) : Machine (StateT Output m) where
  host templates := (machine.host templates).lift
  isFile path := liftM (machine.isFile path)
  bytes path := liftM (machine.bytes path)
  workingFolder := liftM machine.workingFolder
  variableNamed name := liftM (machine.variableNamed name)
  print line := modifyGet (·.print line)
  log line := modify fun o => { o with log := o.log ++ [line] }

def Machine.withEnvironment (machine : Machine m) (environment : Environment) : Machine m :=
  { machine with variableNamed := fun name => pure (environment name) }

end

/-- A disk without an environment and an output. -/
def Disk.machine : Machine (StateM Disk) where
  host := Disk.host
  isFile path := return ((← get).bytes path).isOk
  bytes path := return ((← get).bytes path).mapError DiskFailure.text
  workingFolder := return Path.ofParts (.root :: (← get).here.map .name)
  variableNamed _ := return none
  print _ := return .ok ()
  log _ := return

theorem Desk.machine_eq (environment : Environment) :
    Desk.machine environment = (Disk.machine.withEnvironment environment).withOutput := rfl

namespace Simulation

variable {m n : Type → Type} [Monad m] [Monad n]

/-- The files and the working folder of the machines correspond. -/
structure Machines (R : Simulation m n) (a : Machine m) (b : Machine n) : Prop where
  isFile (path : Path) : R.Rel (a.isFile path) (b.isFile path)
  bytes (path : Path) : R.Rel (a.bytes path) (b.bytes path)
  workingFolder : R.Rel a.workingFolder b.workingFolder

variable {R : Simulation m n} {a : Machine m} {b : Machine n} (machines : R.Machines a b)

section

variable {α β : Type}

theorem mapM [LawfulMonad m] [LawfulMonad n] {f : α → m β} {g : α → n β}
    (hfg : ∀ a, R.Rel (f a) (g a)) (l : List α) : R.Rel (l.mapM f) (l.mapM g) := by
  induction l with
  | nil => exact R.pure []
  | cons a l ih =>
      rw [List.mapM_cons, List.mapM_cons]
      exact R.bind (hfg a) fun b => R.bind ih fun bs => R.pure (b :: bs)

end

include machines

theorem firstFile (paths : List Path) :
    R.Rel (CommandLine.firstFile a paths) (CommandLine.firstFile b paths) := by
  induction paths with
  | nil => exact R.pure none
  | cons path paths ih =>
      refine R.bind (machines.isFile path) fun there => ?_
      cases there with
      | true => exact R.pure (some path)
      | false => exact ih

theorem fileText (read : ByteArray → String) (path : Path) :
    R.Rel (CommandLine.fileText a read path) (CommandLine.fileText b read path) :=
  R.bind (machines.bytes path) fun _ => R.pure _

variable [LawfulMonad m] [LawfulMonad n]

theorem loadVariables
    (hvariables : ∀ name, R.Rel (a.variableNamed name) (b.variableNamed name)) :
    R.Rel (CommandLine.loadVariables a) (CommandLine.loadVariables b) := by
  have hnamed : ∀ names, R.Rel (CommandLine.variablesNamed a names)
      (CommandLine.variablesNamed b names) := fun names =>
    R.bind (mapM (fun name => R.bind (hvariables name) fun _ => R.pure _) names) fun _ => R.pure _
  refine R.bind machines.workingFolder fun folder => ?_
  refine R.bind (firstFile machines _) fun path => ?_
  have hread : ∀ text, R.Rel
      (do return Variables.read (← CommandLine.variablesNamed a
        (Flags.noColorVariable :: Variables.words text)) text)
      (do return Variables.read (← CommandLine.variablesNamed b
        (Flags.noColorVariable :: Variables.words text)) text) := fun text =>
    R.bind (hnamed _) fun _ => R.pure _
  cases path with
  | none => exact R.bind (R.pure "") hread
  | some path => exact R.bind (fileText machines _ path) fun _ => R.bind (R.pure _) hread

theorem findSettings (asked : Option Path) :
    R.Rel (CommandLine.findSettings a asked).run (CommandLine.findSettings b asked).run := by
  cases asked with
  | some path =>
      refine run_bind (lift (machines.isFile path)) fun there => ?_
      cases there with
      | true => exact run_pure path
      | false => exact run_throw _
  | none =>
      refine run_bind (lift (firstFile machines _)) fun path => ?_
      cases path with
      | some path => exact run_pure path
      | none => exact run_throw _

theorem loadSettings (asked : Option Path) :
    R.Rel (CommandLine.loadSettings a asked).run (CommandLine.loadSettings b asked).run := by
  refine run_bind (findSettings machines asked) fun path => ?_
  refine run_bind (lift (fileText machines _ path)) fun text => ?_
  cases text with
  | error reason => exact run_throw _
  | ok text =>
      dsimp only
      split
      · exact run_pure _
      · exact run_bind (lift machines.workingFolder) fun _ => run_throw _

end Simulation

namespace Machine

section

variable {m : Type → Type} [Monad m] [LawfulMonad m] (machine : Machine m)

theorem machines_withOutput :
    (Simulation.ofLift (StateT Output m) m).Machines machine.withOutput machine where
  isFile _ := rfl
  bytes _ := rfl
  workingFolder := rfl

theorem loadVariables_withOutput :
    CommandLine.loadVariables machine.withOutput = liftM (CommandLine.loadVariables machine) :=
  Simulation.loadVariables machine.machines_withOutput fun _ => rfl

theorem loadSettings_withOutput (asked : Option Path) :
    (CommandLine.loadSettings machine.withOutput asked).run =
      liftM (CommandLine.loadSettings machine asked).run :=
  Simulation.loadSettings machine.machines_withOutput asked

def variablesText : m String := do
  let folder ← machine.workingFolder
  match ← CommandLine.firstFile machine (folder.upward.map (·.join variablesName)) with
  | none => return ""
  | some path =>
      return (← CommandLine.fileText machine Text.wellFormedLines path).toOption.getD ""

/-- An environment decides what is made of the file with variables, and not what is read. -/
theorem exists_loadVariables_withEnvironment (environment : Environment) :
    ∃ readIn : String → Environment,
      CommandLine.loadVariables (machine.withEnvironment environment) =
        readIn <$> machine.variablesText := by
  let named (names : List String) : Environment := fun name =>
    ((names.map fun name => (name, environment name)).lookup name).join
  have hnamed : ∀ names,
      CommandLine.variablesNamed (machine.withEnvironment environment) names =
        pure (named names) := by
    intro names
    rw [CommandLine.variablesNamed]
    simp [withEnvironment, named]
  have hfirst : CommandLine.firstFile (machine.withEnvironment environment) =
      CommandLine.firstFile machine := by
    funext paths
    induction paths with
    | nil => rfl
    | cons path paths ih =>
        rw [CommandLine.firstFile, CommandLine.firstFile, ih]
        rfl
  refine ⟨fun text =>
    Variables.read (named (Flags.noColorVariable :: Variables.words text)) text, ?_⟩
  rw [CommandLine.loadVariables, variablesText, map_bind, hfirst]
  refine bind_congr fun folder => ?_
  rw [map_bind]
  refine bind_congr fun path => ?_
  cases path with
  | none => simp [hnamed]
  | some path =>
      have hfile : CommandLine.fileText (machine.withEnvironment environment) =
          CommandLine.fileText machine := rfl
      simp [hnamed, hfile]

theorem run_loadVariables_withEnvironment {σ : Type} (machine : Machine (StateM σ))
    (environment other : Environment) (before : σ) :
    ((CommandLine.loadVariables (machine.withEnvironment environment)).run before).2 =
      ((CommandLine.loadVariables (machine.withEnvironment other)).run before).2 := by
  obtain ⟨readIn, hread⟩ := machine.exists_loadVariables_withEnvironment environment
  obtain ⟨readOther, hother⟩ := machine.exists_loadVariables_withEnvironment other
  rw [hread, hother]
  rfl

end

section

variable {σ φ : Type}

/-- What is read before the first step leaves that part of the state as it is. -/
structure LooksAt (machine : Machine (StateM σ)) (files : σ → φ) : Prop where
  isFile (path : Path) (s : σ) : files ((machine.isFile path).run s).2 = files s
  bytes (path : Path) (s : σ) : files ((machine.bytes path).run s).2 = files s
  workingFolder (s : σ) : files (machine.workingFolder.run s).2 = files s
  variableNamed (name : String) (s : σ) : files ((machine.variableNamed name).run s).2 = files s
  isPresent (templates : TemplateSource) (path : Path) (s : σ) :
    files (((machine.host templates).isPresent path).run s).2 = files s
  read (templates : TemplateSource) (path : Path) (s : σ) :
    files (((machine.host templates).read path).run s).2 = files s

/-- Computations that keep a part of the state. -/
def keeping (files : σ → φ) : Simulation (StateM σ) (StateM σ) where
  Rel x _ := ∀ s, files (x.run s).2 = files s
  pure _ _ := rfl
  bind hx hf s := (hf _ _).trans (hx s)

variable {machine : Machine (StateM σ)} {files : σ → φ}

theorem LooksAt.machines (h : machine.LooksAt files) :
    (keeping files).Machines machine machine where
  isFile := h.isFile
  bytes := h.bytes
  workingFolder := h.workingFolder

theorem LooksAt.loadVariables (h : machine.LooksAt files) (s : σ) :
    files ((CommandLine.loadVariables machine).run s).2 = files s :=
  Simulation.loadVariables h.machines h.variableNamed s

theorem LooksAt.loadSettings (h : machine.LooksAt files) (asked : Option Path) (s : σ) :
    files ((CommandLine.loadSettings machine asked).run.run s).2 = files s :=
  Simulation.loadSettings h.machines asked s

end

end Machine

theorem Disk.machine_looksAt (environment : Environment) :
    (Disk.machine.withEnvironment environment).LooksAt id where
  isFile _ _ := rfl
  bytes _ _ := rfl
  workingFolder _ := rfl
  variableNamed _ _ := rfl
  isPresent _ _ _ := rfl
  read _ _ _ := rfl

end RibTree
