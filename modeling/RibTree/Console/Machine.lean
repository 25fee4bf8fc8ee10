import RibTree.Console.Log
import RibTree.Console.Variables
import RibTree.Disk.Host

/-!
# Machines

What a command line asks of the machine it runs on: files, a working folder, an environment, and an
output that takes lines and a log. A disk with the lines written so far is such a machine.
-/

namespace RibTree

set_option autoImplicit false

structure Machine (m : Type → Type) where
  host : TemplateSource → Host m
  isFile : Path → m Bool
  bytes : Path → m (Except String ByteArray)
  workingFolder : m Path
  /-- The value of a variable of the environment. -/
  variableNamed : String → m (Option String)
  /-- Prints a line. The output may refuse it, with a reason. -/
  print : String → m (Except String Unit)
  log : LogLine → m Unit

/-- Lines that were printed, and the log. -/
structure Output where
  lines : List String := []
  log : List LogLine := []
  /-- The output refuses every line. -/
  isFull : Bool := false
  deriving DecidableEq, Repr

namespace Output

def fullReason : String := "No space left on device (os error 28)"

def print (o : Output) (line : String) : Except String Unit × Output :=
  if o.isFull then (.error fullReason, o) else (.ok (), { o with lines := o.lines ++ [line] })

/-- The printed lines as one text. -/
def text (o : Output) : String :=
  String.join (o.lines.map (· ++ "\n"))

end Output

/-- A disk with an output in front of it. -/
abbrev Desk := StateT Output (StateM Disk)

namespace Desk

def machine (environment : Environment) : Machine Desk where
  host templates := (Disk.host templates).lift
  isFile path := do
    let d ← liftM (get : StateM Disk Disk)
    return (d.bytes path).isOk
  bytes path := do
    let d ← liftM (get : StateM Disk Disk)
    return (d.bytes path).mapError DiskFailure.text
  workingFolder := do
    let d ← liftM (get : StateM Disk Disk)
    return Path.ofParts (.root :: d.here.map .name)
  variableNamed name := return environment name
  print line := modifyGet (·.print line)
  log line := modify fun o => { o with log := o.log ++ [line] }

end Desk

end RibTree
