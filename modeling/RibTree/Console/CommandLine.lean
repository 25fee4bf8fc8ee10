import RibTree.Console.Display
import RibTree.Console.Machine
import RibTree.Settings.File
import RibTree.Template.Standard
import RibTree.Text.Utf8

/-!
# Command lines

One command line from its words to an exit code. Flags come first, then the settings, which
every request needs, then the request itself. A line that cannot be printed does not stop the
steps of a run; it is reported when they are done.
-/

namespace RibTree

set_option autoImplicit false

/-- Where a command line shows its output and its errors. -/
structure Surroundings where
  outputIsTerminal : Bool := false
  errorsAreTerminal : Bool := false

/-- What a command line leaves: its exit code, and the text of its error output. -/
structure Outcome where
  exitCode : Nat
  errors : String
  deriving DecidableEq, Repr

def settingsName : Path := ⟨".ribgen"⟩

/-- The settings file of earlier versions. -/
def formerSettingsName : Path := ⟨".ribscodegen"⟩

def variablesName : Path := ⟨".env"⟩

def flagUsage : String := "RIB scaffolding from the command line or from an outline

Usage: ribgen [OPTIONS] [COMMAND]...

Arguments:
  [COMMAND]...  Subcommand, its argument, and `--option [value]` pairs

Options:
  -v, --verbose...                     Log more detail to stderr (-v, -vv, -vvv)
  -q, --quiet                          Only report failed steps
      --no-color                       Disable colored output [env: NO_COLOR=]
  -s, --settings <FILE>                Settings file (default: .ribgen, then .ribscodegen)
      --output-format <OUTPUT_FORMAT>  Step report format [default: auto] [possible values: auto, human, plain, json]
  -h, --help                           Print help
  -V, --version                        Print version

COMMANDS:
  add <Name> [--parent <Parent>] [--no-view]
  link <Child> --parent <Parent>
  scaffold <outline.md> --parent <Root>
  help <anything>
  version <anything>

EXAMPLES:
  ribgen add Profile --parent App
  ribgen add Settings --parent App --no-view
  ribgen scaffold tree.md --parent App"

namespace UsageFailure

/-- The error output for a command line that cannot be read. -/
def errors (e : UsageFailure) : String :=
  "error: " ++ e.message ++
    "\n\nUsage: ribgen [OPTIONS] [COMMAND]...\n\nFor more information, try '--help'.\n"

end UsageFailure

namespace CommandLine

section

variable {m : Type → Type} [Monad m] (machine : Machine m)

def firstFile : List Path → m (Option Path)
  | [] => return none
  | path :: rest => do
      if ← machine.isFile path then return some path
      firstFile rest

/-- A text without the mark that some files begin with. -/
def unmarked (text : String) : String :=
  if text.toList.head? = some '\ufeff' then String.ofList text.toList.tail else text

/-- The text of a file as `read` gives it. -/
def fileText (read : ByteArray → String) (path : Path) : m (Except String String) := do
  return (← machine.bytes path).map fun content => unmarked (read content)

/-- The environment as far as some names go. -/
def variablesNamed (names : List String) : m Environment := do
  let values ← names.mapM fun name => do return (name, ← machine.variableNamed name)
  return fun name => (values.lookup name).join

/-- The environment with the variables of the nearest file for them, here or above. -/
def loadVariables : m Environment := do
  let folder ← machine.workingFolder
  let text ← match ← firstFile machine (folder.upward.map (·.join variablesName)) with
    | none => pure ""
    | some path => do
        pure ((← fileText machine Text.wellFormedLines path).toOption.getD "")
  let environment ← variablesNamed machine (Flags.noColorVariable :: Variables.words text)
  return Variables.read environment text

/-- Where settings are looked for if no file is asked for. -/
def usualPlaces : List Path := [settingsName, formerSettingsName].map (Path.join ⟨"."⟩)

/-- The settings file: the one that is asked for, or the first one here with a usual name. -/
def findSettings (asked : Option Path) : ExceptT Problem m Path := do
  match asked with
  | some path =>
      if ← machine.isFile path then return path
      throw (.settingsNotFound path)
  | none =>
      match ← (firstFile machine usualPlaces : m (Option Path)) with
      | some path => return path
      | none => throw (.settingsNotFound settingsName)

def loadSettings (asked : Option Path) : ExceptT Problem m Settings := do
  let path ← findSettings machine asked
  match ← (fileText machine Text.ofBytes path : m (Except String String)) with
  | .error reason => throw (.settingsUnreadable path reason)
  | .ok text =>
      match Settings.ofText text with
      | .ok settings => return settings
      | .error e =>
          let folder ← machine.workingFolder
          throw (.settingsUnreadable path (e.message (folder.relative path).text))

/-- Templates come from the folder that the settings name, and are the standard ones otherwise. -/
def templateSource (s : Settings) : TemplateSource :=
  match s.templateDirectory with
  | some root => .folder root
  | none => .set Standard.templates

/-- Prints a line, if there is one. -/
def print (line : Option String) : ExceptT Problem m Unit :=
  match line with
  | none => pure ()
  | some line => ExceptT.mk do return (← machine.print line).mapError Problem.terminal

/-- Notes lines in the log as far as they are shown. -/
def note (display : Display) (lines : List LogLine) : m Unit :=
  (lines.filter (·.isShown display.quiet)).forM machine.log

/-- Notes a report, and prints its line unless an earlier line was refused. The state is the first
refusal. -/
def printStep (display : Display) (s : Settings) (report : StepReport) :
    StateT (Option Problem) m Unit := do
  liftM (note machine display (LogLine.ofStep s.dependencyAnchor report))
  if (← get).isNone then
    match ← liftM (print machine (display.step report)).run with
    | .ok () => return
    | .error e => set (some e)

/-- Runs steps and prints their reports. The first line that was refused is a problem after the
last step. -/
def runPrinting {α : Type} (display : Display) (s : Settings)
    (run : Host (StateT (Option Problem) m) → (StepReport → StateT (Option Problem) m Unit) →
      StateT (Option Problem) m α) : ExceptT Problem m α := do
  let host := (machine.host (templateSource s)).lift
  let (result, refusal) ← (run host (printStep machine display s)).run none
  match refusal with
  | some e => throw e
  | none => return result

/-- Runs what a request asks for. Totals follow an outline, and other runs of several steps. -/
def perform (display : Display) (s : Settings) (request : Request) : ExceptT Problem m Nat := do
  match request with
  | .scaffold outline parent =>
      let compiled := compileFile (machine.host (templateSource s)) outline parent
      let edges ← ExceptT.adapt Problem.failure compiled
      print machine (display.heading
        s!"Scaffolding {edges.length} RIB(s) under {parent} from {outline.text}")
      let total ← runPrinting machine display s fun host sink => scaffold host s sink edges
      print machine (display.summary total)
      return total.exitCode
  | request =>
      let total ← runPrinting machine display s fun host sink =>
        (execute host s sink request).run
      match total with
      | .error e => throw (.failure e)
      | .ok total =>
          if 1 < total.steps then print machine (display.summary total)
          return total.exitCode

/-- Reads the settings and the request, and performs it. -/
def work (display : Display) (flags : Flags) (words : List String) : ExceptT Problem m Nat := do
  let settings ← loadSettings machine flags.settings
  let request : Except ArgumentFailure Request := do (← Arguments.parse words).request
  match request with
  | .error e => throw (.failure (.argument e))
  | .ok request => perform machine display settings request

/-- Ends with a problem. That its line may be refused changes nothing. -/
def fail (display : Display) (around : Surroundings) (verbose : Bool) (e : Problem) :
    m Outcome := do
  note machine display [LogLine.ofProblem e]
  let _ ← (print machine (display.problem e)).run
  let styled := display.look = .styled && around.errorsAreTerminal
  return ⟨e.exitCode, if styled then e.styled verbose else e.plain verbose⟩

/-- Runs the words of a command line. -/
def run (around : Surroundings) (words : List String) : m Outcome := do
  let environment ← loadVariables machine
  match Flags.parse words (environment Flags.noColorVariable) with
  | .error (.usage e) => return ⟨2, e.errors⟩
  | .error .help =>
      let _ ← machine.print flagUsage
      return ⟨0, ""⟩
  | .error .version =>
      let _ ← machine.print ("ribgen " ++ version)
      return ⟨0, ""⟩
  | .ok (flags, request) =>
      let display := Display.ofFlags flags around.outputIsTerminal
      match ← (work machine display flags request).run with
      | .ok exitCode => return ⟨exitCode, ""⟩
      | .error e => fail machine display around flags.verbose e

end

end CommandLine

end RibTree
