import RibTree.Console.Style
import RibTree.Failure

/-!
# Problems that end a command line

What keeps a command line from doing its work: settings that are missing or cannot be read, a
failure before the first step, or a terminal that takes no more lines. A problem is shown with
advice, plain or styled.
-/

namespace RibTree

set_option autoImplicit false

inductive Problem
  | settingsNotFound (path : Path)
  | settingsUnreadable (path : Path) (reason : String)
  | failure (failure : Failure)
  | terminal (reason : String)
  deriving DecidableEq, Repr

/-- Who can do something about a problem. -/
inductive ProblemCategory
  | userError
  | notFound
  | configuration
  | internal
  deriving DecidableEq, Repr

def ProblemCategory.text : ProblemCategory → String
  | userError => "UserError"
  | notFound => "NotFound"
  | configuration => "Configuration"
  | internal => "Internal"

namespace Problem

def kind : Problem → String
  | settingsNotFound _ => "settingNotFound"
  | settingsUnreadable .. => "settingDecodeFailed"
  | failure e => e.kind
  | terminal _ => "io"

def exitCode : Problem → Nat
  | failure e => e.exitCode
  | _ => 1

def category : Problem → ProblemCategory
  | settingsNotFound _ | settingsUnreadable .. => .configuration
  | failure e =>
      match e.category with
      | .argument | .outline => .userError
      | .notFound => .notFound
      | .filesystem => .internal
  | terminal _ => .internal

def message : Problem → String
  | settingsNotFound path => "Settings file not found: " ++ path.text
  | settingsUnreadable path reason => s!"Failed to decode settings {path.text}: {reason}"
  | failure e => e.message
  | terminal reason => "I/O error: " ++ reason

/-- The reason from outside that the message is about. -/
def cause? : Problem → Option String
  | settingsUnreadable _ reason | terminal reason => some reason
  | settingsNotFound _ | failure _ => none

def suggestions : Problem → List String
  | settingsNotFound path =>
      [s!"Add {path.text} to the current directory",
        "Minimal content: targetDirectory: Sources",
        "Or point at another file with --settings <FILE>"]
  | settingsUnreadable .. =>
      ["Check the setting values",
        "Keys: targetDirectory (required), templateDirectory, fileExtension, dependencyAnchor"]
  | failure e => e.suggestions
  | terminal reason => ["I/O operation failed: " ++ reason]

/-- The lines for the advice, under a heading. -/
def adviceText (e : Problem) (heading : String) : String :=
  if e.suggestions.isEmpty then ""
  else
    "\n" ++ heading ++ "\n" ++
      String.join (e.suggestions.map fun suggestion => "  " ++ suggestion ++ "\n")

/-- The problem as plain text. The cause is shown only on demand. -/
def plain (e : Problem) (showCause : Bool) : String :=
  let cause := if showCause then e.cause? else none
  "\nError: " ++ e.message ++ "\n" ++
    ((cause.map fun reason => "  Caused by: " ++ reason ++ "\n").getD "") ++
    e.adviceText "Suggestions:" ++ "\n failure.\n"

/-- The problem as styled text. -/
def styled (e : Problem) (showCause : Bool) : String :=
  let strong (text : String) := Style.bold (Style.red text)
  let cause := if showCause then e.cause? else none
  "\n" ++ strong "✗" ++ " " ++ strong "Error:" ++ "\n\n" ++
    "  " ++ Style.red e.message ++ "\n" ++
    ((cause.map fun reason =>
      "\n  " ++ Style.dim "→" ++ " " ++ Style.dim reason ++ "\n").getD "") ++
    e.adviceText (Style.bold (Style.yellow "Suggestions:")) ++
    "\n" ++ strong " failure." ++ "\n"

end Problem

end RibTree
