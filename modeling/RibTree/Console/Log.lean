import RibTree.Console.Problem
import RibTree.Run
import RibTree.Text.Quoted

/-!
# The log

What a command line notes beside its reports: steps that failed, and the problem that ends it. A
line of the log can hold line feeds, since names and paths stand in it as they are.
-/

namespace RibTree

set_option autoImplicit false

inductive LogLevel
  | error
  | warning
  deriving DecidableEq, Repr

def LogLevel.text : LogLevel → String
  | error => "ERROR"
  | warning => " WARN"

structure LogLine where
  level : LogLevel
  text : String
  deriving DecidableEq, Repr

namespace LogLine

/-- Control characters that terminals obey are written as their codes. -/
def harmless (c : Char) : String :=
  let code := String.ofList (Nat.toDigits 16 c.toNat)
  if c ∈ ['\x07', '\x08', '\x0c'] then "\\x0" ++ code
  else if c ∈ ['\x1b', '\x7f'] then "\\x" ++ code
  else if '\u0080' ≤ c ∧ c ≤ '\u009f' then "\\u\x7b" ++ code ++ "\x7d"
  else c.toString

/-- A value with its name. -/
def field (name value : String) : String :=
  " " ++ name ++ "=" ++ value

/-- The lines about a step with an anchor for dependencies. -/
def ofStep (anchor : String) (r : StepReport) : List LogLine :=
  match r.result with
  | .ok _ => []
  | .error e =>
      let failed : LogLine :=
        ⟨.warning, "Step failed" ++ field "command" (Text.quoted r.command.text) ++
          field "kind" (Text.quoted e.kind) ++ field "error" e.message⟩
      match e with
      | .fileNotEdited path reason =>
          if reason = Declaration.missingAnchor anchor then
            [⟨.warning, "Dependency anchor missing" ++ field "path" path.text ++
              field "anchor" (Text.quoted anchor)⟩, failed]
          else [failed]
      | _ => [failed]

/-- What a problem is called in the log, and how grave it is. -/
def heading : ProblemCategory → LogLevel × String
  | .userError => (.warning, "User error: ")
  | .notFound => (.warning, "Not found: ")
  | .configuration => (.error, "Configuration error: ")
  | .internal => (.error, "Internal error: ")

def ofProblem (e : Problem) : LogLine :=
  let (level, text) := heading e.category
  ⟨level, text ++ String.join (e.message.toList.map harmless) ++ field "kind" (Text.quoted e.kind)⟩

/-- A quiet command line notes errors alone. -/
def isShown (quiet : Bool) (line : LogLine) : Bool :=
  !quiet || line.level = .error

/-- What is written of a line of the log below the first line of its text. -/
def continuation (line : LogLine) : String :=
  let text := line.text.toList.dropWhile (· != '\n')
  if text.isEmpty then "" else String.ofList text.tail ++ "\n"

end LogLine

end RibTree
