import RibTree.Console.Flags
import RibTree.Console.Problem
import RibTree.Console.Style
import RibTree.Run
import RibTree.Value.Basic

/-!
# Lines on the terminal

How reports, totals and problems are shown: as text with a mark in front, styled or not, or as one
JSON object a line. Quiet text shows only what failed; JSON always shows everything.
-/

namespace RibTree

set_option autoImplicit false

inductive Look
  | styled
  | plain
  | json
  deriving DecidableEq, Repr

structure Display where
  look : Look
  quiet : Bool
  deriving DecidableEq, Repr

namespace Display

/-- Text is styled if it is meant for people and colors are not turned off. -/
def ofFlags (f : Flags) (onTerminal : Bool) : Display where
  quiet := f.quiet
  look :=
    let human := if f.noColor then Look.plain else .styled
    match f.format.getD .auto with
    | .auto => if onTerminal then human else .plain
    | .human => human
    | .plain => .plain
    | .json => .json

/-! ## Objects -/

def problemObject (kind message : String) (exitCode : Nat) : Value :=
  .mapping [("exitCode", .integer exitCode), ("kind", .string kind), ("message", .string message)]

/-- The members of an object stand in ascending order of their names. -/
def stepObject (r : StepReport) : Value :=
  let command := ("command", Value.string r.command.text)
  let parent := ("parent", (r.parent.map Value.string).getD .null)
  let target := ("target", Value.string r.target)
  match r.result with
  | .ok report =>
      .mapping [command, ("message", .string report.message), parent,
        ("status", .string report.status.text), target]
  | .error e =>
      .mapping [command, ("error", problemObject e.kind e.message e.exitCode), parent,
        ("status", .string "failed"), target]

def summaryObject (t : Summary) : Value :=
  .mapping [("summary", .mapping [("created", .integer t.created), ("edited", .integer t.edited),
    ("exitCode", .integer t.exitCode), ("failed", .integer t.failed),
    ("skipped", .integer t.skipped)])]

/-! ## Lines -/

/-- A line with a mark in front. -/
def marked (d : Display) (mark : String) (color : String → String) (text : String) : String :=
  if d.look = .styled then Style.bold (color mark) ++ " " ++ color text else mark ++ " " ++ text

def success (d : Display) (text : String) : Option String :=
  if d.quiet then none else some (d.marked "✓" Style.green text)

def warning (d : Display) (text : String) : Option String :=
  if d.quiet then none else some (d.marked "⚠" Style.yellow text)

/-- Failures are shown even when all else is quiet. -/
def failure (d : Display) (text : String) : Option String :=
  some (d.marked "✗" Style.red text)

/-- The line for a heading, which JSON has none of. -/
def heading (d : Display) (text : String) : Option String :=
  if d.quiet || d.look = .json then none
  else if d.look = .styled then some (Style.bold (Style.cyan text))
  else some text

/-- The line for a report, if it is shown. -/
def step (d : Display) (r : StepReport) : Option String :=
  if d.look = .json then some (stepObject r).line
  else match r.result with
    | .ok ⟨.created, message⟩ | .ok ⟨.edited, message⟩ => d.success message
    | .ok ⟨.skipped, message⟩ => d.warning message
    | .ok ⟨.info, message⟩ => some message
    | .error e => d.failure (r.command.text ++ " " ++ r.target ++ ": " ++ e.message)

/-- The line for the totals, if it is shown. -/
def summary (d : Display) (t : Summary) : Option String :=
  if d.look = .json then some (summaryObject t).line
  else
    let text := s!"{t.created} created, {t.edited} edited, {t.skipped} skipped, {t.failed} failed"
    if t.isSuccess then d.heading text else d.failure text

/-- The line for a problem, which only JSON has. -/
def problem (d : Display) (e : Problem) : Option String :=
  if d.look = .json then
    some (Value.mapping [("error", problemObject e.kind e.message e.exitCode)]).line
  else none

end Display

end RibTree
