import RibTree.Proofs.Console.Ending
import RibTree.Proofs.Value.Line
import RibTree.Proofs.Value.Read

/-!
# JSON output

With JSON output every line reads back as an object. An obstacle leaves one object for its problem.
A task leaves one for each report and, for an outline or more than one counted report, one for the
totals. The exit code and the totals can be read off the objects for the reports.
-/

namespace RibTree

set_option autoImplicit false

namespace Value

/-- The text under a name in an object. -/
def text? (name : String) (object : Value) : Option String :=
  match object.member? name with
  | some (string s) => some s
  | _ => none

/-- The status that the object for a report has. -/
def status? (object : Value) : Option String := object.text? "status"

/-- The exit code of the error that the object for a report has. -/
def errorCode? (object : Value) : Option Int :=
  match (object.member? "error").bind (member? "exitCode") with
  | some (integer n) => some n
  | _ => none

/-- The object shows what the report is about, its status, and the exit code of its failure. -/
structure Shows (object : Value) (r : StepReport) : Prop where
  command : object.text? "command" = some r.command.text
  parent : object.text? "parent" = r.parent
  target : object.text? "target" = some r.target
  status : object.status? = some ((r.status?.map Status.text).getD "failed")
  errorCode : object.errorCode? = r.failure?.map fun e => (e.exitCode : Int)

def numberOf (status : String) (objects : List Value) : Nat :=
  objects.countP (·.status? = some status)

def counted (objects : List Value) : Nat :=
  numberOf "created" objects + numberOf "edited" objects + numberOf "skipped" objects +
    numberOf "failed" objects

/-- The exit code of the first error, zero if there is none. -/
def exitCodeOf (objects : List Value) : Int :=
  ((objects.find? (·.status? = some "failed")).bind errorCode?).getD 0

/-- The object for the totals, as the objects for the reports have them. -/
def totalsOf (objects : List Value) : Value :=
  .mapping [("summary", .mapping [("created", .integer (numberOf "created" objects)),
    ("edited", .integer (numberOf "edited" objects)), ("exitCode", .integer (exitCodeOf objects)),
    ("failed", .integer (numberOf "failed" objects)),
    ("skipped", .integer (numberOf "skipped" objects))])]

/-- The totals as they are written. -/
def totalsText (objects : List Value) : String :=
  "\x7b\"summary\":\x7b\"created\":" ++ toString (numberOf "created" objects) ++
    ",\"edited\":" ++ toString (numberOf "edited" objects) ++
    ",\"exitCode\":" ++ toString (exitCodeOf objects) ++
    ",\"failed\":" ++ toString (numberOf "failed" objects) ++
    ",\"skipped\":" ++ toString (numberOf "skipped" objects) ++ "\x7d\x7d"

theorem line_totalsOf (objects : List Value) : (totalsOf objects).line = totalsText objects := by
  have hnumber : ∀ n : Nat, (toString (n : Int)).toList = (toString n).toList := fun _ => rfl
  have hcreated : "\x7b\"summary\":\x7b\"created\":".toList =
      '\x7b' :: (quote "summary" ++ ':' :: '\x7b' :: (quote "created" ++ [':'])) := by decide
  have hedited : ",\"edited\":".toList = ',' :: (quote "edited" ++ [':']) := by decide
  have hcode : ",\"exitCode\":".toList = ',' :: (quote "exitCode" ++ [':']) := by decide
  have hfailed : ",\"failed\":".toList = ',' :: (quote "failed" ++ [':']) := by decide
  have hskipped : ",\"skipped\":".toList = ',' :: (quote "skipped" ++ [':']) := by decide
  have hend : "\x7d\x7d".toList = ['\x7d', '\x7d'] := by decide
  apply String.toList_inj.mp
  unfold totalsText
  rw [line, String.toList_ofList]
  simp only [String.toList_append, hcreated, hedited, hcode, hfailed, hskipped, hend, totalsOf,
    json, jsonMembers, hnumber, List.append_assoc, List.cons_append, List.nil_append]

end Value

theorem Failure.exitCode_le (e : Failure) : e.exitCode ≤ 8 := by
  cases e <;> simp [exitCode]

namespace Display

variable (r : StepReport) (reports : List StepReport)

theorem plain_problemObject (kind message : String) {code : Nat} (h : code ≤ 8) :
    (problemObject kind message code).Plain := by
  have hfits : code < Value.wordLimit := by
    rw [Value.wordLimit]
    omega
  refine .mapping ?_
  simp only [List.forall_mem_cons]
  exact ⟨.integer (by omega) (by omega), .string kind, .string message, by simp⟩

theorem plain_error (kind message : String) {code : Nat} (h : code ≤ 8) :
    (Value.mapping [("error", problemObject kind message code)]).Plain :=
  .mapping (List.forall_mem_singleton.mpr (plain_problemObject kind message h))

theorem plain_stepObject : (stepObject r).Plain := by
  have hparent : ((r.parent.map Value.string).getD .null).Plain := by
    cases r.parent with
    | none => exact .null
    | some parent => exact .string parent
  rw [stepObject]
  cases r.result with
  | ok report =>
      refine .mapping ?_
      simp only [List.forall_mem_cons]
      exact ⟨.string _, .string _, hparent, .string _, .string _, by simp⟩
  | error e =>
      refine .mapping ?_
      simp only [List.forall_mem_cons]
      have herror := plain_problemObject e.kind e.message e.exitCode_le
      exact ⟨.string _, herror, hparent, .string _, .string _, by simp⟩

theorem status?_stepObject :
    (stepObject r).status? = some ((r.status?.map Status.text).getD "failed") := by
  rw [stepObject, StepReport.status?]
  cases r.result <;> rfl

theorem errorCode?_stepObject :
    (stepObject r).errorCode? = r.failure?.map fun e => (e.exitCode : Int) := by
  rw [stepObject, StepReport.failure?]
  cases r.result <;> rfl

theorem shows_stepObject : (stepObject r).Shows r where
  command := by
    rw [stepObject]
    cases r.result <;> rfl
  parent := by
    rw [stepObject]
    cases r.parent <;> cases r.result <;> rfl
  target := by
    rw [stepObject]
    cases r.result <;> rfl
  status := status?_stepObject r
  errorCode := errorCode?_stepObject r

theorem status?_stepObject_eq_text_iff (status : Status) :
    (stepObject r).status? = some status.text ↔ r.status? = some status := by
  rw [status?_stepObject, Option.some_inj]
  cases r.status? with
  | none => cases status <;> simp [Status.text]
  | some own => cases own <;> cases status <;> simp [Status.text]

theorem status?_stepObject_eq_failed_iff :
    (stepObject r).status? = some "failed" ↔ r.failure?.isSome := by
  rw [status?_stepObject, Option.some_inj, StepReport.status?, StepReport.failure?]
  cases r.result with
  | error e => simp
  | ok report =>
      obtain ⟨status, message⟩ := report
      cases status <;> simp [Status.text]

theorem numberOf_text (status : Status) :
    Value.numberOf status.text (reports.map stepObject) =
      reports.countP fun r => r.status? = some status := by
  rw [Value.numberOf, List.countP_map]
  refine List.countP_congr fun r _ => ?_
  simpa using status?_stepObject_eq_text_iff r status

theorem numberOf_failed :
    Value.numberOf "failed" (reports.map stepObject) =
      reports.countP fun r => r.failure?.isSome := by
  rw [Value.numberOf, List.countP_map]
  refine List.countP_congr fun r _ => ?_
  simpa using status?_stepObject_eq_failed_iff r

theorem exitCodeOf_map_stepObject :
    Value.exitCodeOf (reports.map stepObject) = (Summary.tally reports).exitCode := by
  induction reports with
  | nil => rfl
  | cons r reports ih =>
      rw [Value.exitCodeOf, List.map_cons, List.find?_cons, Summary.exitCode, Summary.tally,
        List.findSome?_cons]
      have hfailed := status?_stepObject_eq_failed_iff r
      have hcode := errorCode?_stepObject r
      cases hr : r.failure? with
      | none =>
          rw [hr] at hfailed
          rw [decide_eq_false (by simp [hfailed])]
          exact ih
      | some e =>
          rw [hr] at hfailed hcode
          rw [decide_eq_true (hfailed.mpr rfl)]
          change (((stepObject r).errorCode?).getD 0 : Int) = _
          rw [hcode]
          rfl

theorem numberOf_map_stepObject :
    let objects := reports.map stepObject
    let total := Summary.tally reports
    Value.numberOf "created" objects = total.created ∧
      Value.numberOf "edited" objects = total.edited ∧
      Value.numberOf "skipped" objects = total.skipped ∧
      Value.numberOf "failed" objects = total.failed :=
  ⟨numberOf_text reports .created, numberOf_text reports .edited, numberOf_text reports .skipped,
    numberOf_failed reports⟩

theorem counted_map_stepObject :
    Value.counted (reports.map stepObject) = (Summary.tally reports).steps := by
  obtain ⟨hcreated, hedited, hskipped, hfailed⟩ := numberOf_map_stepObject reports
  rw [Value.counted, hcreated, hedited, hskipped, hfailed]
  rfl

theorem totalsOf_map_stepObject :
    Value.totalsOf (reports.map stepObject) = summaryObject (Summary.tally reports) := by
  obtain ⟨hcreated, hedited, hskipped, hfailed⟩ := numberOf_map_stepObject reports
  rw [Value.totalsOf, exitCodeOf_map_stepObject, hcreated, hedited, hskipped, hfailed]
  rfl

end Display

namespace Task

variable {display : Display} (task : Task) (hjson : display.look = .json)
include hjson

theorem heading_of_json : task.heading display = none :=
  (task.heading_eq_none_iff display).mpr (Or.inr (Or.inr hjson))

theorem lines_of_json (reports : List StepReport) :
    let objects := reports.map Display.stepObject
    task.lines display (Summary.tally reports) reports =
      (objects ++ if task.title?.isSome ∨ 1 < Value.counted objects then [Value.totalsOf objects]
        else []).map Value.line := by
  intro objects
  have hsteps : display.step = fun r => some (Display.stepObject r).line := by
    funext r
    rw [Display.step, if_pos hjson]
  have hsummary : display.summary (Summary.tally reports) = some (Value.totalsOf objects).line := by
    rw [Display.summary, if_pos hjson, Display.totalsOf_map_stepObject]
  rw [lines, task.heading_of_json hjson, totals, hsteps, hsummary,
    Display.counted_map_stepObject, List.filterMap_eq_map', List.map_append, List.map_map]
  split <;> rfl

end Task

namespace CommandLine

theorem Obstacle.code_le {σ : Type} {machine : Machine (StateM σ)} {asked : Option Path}
    {tokens : List String} {before after : σ} {code : Nat} {e : Problem}
    (h : Obstacle machine asked tokens before code e after) : code ≤ 8 := by
  cases h <;> decide

section

variable {σ : Type} {machine : Machine (StateM σ)} (around : Surroundings) {words : List String}
variable {before : σ} {flags : Flags} {tokens : List String}
variable (haccepts : Accepts machine words before flags tokens)
variable (hjson : flags.format = some .json)
include haccepts hjson

theorem ended_json_of_obstacle {code : Nat} {e : Problem} {after : σ}
    (h : Obstacle machine flags.settings tokens (begun machine before) code e after) :
    ended machine around words false before =
      ⟨code, [(Value.mapping [("error", Display.problemObject e.kind e.message code)]).line],
        after⟩ := by
  have hlook := (Display.look_ofFlags_eq_json_iff flags around.outputIsTerminal).mpr hjson
  have hended := ended_of_obstacle around haccepts h false
  rwa [Display.problem, if_pos hlook, h.exitCode] at hended

theorem ended_json_of_ready {s : Settings} {task : Task} {ready : σ}
    (h : Ready machine flags.settings tokens (begun machine before) s task ready) :
    let seen := task.job.seen (machine.host (templateSource s)) s ready
    let objects := seen.1.2.map Display.stepObject
    ended machine around words false before =
      ⟨(Summary.tally seen.1.2).exitCode,
        (objects ++ if scaffolds tokens ∨ 1 < Value.counted objects
          then [Value.totalsOf objects] else []).map Value.line, seen.2⟩ := by
  have hlook := (Display.look_ofFlags_eq_json_iff flags around.outputIsTerminal).mpr hjson
  have htally := (task.job.accounted_seen (machine.host (templateSource s)) s ready).2
  have hended := ended_of_ready around haccepts h
  dsimp only at hended
  rwa [htally, task.lines_of_json hlook, h.isSome_title] at hended

/-- What a text holds does not break the line that it stands in. -/
theorem newline_notMem_ended_json {line : String}
    (hline : line ∈ (ended machine around words false before).lines) : '\n' ∉ line.toList := by
  have hlines : ∃ objects : List Value,
      (ended machine around words false before).lines = objects.map Value.line := by
    rcases obstacle_or_ready machine flags.settings tokens (begun machine before) with
      ⟨code, e, after, h⟩ | ⟨s, task, ready, h⟩
    · rw [ended_json_of_obstacle around haccepts hjson h]
      exact ⟨[_], rfl⟩
    · rw [ended_json_of_ready around haccepts hjson h]
      exact ⟨_, rfl⟩
  obtain ⟨objects, hlines⟩ := hlines
  rw [hlines] at hline
  obtain ⟨object, -, rfl⟩ := List.mem_map.mp hline
  exact object.newline_notMem_line

end

/-- With JSON output a command line that can be read meets an obstacle, whose exit code is one for
the settings, two for the request and seven for the outline, and then its one line reads back as the
problem and all files are as before; or it has a task ready, and then its lines read back as the
objects that show the reports of the steps, in order, and for an outline or several counted steps
the totals follow. -/
theorem json_contract {σ φ : Type} {machine : Machine (StateM σ)} {files : σ → φ}
    (hlooks : machine.LooksAt files) (around : Surroundings) {words : List String} {before : σ}
    {flags : Flags} {tokens : List String} (haccepts : Accepts machine words before flags tokens)
    (hjson : flags.format = some .json) :
    let left := ended machine around words false before
    let start := begun machine before
    ((∃ code e after, Obstacle machine flags.settings tokens start code e after) ∨
      ∃ s task ready, Ready machine flags.settings tokens start s task ready) ∧
    (∀ code e after, Obstacle machine flags.settings tokens start code e after →
      let object := Value.mapping [("error", .mapping [("exitCode", .integer code),
        ("kind", .string e.kind), ("message", .string e.message)])]
      left.exitCode = code ∧ left.lines = [object.line] ∧
        left.lines.map Value.ofText? = [some object] ∧ files left.after = files before) ∧
    (∀ s task ready, Ready machine flags.settings tokens start s task ready →
      let seen := task.job.seen (machine.host (templateSource s)) s ready
      let objects := seen.1.2.map Display.stepObject
      seen.1.2.map StepReport.label = task.job.schedule ∧
        List.Forall₂ Value.Shows objects seen.1.2 ∧
        left.lines = (objects ++ if scaffolds tokens ∨ 1 < Value.counted objects
          then [Value.totalsOf objects] else []).map Value.line ∧
        (left.lines.take objects.length).map Value.ofText? = objects.map some ∧
        left.lines.drop objects.length = (if scaffolds tokens ∨ 1 < Value.counted objects
          then [Value.totalsText objects] else []) ∧
        (left.exitCode : Int) = Value.exitCodeOf objects ∧
        left.after = seen.2) ∧
    ∀ line ∈ left.lines, '\n' ∉ line.toList := by
  intro left start
  refine ⟨obstacle_or_ready machine flags.settings tokens start, ?_, ?_,
    fun line => newline_notMem_ended_json around haccepts hjson⟩
  · intro code e after h object
    have hleft : left = _ := ended_json_of_obstacle around haccepts hjson h
    rw [hleft]
    refine ⟨rfl, rfl, ?_, (h.files_eq hlooks).trans (hlooks.loadVariables before)⟩
    exact congrArg (fun read => [read]) (Value.ofText?_line (Display.plain_error _ _ h.code_le))
  · intro s task ready h seen objects
    have hleft : left = _ := ended_json_of_ready around haccepts hjson h
    have hend : (if scaffolds tokens ∨ 1 < Value.counted objects then [Value.totalsOf objects]
        else []).map Value.line = if scaffolds tokens ∨ 1 < Value.counted objects then
          [Value.totalsText objects] else [] := by
      split
      · rw [List.map_singleton, Value.line_totalsOf]
      · rfl
    have hlines : left.lines = objects.map Value.line ++ (if scaffolds tokens ∨
        1 < Value.counted objects then [Value.totalsText objects] else []) := by
      rw [hleft, List.map_append, hend]
    have hlength : objects.length = (objects.map Value.line).length := (List.length_map ..).symm
    refine ⟨(task.job.accounted_seen _ s ready).1, ?_, ?_, ?_, ?_, ?_, ?_⟩
    · exact List.forall₂_map_left_iff.mpr
        (List.forall₂_same.mpr fun r _ => Display.shows_stepObject r)
    · rw [hleft]
    · rw [hlines, List.take_left' hlength.symm]
      exact Value.map_ofText?_line fun object hobject => by
        obtain ⟨r, -, rfl⟩ := List.mem_map.mp hobject
        exact Display.plain_stepObject r
    · rw [hlines, List.drop_left' hlength.symm]
    · rw [hleft, Display.exitCodeOf_map_stepObject]
    · rw [hleft]

/-- A builder that is missing, named across two lines, behind an extension that is created; and the
same words where there are no settings, and where the settings lack their one key that is needed. -/
theorem json_contract_of_broken_name :
    let machine := Disk.machine.withEnvironment fun _ => none
    let settings := fun text : String => Disk.mk (.file ".ribgen" text.toUTF8 .empty) []
    let words := ["--output-format", "json", "link", "A", "--parent", "B\nC"]
    let left := ended machine {} words false (settings "targetDirectory: S")
    let lost := ended machine {} words false ⟨.empty, []⟩
    let lacking := ended machine {} words false (settings "fileExtension: kt")
    left.exitCode = 6 ∧
      left.lines =
        ["\x7b\"command\":\"create-extension\",\"message\":\"Success to create " ++
          "B\\nCComponent+A.swift\",\"parent\":\"B\\nC\",\"status\":\"created\"," ++
          "\"target\":\"A\"\x7d",
        "\x7b\"command\":\"add-dependency\",\"error\":\x7b\"exitCode\":6," ++
          "\"kind\":\"builderNotFound\",\"message\":\"Builder for 'B\\nC' not found " ++
          "(looked for B\\nCBuilder.swift)\"\x7d,\"parent\":\"B\\nC\"," ++
          "\"status\":\"failed\",\"target\":\"A\"\x7d",
        "\x7b\"summary\":\x7b\"created\":1,\"edited\":0,\"exitCode\":6,\"failed\":1," ++
          "\"skipped\":0\x7d\x7d"] ∧
      lost.exitCode = 1 ∧
      lost.lines = ["\x7b\"error\":\x7b\"exitCode\":1,\"kind\":\"settingNotFound\"," ++
        "\"message\":\"Settings file not found: .ribgen\"\x7d\x7d"] ∧
      lacking.exitCode = 1 ∧
      lacking.lines = ["\x7b\"error\":\x7b\"exitCode\":1,\"kind\":\"settingDecodeFailed\"," ++
        "\"message\":\"Failed to decode settings ./.ribgen: missing configuration field " ++
        "\\\"targetDirectory\\\"\"\x7d\x7d"] := by
  intro machine settings words left lost lacking
  have hlooks : machine.LooksAt id := Disk.machine_looksAt fun _ => none
  have hstart : ∀ disk, begun machine disk = disk := hlooks.loadVariables
  have haccepts : Accepts machine words (settings "targetDirectory: S")
      { format := some .json } ["link", "A", "--parent", "B\nC"] := by
    rw [Accepts]
    decide +kernel
  have haccepts_lost : Accepts machine words ⟨.empty, []⟩ { format := some .json }
      ["link", "A", "--parent", "B\nC"] := by
    rw [Accepts]
    decide +kernel
  have haccepts_lacking : Accepts machine words (settings "fileExtension: kt")
      { format := some .json } ["link", "A", "--parent", "B\nC"] := by
    rw [Accepts]
    decide +kernel
  have hready : Ready machine none ["link", "A", "--parent", "B\nC"]
      (settings "targetDirectory: S") { targetDirectory := ⟨"S"⟩ }
      ⟨none, .make (.link "B\nC" "A")⟩ (settings "targetDirectory: S") := by
    have hrequest : requestOf ["link", "A", "--parent", "B\nC"] = .ok (.link "B\nC" "A") := by
      decide +kernel
    exact .request (loads_of_file rfl rfl (by decide) (by decide +kernel)) hrequest rfl
  have hlost : Obstacle machine none ["link", "A", "--parent", "B\nC"] ⟨.empty, []⟩ 1
      (.settingsNotFound settingsName) ⟨.empty, []⟩ :=
    .settings (.missing (.later rfl (.later rfl (.nowhere _))))
  have hlacking : Obstacle machine none ["link", "A", "--parent", "B\nC"]
      (settings "fileExtension: kt") 1 (.settingsUnreadable ⟨"./.ribgen"⟩
        "missing configuration field \"targetDirectory\"") (settings "fileExtension: kt") :=
    .settings (loads_of_broken_file rfl rfl (by decide) rfl (by decide +kernel))
  obtain ⟨-, -, hended, -⟩ := json_contract hlooks {} haccepts rfl
  obtain ⟨-, hmet, -⟩ := json_contract hlooks {} haccepts_lost rfl
  obtain ⟨-, hhit, -⟩ := json_contract hlooks {} haccepts_lacking rfl
  dsimp only at hended hmet hhit
  rw [hstart] at hended hmet hhit
  obtain ⟨-, -, hlines, -, -, hcode, -⟩ := hended _ _ _ hready
  obtain ⟨hlost_code, hlost_lines, -⟩ := hmet _ _ _ hlost
  obtain ⟨hlacking_code, hlacking_lines, -⟩ := hhit _ _ _ hlacking
  refine ⟨?_, ?_, hlost_code, hlost_lines.trans ?_, hlacking_code, hlacking_lines.trans ?_⟩
  · refine Int.ofNat_inj.mp (hcode.trans ?_)
    decide +kernel
  · rw [hlines]
    decide +kernel
  · decide +kernel
  · decide +kernel

end CommandLine

end RibTree
