import RibTree.Proofs.Console.Ending

/-!
# Presentation

Flags for the output, the environment and the terminal decide what is printed, and not what is done.
An output that refuses its lines does not either, but for the announcement of an outline: when that
is refused, no step of the outline is run.
-/

namespace RibTree

set_option autoImplicit false

theorem Machine.LooksAt.withEnvironment {σ φ : Type} {machine : Machine (StateM σ)} {files : σ → φ}
    (h : machine.LooksAt files) (environment : Environment) :
    (machine.withEnvironment environment).LooksAt files where
  isFile := h.isFile
  bytes := h.bytes
  workingFolder := h.workingFolder
  variableNamed _ _ := rfl
  isPresent := h.isPresent
  read := h.read

namespace CommandLine

section

variable {σ : Type} {machine : Machine (StateM σ)} {asked : Option Path} {tokens : List String}
variable {before : σ} {environment : Environment} (other : Environment)

theorem loads_withEnvironment {q : Except Problem Settings} {after : σ}
    (h : (machine.withEnvironment environment).Loads asked before q after) :
    (machine.withEnvironment other).Loads asked before q after := by
  have hload : (loadSettings (machine.withEnvironment environment) asked).run.run before =
      (q, after) := run_loadSettings_of_loads h
  exact loads_iff.mpr hload

theorem Obstacle.withEnvironment {code : Nat} {e : Problem} {after : σ}
    (h : Obstacle (machine.withEnvironment environment) asked tokens before code e after) :
    Obstacle (machine.withEnvironment other) asked tokens before code e after := by
  cases h with
  | settings hload => exact .settings (loads_withEnvironment other hload)
  | request hload hrequest => exact .request (loads_withEnvironment other hload) hrequest
  | outline hload hrequest hreads =>
      exact .outline (loads_withEnvironment other hload) hrequest hreads

theorem Ready.withEnvironment {s : Settings} {task : Task} {ready : σ}
    (h : Ready (machine.withEnvironment environment) asked tokens before s task ready) :
    Ready (machine.withEnvironment other) asked tokens before s task ready := by
  cases h with
  | request hload hrequest htask =>
      exact .request (loads_withEnvironment other hload) hrequest htask
  | outline hload hrequest hreads =>
      exact .outline (loads_withEnvironment other hload) hrequest hreads

end

section

variable {σ : Type} {machine : Machine (StateM σ)} (around : Surroundings) {words : List String}
variable {before : σ} {flags : Flags} {tokens : List String}

theorem Ready.heading_eq_none_iff {start : σ} {s : Settings} {task : Task} {ready : σ}
    (h : Ready machine flags.settings tokens start s task ready) (onTerminal : Bool) :
    task.heading (.ofFlags flags onTerminal) = none ↔
      scaffolds tokens = false ∨ flags.quiet ∨ flags.format = some .json := by
  rw [Task.heading_eq_none_iff, h.isSome_title, Display.look_ofFlags_eq_json_iff]
  rfl

theorem ended_same {environment other : Environment} (beside : Surroundings)
    {rephrased : List String} {altered : Flags}
    (haccepts : Accepts (machine.withEnvironment environment) words before flags tokens)
    (hrephrased : Accepts (machine.withEnvironment other) rephrased before altered tokens)
    (hsettings : altered.settings = flags.settings) :
    let left := ended (machine.withEnvironment environment) around words false before
    let varied := ended (machine.withEnvironment other) beside rephrased false before
    varied.exitCode = left.exitCode ∧ varied.after = left.after := by
  intro left varied
  have hstart : begun (machine.withEnvironment other) before =
      begun (machine.withEnvironment environment) before :=
    machine.run_loadVariables_withEnvironment other environment before
  -- the environment is read before the work begins, and neither the obstacle nor the task is
  -- found in it
  rcases obstacle_or_ready (machine.withEnvironment environment) flags.settings tokens
    (begun (machine.withEnvironment environment) before) with
    ⟨code, e, after, h⟩ | ⟨s, task, ready, h⟩
  · have hvaried := h.withEnvironment other
    rw [← hsettings, ← hstart] at hvaried
    rw [show varied = _ from ended_of_obstacle beside hrephrased hvaried false,
      show left = _ from ended_of_obstacle around haccepts h false]
    exact ⟨rfl, rfl⟩
  · have hvaried := h.withEnvironment other
    rw [← hsettings, ← hstart] at hvaried
    rw [show varied = _ from ended_of_ready beside hrephrased hvaried,
      show left = _ from ended_of_ready around haccepts h]
    exact ⟨rfl, rfl⟩

/-! ### Lines that are refused -/

variable (haccepts : Accepts machine words before flags tokens)
include haccepts

theorem ended_full_of_obstacle {code : Nat} {e : Problem} {after : σ}
    (h : Obstacle machine flags.settings tokens (begun machine before) code e after) :
    (ended machine around words true before).exitCode =
        (ended machine around words false before).exitCode ∧
      (ended machine around words true before).after =
        (ended machine around words false before).after := by
  rw [ended_of_obstacle around haccepts h, ended_of_obstacle around haccepts h]
  exact ⟨rfl, rfl⟩

theorem after_ended_of_silent
    (hsilent : scaffolds tokens = false ∨ flags.quiet ∨ flags.format = some .json) :
    (ended machine around words true before).after =
      (ended machine around words false before).after := by
  rcases obstacle_or_ready machine flags.settings tokens (begun machine before) with
    ⟨code, e, after, h⟩ | ⟨s, task, ready, h⟩
  · rw [ended_of_obstacle around haccepts h, ended_of_obstacle around haccepts h]
  · have hheading := (h.heading_eq_none_iff around.outputIsTerminal).mpr hsilent
    rw [ended_of_silent around haccepts h hheading, ended_of_ready around haccepts h]

variable {s : Settings} {task : Task} {ready : σ}
variable (h : Ready machine flags.settings tokens (begun machine before) s task ready)
include h

theorem exitCode_ended_of_ready :
    (ended machine around words true before).exitCode =
      if (ended machine around words false before).lines = [] then
        (ended machine around words false before).exitCode else 1 := by
  rw [ended_of_ready around haccepts h]
  cases hheading : task.heading (.ofFlags flags around.outputIsTerminal) with
  | none => rw [ended_of_silent around haccepts h hheading]
  | some line =>
      rw [ended_of_announced around haccepts h hheading, Task.lines, hheading]
      rfl

theorem after_ended_of_announced (houtline : scaffolds tokens) (hloud : ¬ flags.quiet)
    (htext : flags.format ≠ some .json) :
    (ended machine around words true before).after = ready := by
  have hheading : task.heading (.ofFlags flags around.outputIsTerminal) ≠ none := by
    rw [Ne, h.heading_eq_none_iff, houtline]
    simp [hloud, htext]
  obtain ⟨line, hline⟩ := Option.ne_none_iff_exists'.mp hheading
  rw [ended_of_announced around haccepts h hline]

end

/-- Two command lines for the same request and settings file leave the same state and exit code,
whatever their environments and other flags are. Before an output that refuses every line all is
done as well, but for an outline that is announced, of which nothing is done; the exit code is then
one if there were lines to print for a task, and the same otherwise. With an obstacle the state is
the same too, and no file has changed. -/
theorem presentation_noninterference {σ φ : Type} {machine : Machine (StateM σ)} {files : σ → φ}
    (hlooks : machine.LooksAt files) {environment other : Environment}
    (around beside : Surroundings) {words rephrased : List String} {before : σ}
    {flags altered : Flags} {tokens : List String}
    (haccepts : Accepts (machine.withEnvironment environment) words before flags tokens)
    (hrephrased : Accepts (machine.withEnvironment other) rephrased before altered tokens)
    (hsettings : altered.settings = flags.settings) :
    let own := machine.withEnvironment environment
    let start := begun own before
    let left := ended own around words false before
    let varied := ended (machine.withEnvironment other) beside rephrased false before
    let refused := ended own around words true before
    (varied.exitCode = left.exitCode ∧ varied.after = left.after) ∧
    (scaffolds tokens = false ∨ flags.quiet ∨ flags.format = some .json →
      refused.after = left.after) ∧
    ((∃ code e after, Obstacle own flags.settings tokens start code e after) ∨
      ∃ s task ready, Ready own flags.settings tokens start s task ready) ∧
    (∀ code e after, Obstacle own flags.settings tokens start code e after →
      refused.exitCode = left.exitCode ∧ refused.after = left.after ∧
        files left.after = files before) ∧
    ∀ s task ready, Ready own flags.settings tokens start s task ready →
      refused.exitCode = (if left.lines = [] then left.exitCode else 1) ∧
        (scaffolds tokens → ¬ flags.quiet → flags.format ≠ some .json →
          refused.after = ready ∧ files ready = files before) := by
  intro own start left varied refused
  have hown : own.LooksAt files := hlooks.withEnvironment environment
  refine ⟨ended_same around beside haccepts hrephrased hsettings,
    after_ended_of_silent around haccepts,
    obstacle_or_ready own flags.settings tokens start, ?_, ?_⟩
  · intro code e after h
    obtain ⟨hcode, hafter⟩ := ended_full_of_obstacle around haccepts h
    refine ⟨hcode, hafter, ?_⟩
    rw [show left = _ from ended_of_obstacle around haccepts h false]
    exact (h.files_eq hown).trans (hown.loadVariables before)
  · intro s task ready h
    refine ⟨exitCode_ended_of_ready around haccepts h, fun houtline hloud htext => ?_⟩
    exact ⟨after_ended_of_announced around haccepts h houtline hloud htext,
      (h.files_eq hown).trans (hown.loadVariables before)⟩

theorem presentation_noninterference_of_outline :
    let machine := Disk.machine.withEnvironment fun _ => none
    let colorless := Disk.machine.withEnvironment fun _ => some "true"
    let disk : Disk := ⟨.file ".ribgen" "targetDirectory: S".toUTF8
      (.file "tree.md" "- A".toUTF8 .empty), []⟩
    let words := ["scaffold", "tree.md", "--parent", "R"]
    let left := ended machine {} words false disk
    let quiet := ended colorless {} ("-q" :: words) false disk
    let refused := ended machine {} words true disk
    quiet.exitCode = left.exitCode ∧ quiet.after = left.after ∧ refused.exitCode = 1 ∧
      refused.after = disk ∧ left.after ≠ disk := by
  intro machine colorless disk words left quiet refused
  have hlooks : Disk.machine.LooksAt id := Disk.machine_looksAt fun _ => none
  have hstart : begun machine disk = disk := (hlooks.withEnvironment _).loadVariables disk
  have haccepts : Accepts machine words disk {} words := by
    rw [Accepts]
    decide +kernel
  have hquiet :
      Accepts colorless ("-q" :: words) disk { quiet := true, noColor := true } words := by
    rw [Accepts]
    decide +kernel
  have hready : Ready machine none words disk { targetDirectory := ⟨"S"⟩ }
      (.ofOutline ⟨"tree.md"⟩ "R" [⟨"R", "A", true⟩]) disk := by
    have hread : ((machine.host (.set Standard.templates)).read ⟨"tree.md"⟩).run disk =
        (.ok "- A", disk) := rfl
    have hcompile : compile "- A" "R" = .ok [⟨"R", "A", true⟩] := by decide +kernel
    exact .outline (loads_of_file rfl rfl (by decide) (by decide +kernel))
      (by decide +kernel) (.compiled rfl hread hcompile)
  obtain ⟨⟨hexit, hafter⟩, -, -, -, hended⟩ :=
    presentation_noninterference hlooks {} {} haccepts hquiet rfl
  dsimp only at hended
  rw [hstart] at hended
  obtain ⟨hcode, hidle⟩ := hended _ _ _ hready
  obtain ⟨hrefused, -⟩ := hidle (by decide +kernel) Bool.false_ne_true (by decide)
  have hleft : left = _ := ended_of_ready {} haccepts (hstart ▸ hready)
  have hlines : left.lines ≠ [] := by
    rw [hleft]
    exact List.cons_ne_nil _ _
  refine ⟨hexit, hafter, hcode.trans (if_neg hlines), hrefused, ?_⟩
  rw [hleft]
  decide +kernel

end CommandLine

end RibTree
