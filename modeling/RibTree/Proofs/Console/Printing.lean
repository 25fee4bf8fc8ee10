import RibTree.Proofs.Console.Machine
import RibTree.Proofs.Run.Accounting

/-!
# Printing reports

A run that prints its reports does to the machine what a run does that only keeps them: the lines
are an account of the reports, made one by one, and the first line that is refused is remembered
while the run goes on. What an output makes of a list of reports is therefore a fold over them.
-/

namespace RibTree

set_option autoImplicit false

def Output.note (o : Output) (lines : List LogLine) : Output := { o with log := o.log ++ lines }

def Output.take (o : Output) : Option String → Except Problem Unit × Output
  | none => (.ok (), o)
  | some line => ((o.print line).1.mapError .terminal, (o.print line).2)

/-- The first refusal and the output after one more report. -/
def Display.account (display : Display) (anchor : String) :
    Option Problem × Output → StepReport → Option Problem × Output
  | (refusal, o), report =>
      let noted := o.note ((LogLine.ofStep anchor report).filter (·.isShown display.quiet))
      match refusal with
      | some e => (some e, noted)
      | none =>
          match noted.take (display.step report) with
          | (.ok (), taken) => (none, taken)
          | (.error e, taken) => (some e, taken)

section

variable {σ α β : Type}

/-- A computation that remembers a refusal, before an output, on a machine. -/
abbrev Printing (σ α : Type) : Type := StateT (Option Problem) (StateT Output (StateM σ)) α

/-- What a computation comes to from a refusal, an output and a state. -/
def Printing.ends (x : Printing σ α) (told : Option Problem × Output) (before : σ) :
    α × (Option Problem × Output) × σ :=
  let ended := ((x.run told.1).run told.2).run before
  (ended.1.1.1, (ended.1.1.2, ended.1.2), ended.2)

theorem Printing.ends_bind {x : Printing σ α} {f : α → Printing σ β}
    {told later : Option Problem × Output} {before between : σ} {a : α}
    (h : x.ends told before = (a, later, between)) :
    (x >>= f : Printing σ β).ends told before = (f a).ends later between := by
  change Printing.ends (f (x.ends told before).1) (x.ends told before).2.1
    (x.ends told before).2.2 = _
  rw [h]

theorem Printing.ends_liftM {x : StateT Output (StateM σ) α} {o : Output} {before between : σ}
    {ended : α × Output} (h : (x.run o).run before = (ended, between)) (refusal : Option Problem) :
    Printing.ends (liftM x) (refusal, o) before = (ended.1, (refusal, ended.2), between) := by
  change ((((x.run o).run before).1.1, (refusal, ((x.run o).run before).1.2),
    ((x.run o).run before).2) : _ × _ × _) = _
  rw [h]

end

namespace CommandLine

section

variable {σ : Type} (machine : Machine (StateM σ)) (display : Display)

theorem run_note (lines : List LogLine) (o : Output) (before : σ) :
    ((note machine.withOutput display lines).run o).run before =
      (((), o.note (lines.filter (·.isShown display.quiet))), before) := by
  rw [note]
  induction lines.filter (·.isShown display.quiet) generalizing o with
  | nil =>
      rw [Output.note, List.append_nil]
      rfl
  | cons line shown ih =>
      refine (ih (o.note [line])).trans ?_
      rw [Output.note, Output.note, Output.note, List.append_assoc]
      rfl

theorem run_print (line : Option String) (o : Output) (before : σ) :
    ((print machine.withOutput line).run.run o).run before = (o.take line, before) := by
  cases line <;> rfl

theorem ends_printStep (s : Settings) (report : StepReport) (told : Option Problem × Output)
    (before : σ) :
    Printing.ends (printStep machine.withOutput display s report) told before =
      ((), display.account s.dependencyAnchor told report, before) := by
  obtain ⟨refusal, o⟩ := told
  have hnoted := Printing.ends_liftM
    (run_note machine display (LogLine.ofStep s.dependencyAnchor report) o before) refusal
  rw [printStep, Printing.ends_bind hnoted]
  cases refusal with
  | some e => rfl
  | none =>
      rw [Display.account]
      generalize o.note _ = later
      have hgot : Printing.ends (get : Printing σ (Option Problem)) (none, later) before =
        (none, (none, later), before) := rfl
      have hprinted := Printing.ends_liftM
        (run_print machine (display.step report) later before) none
      rw [Printing.ends_bind hgot, Option.isNone_none, if_pos rfl]
      refine (Printing.ends_bind hprinted).trans ?_
      rcases later.take (display.step report) with ⟨⟨⟩ | e, taken⟩
      · rfl
      · rfl

end

end CommandLine

section

variable {σ : Type}

/-- A computation that prints reports corresponds to one that keeps them, when what it remembers is
an account of what the other has kept. -/
def Simulation.printing (σ : Type) (display : Display) (anchor : String) :
    Simulation (StateT (Option Problem) (StateT Output (StateM σ)))
      (StateT (List StepReport) (StateM σ)) where
  Rel x y := ∀ before, ∃ a reports after,
    (∀ kept, (y.run kept).run before = ((a, kept ++ reports), after)) ∧
      ∀ told, Printing.ends x told before =
        (a, reports.foldl (display.account anchor) told, after)
  pure a before := by
    refine ⟨a, [], before, fun kept => ?_, fun told => rfl⟩
    rw [List.append_nil]
    rfl
  bind {α β x y f g} hx hf before := by
    obtain ⟨a, reports, between, hkept, htold⟩ := hx before
    obtain ⟨b, later, after, hkeptLater, htoldLater⟩ := hf a between
    refine ⟨b, reports ++ later, after, fun kept => ?_, fun told => ?_⟩
    · have hbind : ((y >>= g).run kept).run before =
          ((g ((y.run kept).run before).1.1).run ((y.run kept).run before).1.2).run
            ((y.run kept).run before).2 := rfl
      rw [hbind, hkept, hkeptLater, List.append_assoc]
    · rw [Printing.ends_bind (htold told), htoldLater, List.foldl_append]

namespace CommandLine

variable (machine : Machine (StateM σ)) (display : Display) (s : Settings)

theorem hosts_printing (templates : TemplateSource) (anchor : String) :
    (Simulation.printing σ display anchor).Hosts (machine.withOutput.host templates).lift
      (machine.host templates).lift := by
  have hcall : ∀ {α : Type} (call : StateM σ α), (Simulation.printing σ display anchor).Rel
      (liftM (liftM call : StateT Output (StateM σ) α)) (liftM call) := by
    intro α call before
    refine ⟨(call.run before).1, [], (call.run before).2, fun kept => ?_, fun told => rfl⟩
    rw [List.append_nil]
    rfl
  exact
    { createFolders := fun _ => hcall _
      write := fun _ _ => hcall _
      read := fun _ => hcall _
      isPresent := fun _ => hcall _
      isFolder := fun _ => hcall _
      sources := fun _ _ => hcall _
      template := fun _ => hcall _ }

theorem rel_printStep (report : StepReport) :
    (Simulation.printing σ display s.dependencyAnchor).Rel
      (printStep machine.withOutput display s report) (keep report) := by
  intro before
  exact ⟨(), [report], before, fun kept => rfl, fun told =>
    ends_printStep machine display s report told before⟩

end CommandLine

end

end RibTree
