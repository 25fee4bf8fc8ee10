import RibTree.Proofs.Host.Results
import RibTree.Proofs.Step.Outcome

/-!
# What a step can answer

The host of a step may do anything, and still there are few answers that the step can have. They
are listed once. Each failure is one of the step: it names the file, the folder or the builder that
the step was about, and what the host said is only the reason for it.
-/

namespace RibTree

set_option autoImplicit false

namespace Step

/-- What a step can answer, whatever its host does. -/
inductive Answer (s : Settings) : Step → Except Failure Report → Prop
  | unlisted (step : Step) (e : IndexFailure) : Answer s step (.error (.index e))
  | present (step : Step) : Answer s step (.ok (step.presence s))
  | done (step : Step) : Answer s step (.ok (step.success s))
  | noFolder {step : Step} {a : Artifact} (reason : String) :
      step.lead? = some a → Answer s step (.error (.folderNotCreated (a.folder s) reason))
  | noFile {step : Step} {d : Draft} (reason : String) :
      d ∈ step.drafts s → Answer s step (.error (.fileNotCreated (d.artifact.path s) reason))
  | noBuilder (parent child : String) :
      Answer s (.dependency parent child)
        (.error (.builderNotFound parent (s.builderName parent)))
  | notEdited (parent child : String) (path : Path) (reason : String) :
      Answer s (.dependency parent child) (.error (.fileNotEdited path reason))

section

variable {m : Type → Type} [Monad m] [LawfulMonad m] (host : Host m) (s : Settings)

theorem gives_renderDraft {F : Failure → Prop} {d : Draft}
    (hF : ∀ reason, F (.fileNotCreated (d.artifact.path s) reason)) :
    Gives (Ends F fun file => file.path = d.artifact.path s) (renderDraft host s d).run :=
  gives_run_bind (gives_run_attempt _ fun cause => hF cause.message) fun _ _ =>
    gives_run_pure rfl

theorem gives_ensureFolder {F : Failure → Prop} {folder : Path}
    (hF : ∀ reason, F (.folderNotCreated folder reason)) :
    Gives (Ends F fun _ => True) (ensureFolder host folder).run := by
  apply gives_run_bind (gives_run_lift _)
  rintro there -
  cases there with
  | true => exact gives_run_pure trivial
  | false => exact gives_run_attempt _ fun cause => hF cause.message

theorem gives_writeFile {F : Failure → Prop} {file : SourceFile}
    (hF : ∀ reason, F (.fileNotCreated file.path reason)) :
    Gives (Ends F fun _ => True) (writeFile host file).run :=
  gives_run_attempt _ fun cause => hF cause.message

/-- Creating files fails at one of them or at their folder. -/
theorem gives_createAll {F : Failure → Prop} {folder : Path} {drafts : List Draft}
    (report : Report) (hfolder : ∀ reason, F (.folderNotCreated folder reason))
    (hfiles : ∀ d ∈ drafts, ∀ reason, F (.fileNotCreated (d.artifact.path s) reason)) :
    Gives (Ends F fun r => r = report) (createAll host s folder drafts report).run := by
  refine gives_run_bind (gives_run_mapM fun d hd => gives_renderDraft host s (hfiles d hd)) ?_
  intro files hdrafts
  refine gives_run_bind (gives_ensureFolder host hfolder) fun _ _ => ?_
  refine gives_run_bind (gives_run_forM fun file hfile => gives_writeFile host ?_) fun _ _ =>
    gives_run_pure rfl
  obtain ⟨d, hd, hpath⟩ := exists_mem_of_forall₂ hdrafts hfile
  rw [hpath]
  exact hfiles d hd

theorem gives_addDependency {F : Failure → Prop} (path : Path) (parent child : String)
    (hF : ∀ reason, F (.fileNotEdited path reason)) :
    Gives (Ends F fun r => r = (dependency parent child).presence s ∨
      r = (dependency parent child).success s) (addDependency host s path parent child).run := by
  refine gives_run_bind (P := fun _ => True)
    (gives_run_attempt (host.read path) fun cause => hF cause.message) fun source _ => ?_
  cases Declaration.isDeclared child source with
  | true => exact gives_run_pure (Or.inl rfl)
  | false =>
      cases Declaration.insertAbove s.dependencyAnchor (Declaration.statement child) source with
      | none => exact gives_run_throw (hF _)
      | some updated =>
          exact gives_run_bind (gives_run_attempt _ fun cause => hF cause.message) fun _ _ =>
            gives_run_pure (Or.inr rfl)

theorem answer_of_ends {step : Step} {r : Except Failure Report}
    (h : Ends (fun e => step.Answer s (.error e))
      (fun report => report = step.presence s ∨ report = step.success s) r) :
    step.Answer s r := by
  cases r with
  | error e => exact h
  | ok report =>
      rcases h with rfl | rfl
      · exact .present step
      · exact .done step

/-- Whatever a step is shown and whatever its host does, its answer is one of the list. -/
theorem gives_perform (step : Step) (listing : List Path) :
    Gives (step.Answer s) (step.perform host s listing).run := by
  refine Gives.weaken (P := Ends (fun e => step.Answer s (.error e))
    fun report => report = step.presence s ∨ report = step.success s) ?_
    fun _ => answer_of_ends s
  cases hlead : step.lead? with
  | some a =>
      rw [perform_of_lead host s hlead]
      split
      · refine Gives.weaken (gives_createAll (F := fun e => step.Answer s (.error e)) host s _
          (fun reason => .noFolder reason hlead) fun d hd reason => .noFile reason hd) ?_
        rintro (e | report) h
        · exact h
        · exact Or.inr h
      · exact gives_run_pure (Or.inl rfl)
  | none =>
      cases step with
      | component | extension => simp [lead?] at hlead
      | dependency parent child =>
          rw [perform]
          split
          · exact gives_run_throw (.noBuilder parent child)
          · exact gives_addDependency host s _ parent child fun reason =>
              .notEdited parent child _ reason

/-- The report of a step names the step and has one of its answers. -/
structure Reported (step : Step) (r : StepReport) : Prop where
  command : r.command = step.command
  parent : r.parent = step.parent
  target : r.target = step.target
  answer : step.Answer s r.result

theorem gives_run (step : Step) : Gives (step.Reported s) (step.run host s) := by
  have hperformed : Gives (step.Answer s) (do
      let listing ← attempt (host.sources s.targetDirectory s.fileExtension) .index
      step.perform host s listing : ExceptT Failure m Report).run := by
    refine Gives.bind (P := Ends (fun e => step.Answer s (.error e)) fun _ => True)
      (gives_run_attempt _ fun cause => .unlisted step cause) ?_
    rintro (e | listing) h
    · exact gives_pure (P := step.Answer s) h
    · exact gives_perform host s step listing
  exact hperformed.bind fun r hr => gives_pure ⟨rfl, rfl, rfl, hr⟩

end

/-- A step does something, or reports that it had nothing to do, or fails. -/
theorem Answer.status_ne_info {s : Settings} {step : Step} {report : Report}
    (h : step.Answer s (.ok report)) : report.status ≠ .info := by
  cases h with
  | present => cases step <;> simp [presence]
  | done => cases step <;> simp [success]

end Step

end RibTree
