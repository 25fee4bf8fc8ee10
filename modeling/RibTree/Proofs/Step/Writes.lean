import RibTree.Proofs.Step.Failure

/-!
# The files that a step writes

The files of a step are read off from the record of its calls: the ones whose writing did not
fail, in order. A step that has created its result has written its drafts and nothing else.
-/

namespace RibTree

set_option autoImplicit false

open Recorded

namespace HostEvent

/-- The file that a call has written. -/
def written? (e : HostEvent) : Option SourceFile :=
  match e.request with
  | .write path content => if e.failed then none else some ⟨path, content⟩
  | .createFolders _ | .read _ | .sources _ _ | .template _ => none

def written (events : List HostEvent) : List SourceFile := events.filterMap written?

theorem written_append (events later : List HostEvent) :
    written (events ++ later) = written events ++ written later := List.filterMap_append

theorem written_of_call {events : List HostEvent} (h : ∀ e ∈ events, e.request.call ≠ .write) :
    written events = [] := by
  apply List.filterMap_eq_nil_iff.mpr
  intro e he
  have hcall := h e he
  obtain ⟨request, failed⟩ := e
  cases request with
  | write path content => exact absurd rfl hcall
  | createFolders | read | sources | template => rfl

end HostEvent

namespace Recorded

variable {α : Type}

theorem Only.written_eq_nil {call : HostCall} {events : List HostEvent} {r : Except Failure α}
    (h : Only call events r) (hcall : call ≠ .write) : HostEvent.written events = [] := by
  apply HostEvent.written_of_call
  intro e he
  rw [h.call e he]
  exact hcall

/-- A recorded computation also tells what it leads to without its record. -/
theorem Tells.of_leads {P : List HostEvent → Except Failure α → Prop} {Q : Except Failure α → Prop}
    {x : ExceptT Failure Recorded α} {y : ExceptT Failure (StateT (List Fault) (StateM Store)) α}
    (h : Tells P x)
    (hxy : (Simulation.unrecorded (StateT (List Fault) (StateM Store))).Rel x.run y.run)
    (hQ : ∀ {before after : Store} {r : Except Failure α}, Leads y.run before r after → Q r) :
    Tells (fun events r => P events r ∧ Q r) x := by
  intro log faults store
  obtain ⟨events, hlog, hP⟩ := h log faults store
  exact ⟨events, hlog, hP, hQ ⟨faults, _, run_of_unrecorded hxy log faults store⟩⟩

end Recorded

namespace Step

section

variable (template : TemplateKey → Except TemplateFailure String) (s : Settings)

theorem tells_renderDrafts (drafts : List Draft) :
    Tells (fun events r => HostEvent.written events = [] ∧
        ∀ files, r = .ok files → List.Forall₂ (Draft.Yields template s) drafts files)
      (drafts.mapM (renderDraft (Store.faultyHost template).recorded s)) := by
  have hreads := tells_only_mapM (tells_renderDraft template s) drafts
  have hunrecorded : (Simulation.unrecorded (StateT (List Fault) (StateM Store))).Rel
      (drafts.mapM (renderDraft (Store.faultyHost template).recorded s)).run
      (drafts.mapM (renderDraft (Store.faultyHost template) s)).run := by
    apply Simulation.run_mapM
    intro d
    exact Simulation.renderFile (Simulation.hosts_recorded (Store.faultyHost template)) _ _ _
  have hyields : ∀ {before after : Store} {r : Except Failure (List SourceFile)},
      Leads (drafts.mapM (renderDraft (Store.faultyHost template) s)).run before r after →
        ∀ files, r = .ok files → List.Forall₂ (Draft.Yields template s) drafts files := by
    rintro before after r hleads files rfl
    obtain ⟨-, ⟨d, hd, e, he, -⟩ | ⟨files', he, hforall⟩⟩ :=
      leads_mapM (fun d _ _ _ => leads_renderDraft (d := d)) hleads
    · exact absurd he (by simp)
    · obtain rfl := Except.ok.inj he
      exact hforall
  apply (hreads.of_leads hunrecorded hyields).weaken
  rintro events r ⟨honly, hfiles⟩
  exact ⟨honly.written_eq_nil (by decide), hfiles⟩

theorem tells_writeFiles (files : List SourceFile) :
    Tells (fun events r => ∀ u, r = .ok u → HostEvent.written events = files)
      (files.forM (writeFile (Store.faultyHost template).recorded)) := by
  induction files with
  | nil =>
      apply (tells_pure ()).weaken
      rintro events r ⟨rfl, -⟩ u hu
      rfl
  | cons file files ih =>
      have hfirst := tells_attempt (.write file.path file.content)
        ((Store.faultyHost template).write file.path file.content)
        fun e => Failure.fileNotCreated file.path e.message
      apply (hfirst.bind fun _ => ih).weaken
      rintro events r (⟨e, -, rfl⟩ | ⟨_, first, rest, rfl, rfl, hrest⟩) u hu
      · exact absurd hu (by simp)
      · rw [HostEvent.written_append, hrest u hu]
        rfl

theorem tells_written_createAll (folder : Path) (drafts : List Draft) (report : Report) :
    Tells (fun events r => ∀ report', r = .ok report' →
        List.Forall₂ (Draft.Yields template s) drafts (HostEvent.written events))
      (createAll (Store.faultyHost template).recorded s folder drafts report) := by
  have hall := (tells_renderDrafts template s drafts).bind fun files =>
    (tells_ensureFolder template folder).bind fun _ =>
      (tells_writeFiles template files).bind fun _ => tells_pure report
  apply hall.weaken
  rintro events r (⟨e, -, rfl⟩ | ⟨files, reads, rest, rfl, ⟨hreads, hyields⟩, hrest⟩) report' hr
  · exact absurd hr (by simp)
  rcases hrest with ⟨e, -, rfl⟩ | ⟨_, folders, last, rfl, hfolders, hlast⟩
  · exact absurd hr (by simp)
  rcases hlast with ⟨e, -, rfl⟩ | ⟨_, writes, _, rfl, hwrites, rfl, -⟩
  · exact absurd hr (by simp)
  rw [HostEvent.written_append, HostEvent.written_append, HostEvent.written_append, hreads,
    hfolders.written_eq_nil (by decide), hwrites _ rfl, HostEvent.written, List.filterMap_nil,
    List.append_nil, List.nil_append, List.nil_append]
  exact hyields files rfl

theorem tells_written_listAndPerform {step : Step} {a : Artifact} (hlead : step.lead? = some a) :
    Tells (fun events r => ∀ message, r = .ok ⟨.created, message⟩ →
        List.Forall₂ (Draft.Yields template s) (step.drafts s) (HostEvent.written events))
      (step.listAndPerform s (Store.faultyHost template).recorded) := by
  have hsources := tells_attempt (.sources s.targetDirectory s.fileExtension)
    ((Store.faultyHost template).sources s.targetDirectory s.fileExtension) Failure.index
  have hperform : ∀ listing, Tells (fun events r => ∀ message, r = .ok ⟨.created, message⟩ →
      List.Forall₂ (Draft.Yields template s) (step.drafts s) (HostEvent.written events))
      (step.perform (Store.faultyHost template).recorded s listing) := by
    intro listing
    rw [perform_of_lead _ s hlead]
    split
    · apply (tells_written_createAll template s _ _ _).weaken
      exact fun events r h message hr => h _ hr
    · apply (tells_pure _).weaken
      rintro events r ⟨-, rfl⟩ message hr
      rw [presence_eq] at hr
      exact absurd hr (by simp)
  apply (hsources.bind hperform).weaken
  rintro events r (⟨e, -, rfl⟩ | ⟨listing, first, rest, rfl, rfl, hrest⟩) message hr
  · exact absurd hr (by simp)
  · exact hrest message hr

end

section

variable (template : TemplateKey → Except TemplateFailure String) (s : Settings) (step : Step)
variable (faults : List Fault) (store : Store)

/-- The files that the step has written by its calls. -/
def written : List SourceFile :=
  HostEvent.written
    (ending (step.run (Store.faultyHost template).recorded s) [] faults store).log

/-- A step that has created its result has written its drafts. -/
theorem yields_written {a : Artifact} (hlead : step.lead? = some a) {message : String}
    (h : (ending (step.run (Store.faultyHost template).recorded s) [] faults store).result.result =
      .ok ⟨.created, message⟩) :
    List.Forall₂ (Draft.Yields template s) (step.drafts s)
      (step.written template s faults store) := by
  have hran := congrArg (ending · [] faults store)
    (step.run_eq_map s (Store.faultyHost template).recorded)
  have htells := (tells_written_listAndPerform template s hlead).log faults store message
  rw [hran] at h
  rw [written, hran]
  exact htells h

end

end Step

theorem Draft.rightUnique_yields (template : TemplateKey → Except TemplateFailure String)
    (s : Settings) : Relator.RightUnique (Draft.Yields template s) := by
  rintro d ⟨path, content⟩ ⟨path', content'⟩ ⟨rfl, hcontent⟩ ⟨rfl, hcontent'⟩
  exact congrArg (SourceFile.mk _) (hcontent.unique hcontent')

end RibTree
