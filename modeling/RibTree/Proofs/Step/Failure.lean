import RibTree.Proofs.Host.Recording
import RibTree.Proofs.Step.Outcome

/-!
# Steps that fail

A step that creates files reads all its templates, then makes sure of its folder, then writes; it
stops at the first call that fails. What a failed call has left is read off from the record of the
calls. Steps that write one file leave every file as it was when they fail.
-/

namespace RibTree

set_option autoImplicit false

open Recorded

namespace Step

/-- The order in which a step makes its calls, as far as one of them has failed. -/
structure Orderly (step : Step) (events : List HostEvent) : Prop where
  unread : ∀ e ∈ events, e.request.call = .template → e.failed = true →
    ∀ other ∈ events, other.request.call ≠ .createFolders ∧ other.request.call ≠ .write
  noFolder : ∀ e ∈ events, e.request.call = .createFolders → e.failed = true →
    ∀ other ∈ events, other.request.call ≠ .write
  edits : step.command = .addDependency →
    events.countP (fun e => e.request.call == .write) ≤ 1 ∧
      ∀ e ∈ events, e.request.call ≠ .createFolders

theorem orderly_nil (step : Step) : step.Orderly [] := ⟨by simp, by simp, by simp⟩

theorem Orderly.cons {step : Step} {events : List HostEvent} (h : step.Orderly events)
    {e : HostEvent} (he : e.request.call = .sources) : step.Orderly (e :: events) := by
  have hother : ∀ call, call ≠ .sources → e.request.call ≠ call := by
    intro call hcall hsame
    exact hcall (hsame.symm.trans he)
  constructor
  · intro failure hfailure hcall hfailed
    rcases List.mem_cons.mp hfailure with rfl | hfailure
    · exact absurd hcall (hother _ (by decide))
    · exact List.forall_mem_cons.mpr ⟨⟨hother _ (by decide), hother _ (by decide)⟩,
        h.unread failure hfailure hcall hfailed⟩
  · intro failure hfailure hcall hfailed
    rcases List.mem_cons.mp hfailure with rfl | hfailure
    · exact absurd hcall (hother _ (by decide))
    · exact List.forall_mem_cons.mpr
        ⟨hother _ (by decide), h.noFolder failure hfailure hcall hfailed⟩
  · intro hcommand
    obtain ⟨hwrites, hfolders⟩ := h.edits hcommand
    refine ⟨?_, List.forall_mem_cons.mpr ⟨hother _ (by decide), hfolders⟩⟩
    rw [List.countP_cons, he]
    exact hwrites

/-- Calls of three kinds, one kind after the other, up to the first kind in which one fails. -/
theorem orderly_of_stages {step : Step} {reads : List HostEvent} (folders writes : List HostEvent)
    (hcommand : step.command ≠ .addDependency)
    (hreads : ∀ e ∈ reads, e.request.call = .template)
    (hfolders : ∀ e ∈ folders, e.request.call = .createFolders)
    (hwrites : ∀ e ∈ writes, e.request.call = .write)
    (hunread : (∃ e ∈ reads, e.failed = true) → folders = [] ∧ writes = [])
    (hnoFolder : (∃ e ∈ folders, e.failed = true) → writes = []) :
    step.Orderly (reads ++ (folders ++ writes)) := by
  have hcases : ∀ e ∈ reads ++ (folders ++ writes), e ∈ reads ∨ e ∈ folders ∨ e ∈ writes := by
    intro e he
    exact (List.mem_append.mp he).imp_right List.mem_append.mp
  constructor
  · intro e he hcall hfailed other hother
    have hread : e ∈ reads := by
      rcases hcases e he with he | he | he
      · exact he
      · exact absurd ((hfolders e he).symm.trans hcall) (by decide)
      · exact absurd ((hwrites e he).symm.trans hcall) (by decide)
    obtain ⟨rfl, rfl⟩ := hunread ⟨e, hread, hfailed⟩
    rw [List.append_nil, List.append_nil] at hother
    rw [hreads other hother]
    decide
  · intro e he hcall hfailed other hother
    have hfolder : e ∈ folders := by
      rcases hcases e he with he | he | he
      · exact absurd ((hreads e he).symm.trans hcall) (by decide)
      · exact he
      · exact absurd ((hwrites e he).symm.trans hcall) (by decide)
    obtain rfl := hnoFolder ⟨e, hfolder, hfailed⟩
    rcases hcases other hother with hother | hother | hother
    · rw [hreads other hother]
      decide
    · rw [hfolders other hother]
      decide
    · simp at hother
  · exact fun h => absurd h hcommand

section

variable (template : TemplateKey → Except TemplateFailure String) (s : Settings)

theorem tells_renderDraft (d : Draft) :
    Tells (Only .template) (renderDraft (Store.faultyHost template).recorded s d) :=
  tells_only_bind (tells_only_attempt rfl _ _) fun _ => tells_only_pure _

theorem tells_ensureFolder (folder : Path) :
    Tells (Only .createFolders) (ensureFolder (Store.faultyHost template).recorded folder) := by
  apply tells_only_bind (tells_only_liftM _)
  intro there
  cases there with
  | true => exact tells_only_pure ()
  | false => exact tells_only_attempt rfl _ _

theorem tells_writeFile (file : SourceFile) :
    Tells (Only .write) (writeFile (Store.faultyHost template).recorded file) :=
  tells_only_attempt rfl _ _

theorem tells_createAll {step : Step} (hcommand : step.command ≠ .addDependency) (folder : Path)
    (drafts : List Draft) (report : Report) :
    Tells (fun events _ => step.Orderly events)
      (createAll (Store.faultyHost template).recorded s folder drafts report) := by
  have hreads := tells_only_mapM (tells_renderDraft template s) drafts
  have hfolder := tells_ensureFolder template folder
  have hwrites := fun files : List SourceFile =>
    tells_only_forM (tells_writeFile template) files
  have hall := hreads.bind fun files => hfolder.bind fun _ =>
    (hwrites files).bind fun _ => tells_pure report
  apply hall.weaken
  have hpassed : ∀ {events : List HostEvent}, (∀ e ∈ events, e.failed = false) →
      ¬ ∃ e ∈ events, e.failed = true := by
    rintro events h ⟨e, he, hfailed⟩
    rw [h e he] at hfailed
    exact absurd hfailed (by decide)
  -- The calls have ended at a template, at the folder, at a file or with all files written.
  rintro events r (⟨e, hread, -⟩ | ⟨files, reads, rest, rfl, hread, hrest⟩)
  · have := orderly_of_stages [] [] hcommand hread.call (by simp) (by simp)
      (fun _ => ⟨rfl, rfl⟩) fun _ => rfl
    rwa [List.append_nil, List.append_nil] at this
  have hread' := hpassed (hread.passed files rfl)
  rcases hrest with ⟨e, hensured, -⟩ | ⟨_, folders, last, rfl, hensured, hlast⟩
  · have := orderly_of_stages rest [] hcommand hread.call hensured.call (by simp)
      (fun h => absurd h hread') fun _ => rfl
    rwa [List.append_nil] at this
  have hensured' := hpassed (hensured.passed _ rfl)
  rcases hlast with ⟨e, hwrote, -⟩ | ⟨_, writes, _, rfl, hwrote, rfl, -⟩
  · exact orderly_of_stages folders _ hcommand hread.call hensured.call hwrote.call
      (fun h => absurd h hread') fun h => absurd h hensured'
  · rw [List.append_nil]
    exact orderly_of_stages folders _ hcommand hread.call hensured.call hwrote.call
      (fun h => absurd h hread') fun h => absurd h hensured'

theorem tells_addDependency (path : Path) (parent child : String) :
    Tells (fun events _ => ∃ read writes, events = read :: writes ∧ read.request.call = .read ∧
        writes.length ≤ 1 ∧ ∀ e ∈ writes, e.request.call = .write)
      (addDependency (Store.faultyHost template).recorded s path parent child) := by
  have hread := tells_attempt (.read path) ((Store.faultyHost template).read path)
    fun e => Failure.fileNotEdited path e.message
  refine (hread.bind (Q := fun _ events _ => events.length ≤ 1 ∧
    ∀ e ∈ events, e.request.call = .write) ?_).weaken ?_
  · intro source
    cases Declaration.isDeclared child source with
    | true =>
        apply (tells_pure _).weaken
        rintro events r ⟨rfl, -⟩
        simp
    | false =>
        cases Declaration.insertAbove s.dependencyAnchor (Declaration.statement child) source with
        | none =>
            apply (tells_throw _).weaken
            rintro events r ⟨rfl, -⟩
            simp
        | some updated =>
            have hwrite := tells_attempt (.write path updated)
              ((Store.faultyHost template).write path updated)
              fun e => Failure.fileNotEdited path e.message
            apply (hwrite.bind fun _ => tells_pure _).weaken
            rintro events r (⟨e, rfl, -⟩ | ⟨_, first, rest, rfl, rfl, rfl, -⟩) <;>
              simp [HostRequest.call]
  · rintro events r (⟨e, rfl, -⟩ | ⟨source, first, rest, rfl, rfl, hlength, hwrites⟩)
    · exact ⟨_, [], rfl, rfl, by simp, by simp⟩
    · exact ⟨_, rest, rfl, rfl, hlength, hwrites⟩

theorem orderly_of_edit {step : Step} {read : HostEvent} {writes : List HostEvent}
    (hread : read.request.call = .read) (hlength : writes.length ≤ 1)
    (hwrites : ∀ e ∈ writes, e.request.call = .write) : step.Orderly (read :: writes) := by
  have hother : ∀ call, call ≠ .read → call ≠ .write →
      ∀ e ∈ read :: writes, e.request.call ≠ call := by
    intro call hnoRead hnoWrite e he hcall
    rcases List.mem_cons.mp he with rfl | he
    · exact hnoRead (hcall.symm.trans hread)
    · exact hnoWrite (hcall.symm.trans (hwrites e he))
  constructor
  · intro e he hcall
    exact absurd hcall (hother _ (by decide) (by decide) e he)
  · intro e he hcall
    exact absurd hcall (hother _ (by decide) (by decide) e he)
  · intro _
    refine ⟨?_, hother _ (by decide) (by decide)⟩
    rw [List.countP_cons, hread]
    exact Nat.le_trans List.countP_le_length hlength

/-- Whatever listing a step is performed in view of, its calls are in order. -/
theorem tells_perform (step : Step) (listing : List Path) :
    Tells (fun events _ => step.Orderly events)
      (step.perform (Store.faultyHost template).recorded s listing) := by
  have hpure : ∀ report : Report, Tells (fun events _ => step.Orderly events)
      (pure report : ExceptT Failure Recorded Report) := by
    intro report
    apply (tells_pure report).weaken
    rintro events r ⟨rfl, -⟩
    exact orderly_nil step
  cases hlead : step.lead? with
  | some a =>
      have hcommand : step.command ≠ .addDependency := by
        cases step with
        | component | extension => simp [command]
        | dependency => simp [lead?] at hlead
      rw [perform_of_lead _ s hlead]
      split
      · exact tells_createAll template s hcommand _ _ _
      · exact hpure _
  | none =>
      cases step with
      | component | extension => simp [lead?] at hlead
      | dependency parent child =>
          rw [perform]
          split
          · apply (tells_throw _).weaken
            rintro events r ⟨rfl, -⟩
            exact orderly_nil _
          · apply (tells_addDependency template s _ parent child).weaken
            rintro events r ⟨read, writes, rfl, hread, hlength, hwrites⟩
            exact orderly_of_edit hread hlength hwrites

end

variable {template : TemplateKey → Except TemplateFailure String} {s : Settings}
variable {before after : Store}

/-- One file that could not be created has not been written. -/
theorem Creating.eq_or_ensured {folder : Path} {d : Draft} {e : Failure}
    (h : Creating template s before folder [d] (.error e) after) :
    after = before ∨ after = before.addFolders folder.parts := by
  cases h with
  | unrendered | noFolder => exact Or.inl rfl
  | @stopped done rest file ensured _ reason hyields hensured hwrote =>
      have hlength : 1 = (done ++ file :: rest).length := hyields.length_eq
      rw [List.length_append, List.length_cons] at hlength
      obtain rfl : done = [] := List.length_eq_zero_iff.mp (by omega)
      cases hwrote
      rcases hensured with ⟨-, rfl⟩ | ⟨-, hcreate⟩
      · exact Or.inl rfl
      · exact Or.inr (Store.createFolders_eq_ok_iff.mp hcreate).2

theorem Editing.eq_of_error {path : Path} {child : String} {e : Failure}
    (h : Editing s before path child (.error e) after) : after = before := by
  cases h <;> rfl

theorem Editing.eq_of_skipped {path : Path} {child message : String}
    (h : Editing s before path child (.ok ⟨.skipped, message⟩) after) : after = before := by
  cases h
  rfl

/-- What the listing shows decides what a step does, but not how much it can do. -/
theorem cases_of_leads_perform {step : Step} {listing : List Path} {r : Except Failure Report}
    (h : Leads (step.perform (Store.faultyHost template) s listing).run before r after) :
    after = before ∨
      (∃ a q, step.lead? = some a ∧
        Creating template s before (a.folder s) (step.drafts s) q after ∧
        r = q.map fun _ => step.success s) ∨
      ∃ path parent child, step = .dependency parent child ∧ Editing s before path child r after := by
  cases hlead : step.lead? with
  | some a =>
      rw [perform_of_lead _ s hlead] at h
      split at h
      · obtain ⟨q, hcreating, hr⟩ := leads_createAll h
        exact Or.inr (Or.inl ⟨a, q, rfl, hcreating, hr⟩)
      · exact Or.inl (leads_pure h).2
  | none =>
      cases step with
      | component | extension => simp [lead?] at hlead
      | dependency parent child =>
          rw [perform] at h
          split at h
          · exact Or.inl (leads_pure h).2
          · exact Or.inr (Or.inr ⟨_, parent, child, rfl, leads_addDependency h⟩)

theorem eq_or_addFolders_of_error {step : Step} {listing : List Path} {e : Failure}
    (h : Leads (step.perform (Store.faultyHost template) s listing).run before (.error e) after)
    (hcommand : step.command ≠ .createComponent) :
    after = before ∨ ∃ parent child, step = .extension parent child ∧
      after = before.addFolders (s.extensionFolder parent).parts := by
  rcases cases_of_leads_perform h with rfl | ⟨a, q, hlead, hcreating, hr⟩ |
    ⟨path, parent, child, rfl, hediting⟩
  · exact Or.inl rfl
  · cases step with
    | component => exact absurd rfl hcommand
    | dependency => simp [lead?] at hlead
    | extension parent child =>
        cases q with
        | ok files => simp [Except.map] at hr
        | error e' =>
            obtain rfl := Option.some.inj hlead
            exact hcreating.eq_or_ensured.imp_right fun hafter => ⟨parent, child, rfl, hafter⟩
  · exact Or.inl hediting.eq_of_error

theorem eq_of_skipped {step : Step} {listing : List Path} {message : String}
    (h : Leads (step.perform (Store.faultyHost template) s listing).run before
      (.ok ⟨.skipped, message⟩) after) : after = before := by
  rcases cases_of_leads_perform h with rfl | ⟨a, q, hlead, hcreating, hr⟩ |
    ⟨path, parent, child, rfl, hediting⟩
  · rfl
  · cases q with
    | error e => simp [Except.map] at hr
    | ok files =>
        have hstatus : Status.skipped = (step.success s).status :=
          congrArg Report.status (Except.ok.inj hr)
        cases step <;> simp [success] at hstatus
  · exact hediting.eq_of_skipped

/-- How little a step has changed when a call of it has failed, when it has failed as a step that
writes one file, and when it was skipped. The events are its calls. -/
structure Spares (s : Settings) (step : Step) (before : Store) (r : Except Failure Report)
    (events : List HostEvent) (after : Store) : Prop where
  of_unread : (∃ e ∈ events, e.request.call = .template ∧ e.failed = true) → after = before
  of_noFolder : (∃ e ∈ events, e.request.call = .createFolders ∧ e.failed = true) →
    (∀ e ∈ events, e.request.call ≠ .write) ∧ after.files = before.files ∧
      after.writes = before.writes
  of_error : (∃ e, r = .error e) → step.command ≠ .createComponent →
    after = before ∨ ∃ parent child, step = .extension parent child ∧
      after = before.addFolders (s.extensionFolder parent).parts
  of_dependency : step.command = .addDependency →
    events.countP (fun e => e.request.call == .write) ≤ 1 ∧
      (∀ e ∈ events, e.request.call ≠ .createFolders) ∧ after.folders = before.folders
  of_skipped : (∃ message, r = .ok ⟨.skipped, message⟩) → after = before

theorem Orderly.spares {step : Step} {events : List HostEvent} (h : step.Orderly events)
    {r : Except Failure Report} (hafter : after = HostEvent.replay events before)
    (herror : ∀ e, r = .error e → step.command ≠ .createComponent →
      after = before ∨ ∃ parent child, step = .extension parent child ∧
        after = before.addFolders (s.extensionFolder parent).parts)
    (hskipped : ∀ message, r = .ok ⟨.skipped, message⟩ → after = before) :
    step.Spares s before r events after where
  of_unread := by
    rintro ⟨e, he, hcall, hfailed⟩
    rw [hafter]
    exact HostEvent.replay_of_forall (h.unread e he hcall hfailed) before
  of_noFolder := by
    rintro ⟨e, he, hcall, hfailed⟩
    have hwrites := h.noFolder e he hcall hfailed
    rw [hafter]
    exact ⟨hwrites, HostEvent.files_replay hwrites before⟩
  of_error := fun ⟨e, he⟩ => herror e he
  of_dependency := by
    intro hcommand
    obtain ⟨hwrites, hfolders⟩ := h.edits hcommand
    rw [hafter]
    exact ⟨hwrites, hfolders, HostEvent.folders_replay hfolders before⟩
  of_skipped := fun ⟨message, hmessage⟩ => hskipped message hmessage

section

variable (template : TemplateKey → Except TemplateFailure String) (s : Settings) (step : Step)
variable (faults : List Fault) (before : Store)

theorem spares_perform (listing : List Path) :
    let ran := ending (step.perform (Store.faultyHost template).recorded s listing).run [] faults
      before
    ((step.perform (Store.faultyHost template) s listing).run.run faults).run before =
        ((ran.result, ran.left), ran.after) ∧
      step.Spares s before ran.result ran.log ran.after := by
  intro ran
  have hrun := run_of_unrecorded
    (Simulation.perform (Simulation.hosts_recorded (Store.faultyHost template)) s listing step)
    [] faults before
  have hleads : Leads (step.perform (Store.faultyHost template) s listing).run before ran.result
      ran.after := ⟨faults, _, hrun⟩
  have hafter : ran.after = HostEvent.replay ran.log before :=
    (Simulation.perform (Simulation.hosts_accounted template) s listing step).2.after_eq _ _
  have horderly : step.Orderly ran.log := (tells_perform template s step listing).log faults before
  refine ⟨hrun, horderly.spares hafter ?_ ?_⟩
  · intro e he hcommand
    rw [he] at hleads
    exact eq_or_addFolders_of_error hleads hcommand
  · intro message hmessage
    rw [hmessage] at hleads
    exact eq_of_skipped hleads

/-- A step without the names in its report. -/
def listAndPerform {m : Type → Type} [Monad m] (host : Host m) : ExceptT Failure m Report := do
  let listing ← attempt (host.sources s.targetDirectory s.fileExtension) .index
  step.perform host s listing

theorem run_eq_map {m : Type → Type} [Monad m] [LawfulMonad m] (host : Host m) :
    step.run host s =
      (StepReport.mk step.command step.parent step.target) <$> (step.listAndPerform s host).run := by
  rw [← bind_pure_comp]
  rfl

theorem rel_listAndPerform {m n : Type → Type} [Monad m] [Monad n] [LawfulMonad m] [LawfulMonad n]
    {R : Simulation m n} {h : Host m} {k : Host n} (hosts : R.Hosts h k) :
    R.Rel (step.listAndPerform s h).run (step.listAndPerform s k).run :=
  Simulation.run_bind (Simulation.attempt (hosts.sources _ _) _)
    fun listing => Simulation.perform hosts s listing step

theorem tells_listAndPerform :
    Tells (fun events _ => step.Orderly events)
      (step.listAndPerform s (Store.faultyHost template).recorded) := by
  have hsources := tells_attempt (.sources s.targetDirectory s.fileExtension)
    ((Store.faultyHost template).sources s.targetDirectory s.fileExtension) Failure.index
  apply (hsources.bind fun listing => tells_perform template s step listing).weaken
  rintro events r (⟨e, rfl, -⟩ | ⟨listing, first, rest, rfl, rfl, hrest⟩)
  · exact (orderly_nil step).cons rfl
  · exact hrest.cons rfl

theorem spares_listAndPerform :
    let ran := ending (step.listAndPerform s (Store.faultyHost template).recorded).run [] faults
      before
    ((step.listAndPerform s (Store.faultyHost template)).run.run faults).run before =
        ((ran.result, ran.left), ran.after) ∧
      step.Spares s before ran.result ran.log ran.after := by
  intro ran
  have hrun := run_of_unrecorded
    (rel_listAndPerform s step (Simulation.hosts_recorded (Store.faultyHost template)))
    [] faults before
  have hafter : ran.after = HostEvent.replay ran.log before :=
    (rel_listAndPerform s step (Simulation.hosts_accounted template)).2.after_eq _ _
  have horderly : step.Orderly ran.log := (tells_listAndPerform template s step).log faults before
  have hleads : Leads (step.listAndPerform s (Store.faultyHost template)).run before ran.result
      ran.after := ⟨faults, _, hrun⟩
  refine ⟨hrun, horderly.spares hafter ?_ ?_⟩
  · intro e he hcommand
    rw [he] at hleads
    rcases leads_run_bind hleads with ⟨e', hlisting, -⟩ | ⟨listing, between, hlisting, hperform⟩
    · obtain ⟨q, hq, -⟩ := leads_attempt hlisting
      exact Or.inl (Store.leads_sources hq).1
    · obtain ⟨q, hq, -⟩ := leads_attempt hlisting
      obtain ⟨rfl, -⟩ := Store.leads_sources hq
      exact eq_or_addFolders_of_error hperform hcommand
  · intro message hmessage
    rw [hmessage] at hleads
    rcases leads_run_bind hleads with ⟨e', hlisting, he⟩ | ⟨listing, between, hlisting, hperform⟩
    · exact absurd he (by simp)
    · obtain ⟨q, hq, -⟩ := leads_attempt hlisting
      obtain ⟨rfl, -⟩ := Store.leads_sources hq
      exact eq_of_skipped hperform

theorem spares_run :
    let ran := ending (step.run (Store.faultyHost template).recorded s) [] faults before
    ((step.run (Store.faultyHost template) s).run faults).run before =
        ((ran.result, ran.left), ran.after) ∧
      step.Spares s before ran.result.result ran.log ran.after := by
  intro ran
  have hrun := run_of_unrecorded
    (Simulation.run (Simulation.hosts_recorded (Store.faultyHost template)) s step)
    [] faults before
  have hran : ran = _ := congrArg (ending · [] faults before)
    (step.run_eq_map s (Store.faultyHost template).recorded)
  refine ⟨hrun, ?_⟩
  rw [hran]
  exact (spares_listAndPerform template s step faults before).2

end

end Step

/-- Whatever fails behind a step, also when it is performed in view of a listing that is out of
date: a template that could not be read has kept everything as it was, a folder that could not be
created has kept all files, the steps that write one file have written none if they have failed,
and a step that was skipped has changed nothing. -/
theorem step_spares (template : TemplateKey → Except TemplateFailure String) (s : Settings)
    (step : Step) (faults : List Fault) (before : Store) :
    (∀ listing,
      let ran := ending (step.perform (Store.faultyHost template).recorded s listing).run [] faults
        before
      ((step.perform (Store.faultyHost template) s listing).run.run faults).run before =
          ((ran.result, ran.left), ran.after) ∧
        step.Spares s before ran.result ran.log ran.after) ∧
    let ran := ending (step.run (Store.faultyHost template).recorded s) [] faults before
    ((step.run (Store.faultyHost template) s).run faults).run before =
        ((ran.result, ran.left), ran.after) ∧
      step.Spares s before ran.result.result ran.log ran.after := by
  constructor
  · intro listing
    exact step.spares_perform template s faults before listing
  · exact step.spares_run template s faults before

end RibTree
