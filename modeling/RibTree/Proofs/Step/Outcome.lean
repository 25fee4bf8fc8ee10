import RibTree.Proofs.Fault.Computation
import RibTree.Proofs.Host.Results
import RibTree.Proofs.Settings.Artifact
import RibTree.Proofs.Store.Listing
import RibTree.Proofs.Template.Rendering
import RibTree.Run

/-!
# What a step can come to

The outcomes of a step over a store behind faults are listed once, with the failure or the report
of each and the store that it leaves. Arguments about runs go through this list and not through
the calls that a step makes.
-/

namespace RibTree

set_option autoImplicit false

/-- The first listed file with the name of the artifact. -/
def Artifact.located? (s : Settings) (store : Store) (a : Artifact) : Option Path :=
  store.locate s.targetDirectory s.fileExtension (a.fileName s)

/-- A file that a step means to create. -/
structure Draft where
  artifact : Artifact
  key : TemplateKey
  names : Placeholders
  deriving DecidableEq, Repr

/-- The text is the template of the draft with the names put in. -/
def Draft.Renders (template : TemplateKey → Except TemplateFailure String) (d : Draft)
    (text : String) : Prop :=
  ∃ source, template d.key = .ok source ∧ d.names.Rendered source text

/-- The file is the draft with its template rendered. -/
def Draft.Yields (template : TemplateKey → Except TemplateFailure String) (s : Settings)
    (d : Draft) (file : SourceFile) : Prop :=
  file.path = d.artifact.path s ∧ d.Renders template file.content

section

variable {template : TemplateKey → Except TemplateFailure String} {s : Settings}
variable {drafts : List Draft} {files : List SourceFile}

theorem Draft.Renders.unique {d : Draft} {text other : String} (h : d.Renders template text)
    (hother : d.Renders template other) : text = other := by
  obtain ⟨source, hsource, htext⟩ := h
  obtain ⟨source', hsource', hother⟩ := hother
  obtain rfl : source = source' := Except.ok.inj (hsource.symm.trans hsource')
  rw [htext.eq_render, hother.eq_render]

theorem Draft.exists_yields (h : List.Forall₂ (Draft.Yields template s) drafts files) {d : Draft}
    (hd : d ∈ drafts) : ∃ file ∈ files, d.Yields template s file :=
  exists_mem_of_forall₂ h.flip hd

theorem Draft.exists_of_yields (h : List.Forall₂ (Draft.Yields template s) drafts files)
    {file : SourceFile} (hf : file ∈ files) : ∃ d ∈ drafts, d.Yields template s file :=
  exists_mem_of_forall₂ h hf

end

namespace Store

inductive Wrote : Store → List SourceFile → Store → Prop
  | nil (s : Store) : Wrote s [] s
  | cons {s t u : Store} {file : SourceFile} {files : List SourceFile} :
      s.write file.path file.content = .ok t → Wrote t files u → Wrote s (file :: files) u

def Ensured (s : Store) (folder : Path) (t : Store) : Prop :=
  (s.isFolder folder = true ∧ t = s) ∨
    (s.isFolder folder = false ∧ s.createFolders folder = .ok t)

end Store

namespace Step

def roleDraft (s : Settings) (target : String) (ownsView : Bool) (role : Role) : Draft :=
  ⟨.role target role, .component role ownsView s.fileExtension, { product := target }⟩

def extensionDraft (s : Settings) (parent child : String) : Draft :=
  ⟨.extension parent child, .extension s.fileExtension,
    { product := parent, child := some child }⟩

/-- The files that a step creates, in the order in which they are written. -/
def drafts (s : Settings) : Step → List Draft
  | component target ownsView => (Role.all ownsView).map (roleDraft s target ownsView)
  | extension parent child => [extensionDraft s parent child]
  | dependency .. => []

/-- The artifact whose file shows that there is nothing left to create. -/
def lead? : Step → Option Artifact
  | component target _ => some (.role target .builder)
  | extension parent child => some (.extension parent child)
  | dependency .. => none

/-- What a step reports when it does its work. -/
def success (s : Settings) : Step → Report
  | component target ownsView =>
      ⟨.created, s!"Success to create {target} ({(Role.all ownsView).length} files)"⟩
  | extension parent child => ⟨.created, "Success to create " ++ s.extensionName parent child⟩
  | dependency parent child =>
      ⟨.edited, s!"Success to add {Role.builder.stem child} to {Role.builder.stem parent}"⟩

/-- What a step reports when its work was done before. -/
def presence (s : Settings) : Step → Report
  | component target _ => ⟨.skipped, s!"No need to add {target}, it already exists."⟩
  | extension parent child =>
      ⟨.skipped, s!"No need to add {s.extensionName parent child}, it already exists."⟩
  | dependency parent child =>
      ⟨.skipped, s!"No need to add {Role.builder.stem child} to {Role.builder.stem parent}, it already exists."⟩

theorem presence_eq (s : Settings) (step : Step) :
    step.presence s = ⟨.skipped, (step.presence s).message⟩ := by
  cases step <;> rfl

section

variable (template : TemplateKey → Except TemplateFailure String) (s : Settings) (before : Store)

/-- How creating files in a folder ends. -/
inductive Creating (folder : Path) (drafts : List Draft) :
    Except Failure (List SourceFile) → Store → Prop
  | unrendered {d : Draft} (reason : String) :
      d ∈ drafts → Creating folder drafts (.error (.fileNotCreated (d.artifact.path s) reason)) before
  | noFolder {files : List SourceFile} (reason : String) :
      List.Forall₂ (Draft.Yields template s) drafts files →
      Creating folder drafts (.error (.folderNotCreated folder reason)) before
  | stopped {done rest : List SourceFile} {file : SourceFile} {ensured after : Store}
      (reason : String) :
      List.Forall₂ (Draft.Yields template s) drafts (done ++ file :: rest) →
      before.Ensured folder ensured → ensured.Wrote done after →
      Creating folder drafts (.error (.fileNotCreated file.path reason)) after
  | complete {files : List SourceFile} {ensured after : Store} :
      List.Forall₂ (Draft.Yields template s) drafts files →
      before.Ensured folder ensured → ensured.Wrote files after →
      Creating folder drafts (.ok files) after

/-- How declaring a child in the builder at `path` ends. -/
inductive Editing (path : Path) (child : String) : Except Failure Report → Store → Prop
  | unread (reason : String) : Editing path child (.error (.fileNotEdited path reason)) before
  | declared {source : String} (message : String) :
      before.content? path = some source → Declaration.isDeclared child source = true →
      Editing path child (.ok ⟨.skipped, message⟩) before
  | noAnchor {source : String} :
      before.content? path = some source → Declaration.isDeclared child source = false →
      Declaration.insertAbove s.dependencyAnchor (Declaration.statement child) source = none →
      Editing path child
        (.error (.fileNotEdited path (Declaration.missingAnchor s.dependencyAnchor))) before
  | unwritten {source updated : String} (reason : String) :
      before.content? path = some source → Declaration.isDeclared child source = false →
      Declaration.insertAbove s.dependencyAnchor (Declaration.statement child) source =
        some updated →
      Editing path child (.error (.fileNotEdited path reason)) before
  | edited {source updated : String} {after : Store} (message : String) :
      before.content? path = some source → Declaration.isDeclared child source = false →
      Declaration.insertAbove s.dependencyAnchor (Declaration.statement child) source =
        some updated →
      before.write path updated = .ok after → Editing path child (.ok ⟨.edited, message⟩) after

/-- How a step ends, and the store that it leaves. -/
inductive Outcome : Step → Except Failure Report → Store → Prop
  | unlisted (step : Step) (e : IndexFailure) : Outcome step (.error (.index e)) before
  | present {step : Step} {a : Artifact} :
      step.lead? = some a → (a.located? s before).isSome = true →
      Outcome step (.ok (step.presence s)) before
  | uncreated {step : Step} {a : Artifact} {e : Failure} {after : Store} :
      step.lead? = some a → a.located? s before = none →
      Creating template s before (a.folder s) (step.drafts s) (.error e) after →
      Outcome step (.error e) after
  | created {step : Step} {a : Artifact} {files : List SourceFile} {after : Store} :
      step.lead? = some a → a.located? s before = none →
      Creating template s before (a.folder s) (step.drafts s) (.ok files) after →
      Outcome step (.ok (step.success s)) after
  | noBuilder (parent child : String) :
      (Artifact.role parent .builder).located? s before = none →
      Outcome (.dependency parent child)
        (.error (.builderNotFound parent (s.builderName parent))) before
  | editing {parent child : String} {path : Path} {result : Except Failure Report}
      {after : Store} :
      (Artifact.role parent .builder).located? s before = some path →
      Editing s before path child result after → Outcome (.dependency parent child) result after

end

section

variable {m : Type → Type} [Monad m] (host : Host m) (s : Settings)

def renderDraft (d : Draft) : ExceptT Failure m SourceFile :=
  renderFile host (d.artifact.path s) d.key d.names

/-- What creating a component and creating an extension have in common. -/
def createAll (folder : Path) (drafts : List Draft) (report : Report) :
    ExceptT Failure m Report := do
  let files ← drafts.mapM (renderDraft host s)
  ensureFolder host folder
  files.forM (writeFile host)
  return report

variable [LawfulMonad m]

/-- What follows a list of calls can count on one result for each of them. -/
theorem mapM_bind_congr {α β γ : Type} {f : α → ExceptT Failure m β} {l : List α}
    {g k : List β → ExceptT Failure m γ} (h : ∀ bs, bs.length = l.length → g bs = k bs) :
    l.mapM f >>= g = l.mapM f >>= k := by
  induction l generalizing g k with
  | nil =>
      simp only [List.mapM_nil, pure_bind]
      exact h [] rfl
  | cons a l ih =>
      simp only [List.mapM_cons, bind_assoc, pure_bind]
      apply bind_congr
      intro b
      apply ih
      intro bs hbs
      exact h (b :: bs) (congrArg (· + 1) hbs)

theorem createComponent_eq_createAll (target : String) (ownsView : Bool) :
    createComponent host s target ownsView =
      createAll host s (s.componentFolder target) (drafts s (component target ownsView))
        (success s (component target ownsView)) := by
  have hrender : renderRoles host s target ownsView =
      (drafts s (component target ownsView)).mapM (renderDraft host s) := by
    rw [renderRoles, drafts, List.mapM_map]
    rfl
  rw [createComponent, createAll, hrender]
  apply mapM_bind_congr
  intro files hfiles
  rw [drafts, List.length_map] at hfiles
  rw [hfiles]
  rfl

theorem createExtension_eq_createAll (parent child : String) :
    createExtension host s parent child =
      createAll host s (s.extensionFolder parent) (drafts s (extension parent child))
        (success s (extension parent child)) := by
  simp only [createExtension, createAll, drafts, List.mapM_cons, List.mapM_nil, bind_assoc,
    pure_bind, List.forM_eq_forM, List.forM_cons, List.forM_nil]
  rfl

/-- A step that creates files does so if its leading file is not listed. -/
theorem perform_of_lead {step : Step} {a : Artifact} (hlead : step.lead? = some a)
    (listing : List Path) :
    step.perform host s listing =
      if (findFile listing (a.fileName s)).isNone then
        createAll host s (a.folder s) (step.drafts s) (step.success s)
      else pure (step.presence s) := by
  cases step with
  | component target ownsView =>
      obtain rfl := Option.some.inj hlead
      rw [perform, createComponent_eq_createAll]
      rfl
  | extension parent child =>
      obtain rfl := Option.some.inj hlead
      rw [perform, createExtension_eq_createAll]
      rfl
  | dependency parent child => simp [lead?] at hlead

end

section

variable {template : TemplateKey → Except TemplateFailure String} {s : Settings}
variable {before after : Store}

theorem leads_renderDraft {d : Draft} {r : Except Failure SourceFile}
    (h : Leads (renderDraft (Store.faultyHost template) s d).run before r after) :
    after = before ∧
      ((∃ e, r = .error e ∧ ∃ reason, e = .fileNotCreated (d.artifact.path s) reason) ∨
        ∃ file, r = .ok file ∧ d.Yields template s file) := by
  rcases leads_run_bind h with ⟨e, hread, rfl⟩ | ⟨text, u, hread, hlast⟩
  · obtain ⟨q, hq, he⟩ := leads_attempt hread
    obtain ⟨rfl, ⟨e', rfl⟩ | ⟨text, -, rfl⟩⟩ := Store.leads_template hq
    · exact ⟨rfl, Or.inl ⟨e, rfl, e'.message, Except.error.inj he⟩⟩
    · exact absurd he (by simp [Except.mapError])
  · obtain ⟨q, hq, he⟩ := leads_attempt hread
    obtain ⟨rfl, ⟨e', rfl⟩ | ⟨text', htext, rfl⟩⟩ := Store.leads_template hq
    · exact absurd he (by simp [Except.mapError])
    · obtain ⟨rfl, rfl⟩ := leads_pure hlast
      obtain rfl : text = text' := Except.ok.inj he
      exact ⟨rfl, Or.inr ⟨_, rfl, rfl, text, htext, d.names.rendered_render text⟩⟩

theorem leads_ensureFolder {folder : Path} {r : Except Failure Unit}
    (h : Leads (ensureFolder (Store.faultyHost template) folder).run before r after) :
    (∃ reason, r = .error (.folderNotCreated folder reason) ∧ after = before) ∨
      (r = .ok () ∧ before.Ensured folder after) := by
  rcases leads_run_bind h with ⟨e, hasked, -⟩ | ⟨there, u, hasked, hlast⟩
  · obtain ⟨_, -, he⟩ := leads_lift hasked
    exact absurd he (by simp)
  obtain ⟨there', hasked, he⟩ := leads_lift hasked
  obtain ⟨rfl, rfl⟩ := Store.leads_isFolder hasked
  obtain rfl := Except.ok.inj he
  cases hthere : u.isFolder folder with
  | true =>
      rw [hthere] at hlast
      obtain ⟨rfl, rfl⟩ := leads_pure hlast
      exact Or.inr ⟨rfl, Or.inl ⟨hthere, rfl⟩⟩
  | false =>
      rw [hthere] at hlast
      obtain ⟨q, hq, rfl⟩ := leads_attempt hlast
      rcases Store.leads_createFolders hq with ⟨e, rfl, rfl⟩ | ⟨rfl, ht⟩
      · exact Or.inl ⟨e.message, rfl, rfl⟩
      · exact Or.inr ⟨rfl, Or.inr ⟨hthere, ht⟩⟩

theorem leads_writeFile {file : SourceFile} {r : Except Failure Unit}
    (h : Leads (writeFile (Store.faultyHost template) file).run before r after) :
    (∃ reason, r = .error (.fileNotCreated file.path reason) ∧ after = before) ∨
      (r = .ok () ∧ before.write file.path file.content = .ok after) := by
  obtain ⟨q, hq, rfl⟩ := leads_attempt h
  rcases Store.leads_write hq with ⟨e, rfl, rfl⟩ | ⟨rfl, ht⟩
  · exact Or.inl ⟨e.message, rfl, rfl⟩
  · exact Or.inr ⟨rfl, ht⟩

/-- The files before the one that fails are written, and no other. -/
theorem leads_writeFiles {files : List SourceFile} {r : Except Failure Unit}
    (h : Leads (files.forM (writeFile (Store.faultyHost template))).run before r after) :
    (r = .ok () ∧ before.Wrote files after) ∨
      ∃ done file rest reason, files = done ++ file :: rest ∧ before.Wrote done after ∧
        r = .error (.fileNotCreated file.path reason) := by
  induction files generalizing before with
  | nil =>
      obtain ⟨rfl, rfl⟩ := leads_pure h
      exact Or.inl ⟨rfl, .nil _⟩
  | cons file files ih =>
      rcases leads_run_bind h with ⟨e, hfirst, rfl⟩ | ⟨_, u, hfirst, hrest⟩
      · rcases leads_writeFile hfirst with ⟨reason, he, rfl⟩ | ⟨he, -⟩
        · obtain rfl := Except.error.inj he
          exact Or.inr ⟨[], file, files, reason, rfl, .nil _, rfl⟩
        · exact absurd he (by simp)
      · rcases leads_writeFile hfirst with ⟨_, he, -⟩ | ⟨-, hwrite⟩
        · exact absurd he (by simp)
        rcases ih hrest with ⟨rfl, hw⟩ | ⟨done, last, rest, reason, rfl, hw, rfl⟩
        · exact Or.inl ⟨rfl, .cons hwrite hw⟩
        · exact Or.inr ⟨file :: done, last, rest, reason, rfl, .cons hwrite hw, rfl⟩

theorem leads_createAll {folder : Path} {drafts : List Draft} {report : Report}
    {r : Except Failure Report}
    (h : Leads (createAll (Store.faultyHost template) s folder drafts report).run before r after) :
    ∃ q, Creating template s before folder drafts q after ∧ r = q.map fun _ => report := by
  rcases leads_run_bind h with ⟨e, hrender, rfl⟩ | ⟨files, u, hrender, h₁⟩
  · obtain ⟨rfl, ⟨d, hd, e', he, reason, rfl⟩ | ⟨files, he, -⟩⟩ :=
      leads_mapM (fun d _ _ _ => leads_renderDraft (d := d)) hrender
    · obtain rfl := Except.error.inj he
      exact ⟨_, .unrendered reason hd, rfl⟩
    · exact absurd he (by simp)
  obtain ⟨rfl, ⟨d, hd, e', he, -⟩ | ⟨files', he, hyields⟩⟩ :=
    leads_mapM (fun d _ _ _ => leads_renderDraft (d := d)) hrender
  · exact absurd he (by simp)
  obtain rfl := Except.ok.inj he
  rcases leads_run_bind h₁ with ⟨e, hfolder, rfl⟩ | ⟨_, v, hfolder, h₂⟩
  · rcases leads_ensureFolder hfolder with ⟨reason, he, rfl⟩ | ⟨he, -⟩
    · obtain rfl := Except.error.inj he
      exact ⟨_, .noFolder reason hyields, rfl⟩
    · exact absurd he (by simp)
  rcases leads_ensureFolder hfolder with ⟨_, he, -⟩ | ⟨-, hensured⟩
  · exact absurd he (by simp)
  rcases leads_run_bind h₂ with ⟨e, hwrites, rfl⟩ | ⟨_, w, hwrites, h₃⟩
  · rcases leads_writeFiles hwrites with ⟨he, -⟩ | ⟨done, file, rest, reason, rfl, hw, he⟩
    · exact absurd he (by simp)
    · obtain rfl := Except.error.inj he
      exact ⟨_, .stopped reason hyields hensured hw, rfl⟩
  · rcases leads_writeFiles hwrites with ⟨-, hw⟩ | ⟨_, _, _, _, -, -, he⟩
    · obtain ⟨rfl, rfl⟩ := leads_pure h₃
      exact ⟨_, .complete hyields hensured hw, rfl⟩
    · exact absurd he (by simp)

theorem leads_addDependency {path : Path} {parent child : String} {r : Except Failure Report}
    (h : Leads (addDependency (Store.faultyHost template) s path parent child).run before r after) :
    Editing s before path child r after := by
  rcases leads_run_bind h with ⟨e, hread, rfl⟩ | ⟨source, u, hread, hrest⟩
  · obtain ⟨q, hq, he⟩ := leads_attempt hread
    obtain ⟨rfl, ⟨e', rfl⟩ | ⟨source, -, rfl⟩⟩ := Store.leads_read hq
    · obtain rfl := Except.error.inj he
      exact .unread e'.message
    · exact absurd he (by simp [Except.mapError])
  obtain ⟨q, hq, he⟩ := leads_attempt hread
  obtain ⟨hu, ⟨e', rfl⟩ | ⟨source', hsource, rfl⟩⟩ := Store.leads_read hq
  · exact absurd he (by simp [Except.mapError])
  obtain rfl : source = source' := Except.ok.inj he
  subst hu
  cases hdeclared : Declaration.isDeclared child source with
  | true =>
      simp only [hdeclared] at hrest
      obtain ⟨rfl, rfl⟩ := leads_pure hrest
      exact .declared _ hsource hdeclared
  | false =>
      cases hinsert : Declaration.insertAbove s.dependencyAnchor (Declaration.statement child)
          source with
      | none =>
          simp only [hdeclared, hinsert] at hrest
          obtain ⟨rfl, rfl⟩ := leads_pure hrest
          exact .noAnchor hsource hdeclared hinsert
      | some updated =>
          simp only [hdeclared, hinsert] at hrest
          rcases leads_run_bind hrest with ⟨e, hwrite, rfl⟩ | ⟨_, v, hwrite, hlast⟩
          · obtain ⟨q, hq, he⟩ := leads_attempt hwrite
            rcases Store.leads_write hq with ⟨e', rfl, rfl⟩ | ⟨rfl, -⟩
            · obtain rfl := Except.error.inj he
              exact .unwritten e'.message hsource hdeclared hinsert
            · exact absurd he (by simp [Except.mapError])
          · obtain ⟨q, hq, he⟩ := leads_attempt hwrite
            rcases Store.leads_write hq with ⟨e', rfl, -⟩ | ⟨rfl, hwrite⟩
            · exact absurd he (by simp [Except.mapError])
            · obtain ⟨rfl, rfl⟩ := leads_pure hlast
              exact .edited _ hsource hdeclared hinsert hwrite

theorem outcome_of_leads_perform {step : Step} {r : Except Failure Report}
    (h : Leads (step.perform (Store.faultyHost template) s
      (before.sources s.targetDirectory s.fileExtension)).run before r after) :
    Outcome template s before step r after := by
  cases hlead : step.lead? with
  | some a =>
      rw [perform_of_lead _ s hlead] at h
      cases hlocated : a.located? s before with
      | none =>
          have hmissing : findFile (before.sources s.targetDirectory s.fileExtension)
              (a.fileName s) = none := hlocated
          rw [hmissing, Option.isNone_none, if_pos rfl] at h
          obtain ⟨q, hcreating, rfl⟩ := leads_createAll h
          cases q with
          | error e => exact .uncreated hlead hlocated hcreating
          | ok files => exact .created hlead hlocated hcreating
      | some path =>
          have hfound : findFile (before.sources s.targetDirectory s.fileExtension)
              (a.fileName s) = some path := hlocated
          rw [hfound, Option.isNone_some, if_neg (by decide)] at h
          obtain ⟨rfl, rfl⟩ := leads_pure h
          exact .present hlead (by rw [hlocated]; rfl)
  | none =>
      cases step with
      | component | extension => simp [lead?] at hlead
      | dependency parent child =>
          cases hlocated : (Artifact.role parent .builder).located? s before with
          | none =>
              have hbuilder : builder? s (before.sources s.targetDirectory s.fileExtension)
                  parent = none := hlocated
              simp only [perform, hbuilder] at h
              obtain ⟨rfl, rfl⟩ := leads_pure h
              exact .noBuilder parent child hlocated
          | some path =>
              have hbuilder : builder? s (before.sources s.targetDirectory s.fileExtension)
                  parent = some path := hlocated
              simp only [perform, hbuilder] at h
              exact .editing hlocated (leads_addDependency h)

/-- The report of a step names the step, and its result is one of the outcomes. -/
theorem outcome_of_leads {step : Step} {report : StepReport}
    (h : Leads (step.run (Store.faultyHost template) s) before report after) :
    (report.command, report.parent, report.target) = (step.command, step.parent, step.target) ∧
      Outcome template s before step report.result after := by
  obtain ⟨result, hrun, rfl⟩ := leads_map h
  refine ⟨rfl, ?_⟩
  rcases leads_run_bind hrun with ⟨e, hlisting, rfl⟩ | ⟨listing, u, hlisting, hperform⟩
  · obtain ⟨q, hq, he⟩ := leads_attempt hlisting
    obtain ⟨rfl, ⟨e', rfl⟩ | rfl⟩ := Store.leads_sources hq
    · obtain rfl := Except.error.inj he
      exact .unlisted step e'
    · exact absurd he (by simp [Except.mapError])
  obtain ⟨q, hq, he⟩ := leads_attempt hlisting
  obtain ⟨hu, ⟨e', rfl⟩ | rfl⟩ := Store.leads_sources hq
  · exact absurd he (by simp [Except.mapError])
  obtain rfl := Except.ok.inj he
  subst hu
  exact outcome_of_leads_perform hperform

end

end Step

end RibTree
