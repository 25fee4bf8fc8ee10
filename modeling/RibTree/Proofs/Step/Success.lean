import RibTree.Proofs.Step.Effect

/-!
# Steps that succeed

With templates that can be read and no lock above its files, a step whose result is missing creates
it. What it then leaves is described by the drafts of the step and the text of the builder that it
edits.
-/

namespace RibTree

set_option autoImplicit false

namespace Store

variable {s t : Store}

theorem isLocked_eq_false (h : s.locked = []) (path : Path) : s.isLocked path = false := by
  rw [isLocked, h]
  rfl

theorem write_eq_ok (h : s.locked = []) {path : Path} (hparent : s.hasParent path = true)
    (content : String) : ∃ t, s.write path content = .ok t ∧ t.locked = [] :=
  ⟨_, write_eq_ok_iff.mpr ⟨isLocked_eq_false h path, hparent, rfl⟩, h⟩

/-- A folder is made sure of if it is there or can be created. -/
theorem ensured_iff {folder : Path} :
    s.Ensured folder t ↔ s.admits folder = true ∧ t = s.ensure folder := by
  rw [Ensured, createFolders_eq_ok_iff, admits]
  cases hthere : s.isFolder folder with
  | true =>
      rw [ensure_of_isFolder hthere]
      simp
  | false =>
      rw [ensure_of_isFolder_eq_false hthere]
      simp

/-- Files are written if none of them is locked and their folders are there. -/
theorem wrote_iff {files : List SourceFile} :
    s.Wrote files t ↔ (∀ file ∈ files, s.isLocked file.path = false ∧
      s.hasParent file.path = true) ∧ t = s.overwriteAll files := by
  constructor
  · intro h
    induction h with
    | nil => exact ⟨by simp, rfl⟩
    | cons hwrite _ ih =>
        obtain ⟨hfree, hparent, rfl⟩ := write_eq_ok_iff.mp hwrite
        exact ⟨List.forall_mem_cons.mpr ⟨⟨hfree, hparent⟩, ih.1⟩, ih.2⟩
  · rintro ⟨hfiles, rfl⟩
    induction files generalizing s with
    | nil => exact .nil s
    | cons file files ih =>
        obtain ⟨⟨hfree, hparent⟩, hrest⟩ := List.forall_mem_cons.mp hfiles
        exact .cons (write_eq_ok_iff.mpr ⟨hfree, hparent, rfl⟩) (ih hrest)

theorem Ensured.locked_eq {folder : Path} (h : s.Ensured folder t) : t.locked = s.locked := by
  rw [(ensured_iff.mp h).2, locked_ensure]

theorem Wrote.locked_eq {files : List SourceFile} (h : s.Wrote files t) : t.locked = s.locked := by
  rw [(wrote_iff.mp h).2, locked_overwriteAll]

theorem Wrote.content?_of_mem {files : List SourceFile} (h : s.Wrote files t)
    (hapart : files.Pairwise fun f g => ¬ g.path.Same f.path) {file : SourceFile}
    (hfile : file ∈ files) : t.content? file.path = some file.content := by
  rw [(wrote_iff.mp h).2, content?_overwriteAll_of_mem hapart hfile]

end Store

def Draft.Readable (template : TemplateKey → Except TemplateFailure String) (d : Draft) : Prop :=
  ∃ text, template d.key = .ok text

/-- The rendered template, empty if it cannot be read. -/
def Draft.text (template : TemplateKey → Except TemplateFailure String) (d : Draft) : String :=
  match template d.key with
  | .ok text => d.names.render text
  | .error _ => ""

theorem Draft.renders_text {template : TemplateKey → Except TemplateFailure String} {d : Draft}
    (h : d.Readable template) : d.Renders template (d.text template) := by
  obtain ⟨source, hsource⟩ := h
  refine ⟨source, hsource, ?_⟩
  rw [text, hsource]
  exact d.names.rendered_render source

def Draft.file (template : TemplateKey → Except TemplateFailure String) (s : Settings)
    (d : Draft) : SourceFile :=
  ⟨d.artifact.path s, d.text template⟩

namespace Step

variable {template : TemplateKey → Except TemplateFailure String} {s : Settings} {store : Store}

def successReport (s : Settings) (step : Step) : StepReport :=
  ⟨step.command, step.parent, step.target, .ok (step.success s)⟩

theorem mapM_render_of_readable {drafts : List Draft} (h : ∀ d ∈ drafts, d.Readable template) :
    drafts.mapM (Draft.render template s) = .ok (drafts.map (Draft.file template s)) := by
  induction drafts with
  | nil => rfl
  | cons d drafts ih =>
      obtain ⟨⟨text, htext⟩, hrest⟩ := List.forall_mem_cons.mp h
      have hfirst : d.render template s = .ok (d.file template s) := by
        unfold Draft.render Draft.file Draft.text
        rw [htext]
      rw [List.mapM_cons, hfirst, ih hrest]
      rfl

/-- Nothing keeps a step from creating its files if no lock stands above them. -/
theorem creation_of_free (hslash : '/' ∉ s.fileExtension.toList) {step : Step}
    (hnames : ∀ n ∈ step.names, '/' ∉ n.toList) {a : Artifact} (hlead : step.lead? = some a)
    (hmissing : a.located? s store = none)
    (hreadable : ∀ d ∈ step.drafts s, d.Readable template)
    (hfree : ∀ d ∈ step.drafts s, store.isLocked (d.artifact.path s) = false) :
    creation template s store step a =
      { result := .ok (step.success s)
        folder := some (a.folder s)
        files := (step.drafts s).map (Draft.file template s) } := by
  have hfolder : store.admits (a.folder s) = true := by
    obtain ⟨d, hd, -⟩ := mem_drafts_of_lead hlead
    have hname : Path.IsName (d.artifact.fileName s) :=
      Artifact.isName_fileName hslash fun n hn => hnames n (names_of_mem_drafts hd hn)
    have hcontains : (a.folder s).Contains (d.artifact.path s) := by
      rw [Artifact.path_eq_join, folder_of_mem_drafts hlead hd]
      exact Path.contains_join hname.2.2.2
    unfold Store.admits
    cases hlocked : store.isLocked (a.folder s) with
    | false => exact Bool.or_true _
    | true =>
        have := Store.isLocked_of_contains hcontains hlocked
        rw [hfree d hd] at this
        exact absurd this (by decide)
  have hfiles : ∀ file ∈ (step.drafts s).map (Draft.file template s),
      store.isLocked file.path = false := by
    intro file hfile
    obtain ⟨d, hd, rfl⟩ := List.mem_map.mp hfile
    exact hfree d hd
  obtain ⟨hwriting, hwritten⟩ := Effect.writing_of_free hfiles
  simp only [creation, hmissing, mapM_render_of_readable hreadable, Effect.create, hfolder,
    hwriting, hwritten, Option.isSome_none, Except.map]
  rfl

/-- A missing file and no lock are all that a step needs of the store to create its files. -/
theorem run_of_free (hslash : '/' ∉ s.fileExtension.toList) {step : Step}
    (hnames : ∀ n ∈ step.names, '/' ∉ n.toList) {a : Artifact} (hlead : step.lead? = some a)
    (hmissing : a.located? s store = none)
    (hreadable : ∀ d ∈ step.drafts s, d.Readable template)
    (hfree : ∀ d ∈ step.drafts s, store.isLocked (d.artifact.path s) = false) :
    (step.run (Store.host template) s).run store =
      (step.successReport s, (store.ensure (a.folder s)).overwriteAll
        ((step.drafts s).map (Draft.file template s))) := by
  apply run_of_perform
  rw [run_perform_of_lead hslash hnames hlead,
    creation_of_free hslash hnames hlead hmissing hreadable hfree]
  rfl

theorem run_created {step : Step} {a : Artifact} (hlead : step.lead? = some a)
    (hmissing : a.located? s store = none) (hunlocked : store.locked = [])
    (hreadable : ∀ d ∈ step.drafts s, d.Readable template)
    (hslash : '/' ∉ s.fileExtension.toList) (hnames : ∀ n ∈ step.names, '/' ∉ n.toList) :
    ∃ ensured after, store.Ensured (a.folder s) ensured ∧
      ensured.Wrote ((step.drafts s).map (Draft.file template s)) after ∧
      (step.run (Store.host template) s).run store = (step.successReport s, after) := by
  have hfree : ∀ path, store.isLocked path = false := Store.isLocked_eq_false hunlocked
  have hfiles : ∀ file ∈ (step.drafts s).map (Draft.file template s),
      (store.ensure (a.folder s)).isLocked file.path = false ∧
        (store.ensure (a.folder s)).hasParent file.path = true := by
    intro file hfile
    obtain ⟨d, hd, rfl⟩ := List.mem_map.mp hfile
    constructor
    · rw [Store.isLocked_congr (Store.locked_ensure store _), hfree]
    · exact store.hasParent_ensure (parent?_parts_of_mem_drafts hslash hnames hlead hd)
  have hadmits : store.admits (a.folder s) = true := by
    rw [Store.admits, hfree, Bool.not_false, Bool.or_true]
  exact ⟨_, _, Store.ensured_iff.mpr ⟨hadmits, rfl⟩, Store.wrote_iff.mpr ⟨hfiles, rfl⟩,
    run_of_free hslash hnames hlead hmissing hreadable fun d _ => hfree _⟩

theorem run_edited {parent child source updated : String} {path : Path} {after : Store}
    (hpath : (Artifact.role parent .builder).located? s store = some path)
    (hsource : store.content? path = some source)
    (hdeclared : Declaration.isDeclared child source = false)
    (hinsert : Declaration.insertAbove s.dependencyAnchor (Declaration.statement child) source =
      some updated)
    (hwrite : store.write path updated = .ok after) :
    ((dependency parent child).run (Store.host template) s).run store =
      ((dependency parent child).successReport s, after) := by
  obtain ⟨hfree, hparent, rfl⟩ := Store.write_eq_ok_iff.mp hwrite
  apply run_of_perform
  rw [run_perform_of_builder template hpath hsource hparent, Effect.edit, hdeclared, hinsert]
  simp only [hfree]
  rfl

end Step

end RibTree
