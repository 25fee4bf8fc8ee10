import RibTree.Proofs.Host.Results
import RibTree.Proofs.Step.Done
import RibTree.Proofs.Store.Update

/-!
# The effect of a step

What a step does to a store that no fault stands before is a function of the store: it ends in
some way, makes sure of at most one folder and writes some files. The effect is computed from what
is listed, what is locked and the templates, and the step comes to just that.
-/

namespace RibTree

set_option autoImplicit false

/-- How a step ends, the folder that it makes sure of, and the files that it writes. -/
structure Effect where
  result : Except Failure Report
  folder : Option Path := none
  files : List SourceFile := []

def denied (path : Path) : StorageFailure := ⟨path, "Permission denied"⟩

namespace Effect

def apply (e : Effect) (store : Store) : Store :=
  (e.folder.elim store store.ensure).overwriteAll e.files

/-- Files are written up to the first one that is locked. -/
def writing (store : Store) (files : List SourceFile) : Except Failure Unit :=
  match files.find? fun f => store.isLocked f.path with
  | none => .ok ()
  | some f => .error (.fileNotCreated f.path (denied f.path).message)

def written (store : Store) (files : List SourceFile) : List SourceFile :=
  files.takeWhile fun f => !store.isLocked f.path

def create (store : Store) (folder : Path) (files : List SourceFile) (report : Report) : Effect :=
  if store.admits folder then
    { result := (writing store files).map fun _ => report
      folder := some folder
      files := written store files }
  else { result := .error (.folderNotCreated folder (denied folder).message) }

/-- The text `source` at `path` gets a line for the child. -/
def edit (s : Settings) (store : Store) (path : Path) (parent child source : String) : Effect :=
  if Declaration.isDeclared child source then
    { result := .ok ((Step.dependency parent child).presence s) }
  else
    match Declaration.insertAbove s.dependencyAnchor (Declaration.statement child) source with
    | none =>
        { result := .error (.fileNotEdited path (Declaration.missingAnchor s.dependencyAnchor)) }
    | some updated =>
        if store.isLocked path then
          { result := .error (.fileNotEdited path (denied path).message) }
        else { result := .ok ((Step.dependency parent child).success s), files := [⟨path, updated⟩] }

theorem writing_cons_of_locked {store : Store} {file : SourceFile}
    (h : store.isLocked file.path = true) (files : List SourceFile) :
    writing store (file :: files) = .error (.fileNotCreated file.path (denied file.path).message) ∧
      written store (file :: files) = [] := by
  simp [writing, written, h]

theorem writing_cons_of_free {store : Store} {file : SourceFile}
    (h : store.isLocked file.path = false) (files : List SourceFile) :
    writing store (file :: files) = writing store files ∧
      written store (file :: files) = file :: written store files := by
  simp [writing, written, h]

theorem writing_of_free {store : Store} {files : List SourceFile}
    (h : ∀ file ∈ files, store.isLocked file.path = false) :
    writing store files = .ok () ∧ written store files = files := by
  induction files with
  | nil => exact ⟨rfl, rfl⟩
  | cons file files ih =>
      obtain ⟨hfirst, hrest⟩ := List.forall_mem_cons.mp h
      obtain ⟨hwriting, hwritten⟩ := writing_cons_of_free hfirst files
      rw [hwriting, hwritten, (ih hrest).1, (ih hrest).2]
      exact ⟨rfl, rfl⟩

theorem mem_of_mem_written {store : Store} {files : List SourceFile} {file : SourceFile}
    (h : file ∈ written store files) : file ∈ files :=
  (List.takeWhile_sublist _).subset h

theorem folder_edit (s : Settings) (store : Store) (path : Path) (parent child source : String) :
    (edit s store path parent child source).folder = none := by
  unfold edit
  split
  · rfl
  · split
    · rfl
    · split <;> rfl

theorem path_of_mem_files_edit {s : Settings} {store : Store} {path : Path}
    {parent child source : String} {file : SourceFile}
    (h : file ∈ (edit s store path parent child source).files) : file.path = path := by
  unfold edit at h
  split at h
  · simp at h
  · split at h
    · simp at h
    · split at h
      · simp at h
      · rw [List.mem_singleton.mp h]

end Effect

def Draft.render (template : TemplateKey → Except TemplateFailure String) (s : Settings)
    (d : Draft) : Except Failure SourceFile :=
  match template d.key with
  | .ok text => .ok ⟨d.artifact.path s, d.names.render text⟩
  | .error e => .error (.fileNotCreated (d.artifact.path s) e.message)

theorem Store.template_host (template : TemplateKey → Except TemplateFailure String)
    (key : TemplateKey) : (Store.host template).template key = pure (template key) := rfl

namespace Step

section

variable (template : TemplateKey → Except TemplateFailure String) (s : Settings) (store : Store)

/-- The effect of a step that creates files, the file of `a` before all. -/
def creation (step : Step) (a : Artifact) : Effect :=
  if (a.located? s store).isSome then { result := .ok (step.presence s) }
  else
    match (step.drafts s).mapM (Draft.render template s) with
    | .error e => { result := .error e }
    | .ok files => .create store (a.folder s) files (step.success s)

def declaration (parent child : String) : Effect :=
  match (Artifact.role parent .builder).located? s store with
  | none => { result := .error (.builderNotFound parent (s.builderName parent)) }
  | some path =>
      match store.content? path with
      | none => { result := .error (.fileNotEdited path (StorageFailure.mk path "No such file").message) }
      | some source => .edit s store path parent child source

def effect : Step → Effect
  | component target ownsView =>
      creation template s store (component target ownsView) (.role target .builder)
  | extension parent child =>
      creation template s store (extension parent child) (.extension parent child)
  | dependency parent child => declaration s store parent child

end

variable {template : TemplateKey → Except TemplateFailure String} {s : Settings} {store : Store}

theorem effect_of_lead {step : Step} {a : Artifact} (hlead : step.lead? = some a) :
    step.effect template s store = creation template s store step a := by
  cases step with
  | component target ownsView =>
      rw [← Option.some.inj hlead]
      rfl
  | extension parent child =>
      rw [← Option.some.inj hlead]
      rfl
  | dependency parent child => simp [lead?] at hlead

theorem folder_of_mem_drafts {step : Step} {a : Artifact} (hlead : step.lead? = some a) {d : Draft}
    (hd : d ∈ step.drafts s) : d.artifact.folder s = a.folder s := by
  cases step with
  | component target ownsView =>
      obtain ⟨role, -, rfl⟩ := List.mem_map.mp hd
      rw [← Option.some.inj hlead]
      rfl
  | extension parent child =>
      rw [List.mem_singleton.mp hd, ← Option.some.inj hlead]
      rfl
  | dependency parent child => simp [lead?] at hlead

theorem parent?_parts_of_mem_drafts (hslash : '/' ∉ s.fileExtension.toList) {step : Step}
    (hnames : ∀ n ∈ step.names, '/' ∉ n.toList) {a : Artifact} (hlead : step.lead? = some a)
    {d : Draft} (hd : d ∈ step.drafts s) :
    Path.Part.parent? (d.artifact.path s).parts = some (a.folder s).parts := by
  rw [Artifact.parent?_parts_path hslash fun n hn => hnames n (names_of_mem_drafts hd hn),
    folder_of_mem_drafts hlead hd]

section

variable {σ : Type} {host : Host (StateM σ)}
variable (htemplate : ∀ key, host.template key = pure (template key))
include htemplate

/-- Rendering changes nothing, on any host whose templates are fixed. -/
theorem run_renderDraft_eq (s : Settings) (d : Draft) (state : σ) :
    (renderDraft host s d).run.run state = (d.render template s, state) := by
  have hread : (attempt (host.template d.key)
      fun e => Failure.fileNotCreated (d.artifact.path s) e.message).run.run state =
        ((template d.key).mapError fun e => .fileNotCreated (d.artifact.path s) e.message, state) := by
    rw [htemplate]
    rfl
  rw [renderDraft, renderFile, Draft.render]
  cases htext : template d.key with
  | error e =>
      rw [htext] at hread
      exact run_bind_of_eq_error hread
  | ok text =>
      rw [htext] at hread
      rw [run_bind_of_eq_ok hread]
      rfl

theorem run_mapM_renderDraft (s : Settings) (drafts : List Draft) (state : σ) :
    (drafts.mapM (renderDraft host s)).run.run state =
      (drafts.mapM (Draft.render template s), state) := by
  induction drafts with
  | nil => rfl
  | cons d drafts ih =>
      have hfirst := run_renderDraft_eq htemplate s d state
      rw [List.mapM_cons, List.mapM_cons]
      cases hd : d.render template s with
      | error e =>
          rw [hd] at hfirst
          rw [run_bind_of_eq_error hfirst]
          rfl
      | ok file =>
          rw [hd] at hfirst
          rw [run_bind_of_eq_ok hfirst]
          cases hdrafts : drafts.mapM (Draft.render template s) with
          | error e =>
              rw [hdrafts] at ih
              rw [run_bind_of_eq_error ih]
              rfl
          | ok files =>
              rw [hdrafts] at ih
              rw [run_bind_of_eq_ok ih]
              rfl

end

variable (template store) in
theorem run_ensureFolder_eq (folder : Path) :
    (ensureFolder (Store.host template) folder).run.run store =
      if store.admits folder then (.ok (), store.ensure folder)
      else (.error (.folderNotCreated folder (denied folder).message), store) := by
  have hasked : (liftM ((Store.host template).isFolder folder) :
      ExceptT Failure (StateM Store) Bool).run.run store =
        (.ok (store.isFolder folder), store) := rfl
  rw [ensureFolder, run_bind_of_eq_ok hasked, Store.admits]
  cases hthere : store.isFolder folder with
  | true =>
      rw [Store.ensure_of_isFolder hthere]
      rfl
  | false =>
      rw [Store.ensure_of_isFolder_eq_false hthere]
      have hcreate : (attempt ((Store.host template).createFolders folder)
          fun e => Failure.folderNotCreated folder e.message).run.run store =
            ((Store.update folder (·.createFolders folder) store).1.mapError
              fun e => .folderNotCreated folder e.message,
              (Store.update folder (·.createFolders folder) store).2) := rfl
      cases hlocked : store.isLocked folder with
      | true =>
          rw [Store.update, Store.createFolders, if_pos hlocked] at hcreate
          exact hcreate
      | false =>
          rw [Store.update, Store.createFolders, hlocked, if_neg (by decide)] at hcreate
          exact hcreate

variable (template) in
theorem run_writeFile_eq {file : SourceFile} (hparent : store.hasParent file.path = true) :
    (writeFile (Store.host template) file).run.run store =
      if store.isLocked file.path then
        (.error (.fileNotCreated file.path (denied file.path).message), store)
      else (.ok (), store.overwrite file) := by
  have hwrite : (writeFile (Store.host template) file).run.run store =
      ((Store.update file.path (·.write file.path file.content) store).1.mapError
        fun e => .fileNotCreated file.path e.message,
        (Store.update file.path (·.write file.path file.content) store).2) := rfl
  rw [hwrite, Store.update, Store.write]
  cases hlocked : store.isLocked file.path with
  | true => rfl
  | false =>
      rw [hparent]
      rfl

variable (template) in
theorem run_writeFiles_eq {files : List SourceFile}
    (hparents : ∀ file ∈ files, store.hasParent file.path = true) :
    (files.forM (writeFile (Store.host template))).run.run store =
      (Effect.writing store files, store.overwriteAll (Effect.written store files)) := by
  induction files generalizing store with
  | nil => rfl
  | cons file files ih =>
      obtain ⟨hfirst, hrest⟩ := List.forall_mem_cons.mp hparents
      have hwrite := run_writeFile_eq template hfirst
      cases hlocked : store.isLocked file.path with
      | true =>
          obtain ⟨hwriting, hwritten⟩ := Effect.writing_cons_of_locked hlocked files
          rw [hlocked, if_pos rfl] at hwrite
          rw [hwriting, hwritten]
          exact run_bind_of_eq_error hwrite
      | false =>
          obtain ⟨hwriting, hwritten⟩ := Effect.writing_cons_of_free hlocked files
          rw [hlocked, if_neg (by decide)] at hwrite
          rw [hwriting, hwritten]
          exact (run_bind_of_eq_ok hwrite).trans (ih hrest)

theorem run_createAll_eq {files : List SourceFile} {drafts : List Draft} {folder : Path}
    {report : Report} (hfiles : drafts.mapM (Draft.render template s) = .ok files)
    (hparents : ∀ file ∈ files, Path.Part.parent? file.path.parts = some folder.parts) :
    (createAll (Store.host template) s folder drafts report).run.run store =
      ((Effect.create store folder files report).result,
        (Effect.create store folder files report).apply store) := by
  have hrender := run_mapM_renderDraft (Store.template_host template) s drafts store
  have hfolder := run_ensureFolder_eq template store folder
  rw [hfiles] at hrender
  rw [createAll, run_bind_of_eq_ok hrender, Effect.create]
  cases hadmits : store.admits folder with
  | false =>
      rw [hadmits, if_neg (by decide)] at hfolder
      rw [run_bind_of_eq_error hfolder]
      rfl
  | true =>
      rw [hadmits, if_pos rfl] at hfolder
      have hensured : ∀ file ∈ files, (store.ensure folder).hasParent file.path = true :=
        fun file hfile => store.hasParent_ensure (hparents file hfile)
      have hwrites := run_writeFiles_eq template hensured
      have hsame : (store.ensure folder).isLocked = store.isLocked := by
        funext path
        exact Store.isLocked_congr (Store.locked_ensure store folder) path
      rw [Effect.writing, Effect.written, hsame] at hwrites
      rw [run_bind_of_eq_ok hfolder, if_pos rfl]
      cases hwriting : Effect.writing store files with
      | error e =>
          rw [Effect.writing] at hwriting
          rw [hwriting] at hwrites
          exact run_bind_of_eq_error hwrites
      | ok =>
          rw [Effect.writing] at hwriting
          rw [hwriting] at hwrites
          exact run_bind_of_eq_ok hwrites

theorem yields_of_render {d : Draft} {file : SourceFile} (h : d.render template s = .ok file) :
    d.Yields template s file := by
  unfold Draft.render at h
  split at h
  · rename_i text htext
    rw [← Except.ok.inj h]
    exact ⟨rfl, text, htext, d.names.rendered_render text⟩
  · exact absurd h (by simp)

theorem forall₂_yields_of_mapM_render {drafts : List Draft} {files : List SourceFile}
    (h : drafts.mapM (Draft.render template s) = .ok files) :
    List.Forall₂ (Draft.Yields template s) drafts files := by
  induction drafts generalizing files with
  | nil =>
      rw [← Except.ok.inj h]
      exact .nil
  | cons d drafts ih =>
      rw [List.mapM_cons] at h
      cases hd : d.render template s with
      | error e =>
          rw [hd] at h
          exact absurd h (by simp [bind, Except.bind])
      | ok file =>
          rw [hd] at h
          cases hdrafts : drafts.mapM (Draft.render template s) with
          | error e =>
              rw [hdrafts] at h
              exact absurd h (by simp [bind, Except.bind])
          | ok rest =>
              rw [hdrafts] at h
              rw [← Except.ok.inj h]
              exact .cons (yields_of_render hd) (ih hdrafts)

theorem run_addDependency_eq {path : Path} {parent child source : String}
    (hparent : store.hasParent path = true) (hsource : store.content? path = some source) :
    (addDependency (Store.host template) s path parent child).run.run store =
      ((Effect.edit s store path parent child source).result,
        (Effect.edit s store path parent child source).apply store) := by
  have hread : (attempt ((Store.host template).read path)
      fun e => Failure.fileNotEdited path e.message).run.run store = (.ok source, store) := by
    change (((store.read path).mapError _).mapError _, store) = _
    rw [Store.read, hsource]
    rfl
  rw [addDependency, run_bind_of_eq_ok hread, Effect.edit]
  cases Declaration.isDeclared child source with
  | true => rfl
  | false =>
      cases Declaration.insertAbove s.dependencyAnchor (Declaration.statement child) source with
      | none => rfl
      | some updated =>
          have hwrite : (attempt ((Store.host template).write path updated)
              fun e => Failure.fileNotEdited path e.message).run.run store =
                ((Store.update path (·.write path updated) store).1.mapError
                  fun e => .fileNotEdited path e.message,
                  (Store.update path (·.write path updated) store).2) := rfl
          rw [Store.update, Store.write, hparent] at hwrite
          cases hlocked : store.isLocked path with
          | true =>
              rw [hlocked] at hwrite
              exact run_bind_of_eq_error hwrite
          | false =>
              rw [hlocked] at hwrite
              exact run_bind_of_eq_ok hwrite

theorem run_of_perform {step : Step} {r : Except Failure Report} {after : Store}
    (h : (step.perform (Store.host template) s
      (store.sources s.targetDirectory s.fileExtension)).run.run store = (r, after)) :
    (step.run (Store.host template) s).run store =
      (⟨step.command, step.parent, step.target, r⟩, after) := by
  change ((⟨step.command, step.parent, step.target, ((step.perform (Store.host template) s
    (store.sources s.targetDirectory s.fileExtension)).run.run store).1⟩ : StepReport),
      ((step.perform (Store.host template) s
        (store.sources s.targetDirectory s.fileExtension)).run.run store).2) = _
  rw [h]

theorem run_perform_of_lead (hslash : '/' ∉ s.fileExtension.toList) {step : Step}
    (hnames : ∀ n ∈ step.names, '/' ∉ n.toList) {a : Artifact} (hlead : step.lead? = some a) :
    (step.perform (Store.host template) s
      (store.sources s.targetDirectory s.fileExtension)).run.run store =
        ((creation template s store step a).result,
          (creation template s store step a).apply store) := by
  rw [perform_of_lead _ s hlead, creation]
  cases hlocated : a.located? s store with
  | some path =>
      rw [show findFile (store.sources s.targetDirectory s.fileExtension) (a.fileName s) =
        some path from hlocated]
      rfl
  | none =>
      rw [show findFile (store.sources s.targetDirectory s.fileExtension) (a.fileName s) =
        none from hlocated, Option.isNone_none, if_pos rfl, Option.isSome_none,
        if_neg (by decide)]
      cases hfiles : (step.drafts s).mapM (Draft.render template s) with
      | error e =>
          have hrender := run_mapM_renderDraft (Store.template_host template) s (step.drafts s) store
          rw [hfiles] at hrender
          exact run_bind_of_eq_error hrender
      | ok files =>
          apply run_createAll_eq hfiles
          intro file hfile
          obtain ⟨d, hd, hpath, -⟩ :=
            Draft.exists_of_yields (forall₂_yields_of_mapM_render hfiles) hfile
          rw [hpath]
          exact parent?_parts_of_mem_drafts hslash hnames hlead hd

variable (template) in
theorem run_perform_of_builder {path : Path} {parent child source : String}
    (hpath : (Artifact.role parent .builder).located? s store = some path)
    (hsource : store.content? path = some source) (hparent : store.hasParent path = true) :
    ((dependency parent child).perform (Store.host template) s
      (store.sources s.targetDirectory s.fileExtension)).run.run store =
        ((Effect.edit s store path parent child source).result,
          (Effect.edit s store path parent child source).apply store) := by
  rw [perform, show builder? s (store.sources s.targetDirectory s.fileExtension) parent =
    some path from hpath]
  exact run_addDependency_eq hparent hsource

variable (template) in
theorem run_perform_dependency (hs : store.WellFormed) (parent child : String) :
    ((dependency parent child).perform (Store.host template) s
      (store.sources s.targetDirectory s.fileExtension)).run.run store =
        ((declaration s store parent child).result,
          (declaration s store parent child).apply store) := by
  rw [declaration]
  cases hlocated : (Artifact.role parent .builder).located? s store with
  | none =>
      rw [perform, show builder? s (store.sources s.targetDirectory s.fileExtension) parent =
        none from hlocated]
      rfl
  | some path =>
      obtain ⟨source, hsource⟩ := (Store.hasFile_iff_content? store path).mp
        (Store.locate_eq_some hlocated).1
      simp only [hsource]
      exact run_perform_of_builder template hlocated hsource (hs.hasParent_of_content? hsource)

variable (template) in
/-- Without faults, a step comes to its effect. -/
theorem run_eq_effect (hslash : '/' ∉ s.fileExtension.toList) {step : Step}
    (hnames : ∀ n ∈ step.names, '/' ∉ n.toList) (hs : store.WellFormed) :
    (step.run (Store.host template) s).run store =
      (⟨step.command, step.parent, step.target, (step.effect template s store).result⟩,
        (step.effect template s store).apply store) := by
  apply run_of_perform
  cases hlead : step.lead? with
  | some a =>
      rw [effect_of_lead hlead]
      exact run_perform_of_lead hslash hnames hlead
  | none =>
      cases step with
      | component | extension => simp [lead?] at hlead
      | dependency parent child => exact run_perform_dependency template hs parent child

end Step

end RibTree
