import RibTree.Disk.Host
import RibTree.Proofs.Disk.Mirror
import RibTree.Proofs.Step.Success

/-!
# A step on a disk and in its mirror

A step that succeeds on a disk comes to the same on a store that mirrors the disk, and the store
mirrors the disk afterwards. Only the success of the step is asked for. A path that a disk does not
take as it stands, because a file is in the way or a name is too long, shows in a failure of the
disk alone.
-/

namespace RibTree

set_option autoImplicit false

/-- The disk works with templates from elsewhere. -/
def Disk.hostWith (template : TemplateKey → Except TemplateFailure String) : Host (StateM Disk) :=
  { Disk.host (.set .empty) with template := fun key => return template key }

theorem Disk.template_hostWith (template : TemplateKey → Except TemplateFailure String)
    (key : TemplateKey) : (Disk.hostWith template).template key = pure (template key) := rfl

theorem Disk.host_set (templates : TemplateSet) :
    Disk.host (.set templates) = Disk.hostWith templates.read := rfl

namespace Artifact

variable {s : Settings} {a : Artifact}

/-- A file of a component stands below the target folder. -/
theorem path_below (hslash : '/' ∉ s.fileExtension.toList) (ha : ∀ n ∈ a.names, Path.IsName n) :
    s.targetDirectory.Above (a.path s) ∧
      ∃ names : List String, (a.path s).parts = s.targetDirectory.parts ++ names.map .name := by
  have hfile : Path.IsName (a.fileName s) := isName_fileName hslash fun n hn => (ha n hn).2.2.2
  rw [path_eq_join, Path.parts_join hfile]
  cases a with
  | role target r =>
      have htarget : Path.IsName target := ha target (by simp [names])
      refine ⟨(Path.above_join _ htarget).join hfile, [target, fileName s (.role target r)], ?_⟩
      rw [folder, Settings.componentFolder, Path.parts_join htarget]
      simp
  | extension parent child =>
      have hparent : Path.IsName parent := ha parent (by simp [names])
      have hfolder : Path.IsName "Dependencies" := by decide
      refine ⟨((Path.above_join _ hparent).join hfolder).join hfile,
        [parent, "Dependencies", fileName s (.extension parent child)], ?_⟩
      rw [folder, Settings.extensionFolder, Path.parts_join hfolder, Settings.componentFolder,
        Path.parts_join hparent]
      simp

end Artifact

section

variable {template : TemplateKey → Except TemplateFailure String} {s : Settings}
variable {home : List String} {d d' : Disk} {t : Store}

theorem Disk.grows_of_ensureFolder {folder : Path}
    (h : (Step.ensureFolder (Disk.hostWith template) folder).run.run d = (.ok (), d')) :
    d.Grows d' := by
  have hasked : (liftM ((Disk.hostWith template).isFolder folder) :
      ExceptT Failure (StateM Disk) Bool).run.run d = (.ok (d.isFolder folder), d) := rfl
  rw [Step.ensureFolder, run_bind_of_eq_ok hasked] at h
  cases hthere : d.isFolder folder with
  | true =>
      rw [hthere] at h
      rw [← show d = d' from (Prod.mk.inj h).2]
      exact .refl d
  | false =>
      rw [hthere] at h
      have hafter : (d.createFolders folder).2 = d' := (Prod.mk.inj h).2
      rw [← hafter]
      exact Disk.grows_createFolders d folder

theorem Disk.write_of_call {p : Path} {text : String}
    (h : ((Disk.hostWith template).write p text).run d = (.ok (), d')) :
    d.write p text = .ok d' := by
  simp only [Disk.hostWith, Disk.host, StateT.run] at h
  split at h
  · rename_i hwrite
    rw [hwrite, (Prod.mk.inj h).2]
  · cases h

theorem Disk.read_of_call {p : Path} {text : String}
    (h : ((Disk.hostWith template).read p).run d = (.ok text, d')) :
    d.read p = .ok text ∧ d' = d := by
  have hrun : ((Disk.hostWith template).read p).run d =
      ((d.read p).mapError (Disk.storageFailure p "read file"), d) := rfl
  rw [hrun] at h
  obtain ⟨hread, hafter⟩ := Prod.mk.inj h
  exact ⟨mapError_eq_ok_iff.mp hread, hafter.symm⟩

/-- What creating files on a disk does, if it succeeds. -/
theorem Disk.exists_of_createAll {folder : Path} {drafts : List Draft} {report r : Report}
    (h : (Step.createAll (Disk.hostWith template) s folder drafts report).run.run d =
      (.ok r, d')) :
    r = report ∧ ∃ files between, drafts.mapM (Draft.render template s) = .ok files ∧
      d.Grows between ∧
      (files.forM (Step.writeFile (Disk.hostWith template))).run.run between = (.ok (), d') := by
  obtain ⟨files, rendered, hrender, hrest⟩ := exists_of_run_bind h
  obtain ⟨_, between, hfolder, hlast⟩ := exists_of_run_bind hrest
  obtain ⟨_, last, hwrites, hpure⟩ := exists_of_run_bind hlast
  rw [Step.run_mapM_renderDraft (Disk.template_hostWith template)] at hrender
  obtain ⟨hfiles, rfl⟩ := Prod.mk.inj hrender
  obtain ⟨hreport, rfl⟩ := Prod.mk.inj hpure
  exact ⟨(Except.ok.inj hreport).symm, files, between, hfiles, Disk.grows_of_ensureFolder hfolder,
    hwrites⟩

theorem Disk.exists_write_of_writeFiles {files : List SourceFile} (hfiles : files ≠ [])
    (h : (files.forM (Step.writeFile (Disk.hostWith template))).run.run d = (.ok (), d')) :
    ∃ file ∈ files, ∃ between, d.write file.path file.content = .ok between := by
  obtain ⟨file, files, rfl⟩ := List.exists_cons_of_ne_nil hfiles
  obtain ⟨_, between, hfirst, -⟩ := exists_of_run_bind h
  exact ⟨file, List.mem_cons_self, between, Disk.write_of_call (run_of_run_attempt hfirst)⟩

theorem Effect.create_of_unlocked {store : Store} (h : store.locked = []) (folder : Path)
    (files : List SourceFile) (report : Report) :
    Effect.create store folder files report =
      { result := .ok report, folder := some folder, files := files } := by
  have hadmits : store.admits folder = true := by
    rw [Store.admits, Store.isLocked_eq_false h, Bool.not_false, Bool.or_true]
  obtain ⟨hwriting, hwritten⟩ := writing_of_free fun file (_ : file ∈ files) =>
    Store.isLocked_eq_false h file.path
  rw [Effect.create, if_pos hadmits, hwriting, hwritten]
  rfl

namespace Mirrors

/-- Files are written to the disk and to the store, and both hold them. -/
theorem writeFiles (h : Mirrors home d t) {files : List SourceFile}
    (hfiles : ∀ file ∈ files, t.hasParent file.path = true ∧
      ∃ names : List String, file.path.parts = names.map .name)
    (hrun : (files.forM (Step.writeFile (Disk.hostWith template))).run.run d = (.ok (), d')) :
    Mirrors home d' (t.overwriteAll files) := by
  induction files generalizing d t with
  | nil =>
      rw [← show d = d' from (Prod.mk.inj hrun).2]
      exact h
  | cons file files ih =>
      obtain ⟨⟨hparent, names, hnames⟩, hrest⟩ := List.forall_mem_cons.mp hfiles
      obtain ⟨_, between, hfirst, hlast⟩ := exists_of_run_bind hrun
      have hwrite := Disk.write_of_call (run_of_run_attempt hfirst)
      exact ih (h.overwrite hwrite hnames rfl hparent) hrest hlast

/-- The paths that a step means to write, on a disk where the target folder is below its start. -/
theorem path_of_mem_drafts (hslash : '/' ∉ s.fileExtension.toList) {target : List String}
    (htarget : s.targetDirectory.parts = target.map .name) {step : Step}
    (hnames : ∀ n ∈ step.names, Path.IsName n) {draft : Draft} (hd : draft ∈ step.drafts s) :
    s.targetDirectory.Above (draft.artifact.path s) ∧
      ∃ names : List String, (draft.artifact.path s).parts = names.map .name := by
  obtain ⟨habove, names, hparts⟩ := Artifact.path_below hslash fun n hn =>
    hnames n (Step.names_of_mem_drafts hd hn)
  exact ⟨habove, target ++ names, by rw [hparts, htarget, List.map_append]⟩

/-- The disk and the store find the file of an artifact under the same path. If the disk finds
none, something has to show that the files of the store could be listed. -/
theorem map_parts_findFile (h : Mirrors home d t) {target : List String}
    (htarget : s.targetDirectory.parts = target.map .name) (a : Artifact)
    (hlisted : findFile (d.sources s.targetDirectory s.fileExtension) (a.fileName s) = none →
      ∀ path ∈ a.located? s t, ∃ inside, d.locate s.targetDirectory = .ok (.folder inside)) :
    (findFile (d.sources s.targetDirectory s.fileExtension) (a.fileName s)).map Path.parts =
      (a.located? s t).map Path.parts := by
  by_cases hlocate : ∃ inside, d.locate s.targetDirectory = .ok (.folder inside)
  · obtain ⟨inside, hlocate⟩ := hlocate
    exact h.findFile_sources htarget hlocate s.fileExtension (a.fileName s)
  · have hnil : d.sources s.targetDirectory s.fileExtension = [] :=
      Disk.sources_eq_nil (fun inside hinside => hlocate ⟨inside, hinside⟩) s.fileExtension
    have hnone : findFile (d.sources s.targetDirectory s.fileExtension) (a.fileName s) = none := by
      rw [hnil]
      rfl
    cases hlocated : a.located? s t with
    | none => rw [hnone]
    | some path => exact absurd (hlisted hnone path hlocated) hlocate

/-- A step that creates files, or finds them there, does the same in the store. -/
theorem creation (h : Mirrors home d t) (hslash : '/' ∉ s.fileExtension.toList)
    {target : List String} (htarget : s.targetDirectory.parts = target.map .name)
    (hbelow : target ≠ []) {step : Step} (hnames : ∀ n ∈ step.names, Path.IsName n) {a : Artifact}
    (hlead : step.lead? = some a) {r : Report}
    (hrun : (step.perform (Disk.hostWith template) s
      (d.sources s.targetDirectory s.fileExtension)).run.run d = (.ok r, d')) :
    (step.creation template s t a).result = .ok r ∧
      Mirrors home d' ((step.creation template s t a).apply t) := by
  rw [Step.perform_of_lead _ s hlead] at hrun
  cases hfound : findFile (d.sources s.targetDirectory s.fileExtension) (a.fileName s) with
  | some p =>
      have hsame := h.map_parts_findFile htarget a (by simp [hfound])
      rw [hfound] at hrun hsame
      obtain ⟨hr, hd⟩ := Prod.mk.inj hrun
      have hlocated : (a.located? s t).isSome = true := by
        rw [← Option.isSome_map (f := Path.parts), ← hsame]
        exact Option.isSome_some
      rw [Step.creation, if_pos hlocated, ← hd]
      exact ⟨hr, h⟩
  | none =>
      have hpaths := fun draft (hd : draft ∈ step.drafts s) =>
        path_of_mem_drafts hslash htarget hnames hd
      rw [hfound, Option.isNone_none, if_pos rfl] at hrun
      obtain ⟨rfl, files, between, hfiles, hgrows, hwrites⟩ := Disk.exists_of_createAll hrun
      have hyields := Step.forall₂_yields_of_mapM_render hfiles
      have hsame := h.map_parts_findFile htarget a fun _ path hpath => by
        -- The disk may have found nothing because it could not follow the path of the target
        -- folder. That it has written below the folder shows that it could.
        obtain ⟨d, hd, -⟩ := Step.mem_drafts_of_lead hlead
        obtain ⟨file, hfile, -⟩ := Draft.exists_yields hyields hd
        obtain ⟨first, hfirst, after, hwrite⟩ :=
          Disk.exists_write_of_writeFiles (List.ne_nil_of_mem hfile) hwrites
        obtain ⟨draft, hdraft, hpath', -⟩ := Draft.exists_of_yields hyields hfirst
        obtain ⟨habove, names, hnames⟩ := hpaths draft hdraft
        rw [← hpath'] at habove hnames
        obtain ⟨hthere, hwanted⟩ := Store.locate_eq_some hpath
        exact h.locate_of_write htarget hbelow hthere hwanted.1 hgrows hwrite hnames habove
      have hlocated : a.located? s t = none := by
        rw [hfound] at hsame
        exact Option.map_eq_none_iff.mp hsame.symm
      rw [Step.creation, hlocated, Option.isSome_none, if_neg (by decide), hfiles]
      dsimp only
      rw [Effect.create_of_unlocked h.free]
      refine ⟨rfl, (h.ensure hgrows (a.folder s)).writeFiles ?_ hwrites⟩
      intro file hfile
      obtain ⟨draft, hdraft, hpath, -⟩ := Draft.exists_of_yields hyields hfile
      rw [hpath]
      refine ⟨t.hasParent_ensure ?_, (hpaths draft hdraft).2⟩
      exact Step.parent?_parts_of_mem_drafts hslash (fun n hn => (hnames n hn).2.2.2) hlead hdraft

/-- What is done to a builder on the disk is done to it in the store. -/
theorem edit (h : Mirrors home d t) {p q : Path} {names : List String} {parent child : String}
    (hp : p.parts = names.map .name) (hsame : q.Same p) {r : Report}
    (hrun : (Step.addDependency (Disk.hostWith template) s p parent child).run.run d =
      (.ok r, d')) :
    ∃ source, t.content? q = some source ∧
      (Effect.edit s t q parent child source).result = .ok r ∧
      Mirrors home d' ((Effect.edit s t q parent child source).apply t) := by
  obtain ⟨source, rest, hfirst, hrest⟩ := exists_of_run_bind hrun
  obtain ⟨hread, rfl⟩ := Disk.read_of_call (run_of_run_attempt hfirst)
  have hsource : t.content? q = some source := by
    have hfile := Disk.kind?_of_read hread hp
    rw [h.here] at hfile
    rw [Store.content?_congr t hsame]
    exact (h.content p names hp source).mpr hfile
  refine ⟨source, hsource, ?_⟩
  rw [Effect.edit]
  cases hdeclared : Declaration.isDeclared child source with
  | true =>
      rw [hdeclared, if_pos rfl] at hrest
      obtain ⟨hr, rfl⟩ := Prod.mk.inj hrest
      exact ⟨hr, h⟩
  | false =>
      rw [hdeclared, if_neg (by decide)] at hrest
      cases hinsert : Declaration.insertAbove s.dependencyAnchor (Declaration.statement child)
          source with
      | none =>
          rw [hinsert] at hrest
          exact absurd (Prod.mk.inj hrest).1 (by simp)
      | some updated =>
          rw [hinsert] at hrest
          obtain ⟨_, after, hwritten, hpure⟩ := exists_of_run_bind hrest
          obtain ⟨hr, rfl⟩ := Prod.mk.inj hpure
          have hwrite := Disk.write_of_call (run_of_run_attempt hwritten)
          have hparent := h.wellFormed.hasParent_of_content? hsource
          simp only [Store.isLocked_eq_false h.free]
          exact ⟨hr, h.overwrite hwrite hp hsame hparent⟩

theorem declaration (h : Mirrors home d t) {target : List String}
    (htarget : s.targetDirectory.parts = target.map .name) {parent child : String} {r : Report}
    (hrun : ((Step.dependency parent child).perform (Disk.hostWith template) s
      (d.sources s.targetDirectory s.fileExtension)).run.run d = (.ok r, d')) :
    (Step.declaration s t parent child).result = .ok r ∧
      Mirrors home d' ((Step.declaration s t parent child).apply t) := by
  rw [Step.perform] at hrun
  cases hbuilder : Step.builder? s (d.sources s.targetDirectory s.fileExtension) parent with
  | none =>
      rw [hbuilder] at hrun
      exact absurd (Prod.mk.inj hrun).1 (by simp)
  | some p =>
      rw [hbuilder] at hrun
      have hfound : findFile (d.sources s.targetDirectory s.fileExtension)
          ((Artifact.role parent .builder).fileName s) = some p := hbuilder
      have hpaths := h.map_parts_findFile htarget (.role parent .builder) (by simp [hfound])
      rw [hfound] at hpaths
      obtain ⟨q, hq, hsame⟩ := Option.map_eq_some_iff.mp hpaths.symm
      obtain ⟨names, hnames⟩ := h.names_of_hasFile (Store.locate_eq_some hq).1
      obtain ⟨source, hsource, hedit⟩ := h.edit (hsame.symm.trans hnames) hsame hrun
      rw [Step.declaration, hq]
      simp only [hsource]
      exact hedit

/-- A step that succeeds on the disk comes to the same in the store, which mirrors the disk
again. -/
theorem run_step (h : Mirrors home d t) (hslash : '/' ∉ s.fileExtension.toList)
    {target : List String} (htarget : s.targetDirectory.parts = target.map .name)
    (hbelow : target ≠ []) {step : Step} (hnames : ∀ n ∈ step.names, Path.IsName n) {r : Report}
    (hok : ((step.run (Disk.hostWith template) s).run d).1.result = .ok r) :
    ((step.run (Store.host template) s).run t).1 = ((step.run (Disk.hostWith template) s).run d).1 ∧
      Mirrors home ((step.run (Disk.hostWith template) s).run d).2
        ((step.run (Store.host template) s).run t).2 := by
  have hrun : (step.run (Disk.hostWith template) s).run d =
      let ended := (step.perform (Disk.hostWith template) s
        (d.sources s.targetDirectory s.fileExtension)).run.run d
      (⟨step.command, step.parent, step.target, ended.1⟩, ended.2) := rfl
  rcases hperform : (step.perform (Disk.hostWith template) s
    (d.sources s.targetDirectory s.fileExtension)).run.run d with ⟨result, after⟩
  rw [hperform] at hrun
  rw [hrun] at hok ⊢
  obtain rfl : result = .ok r := hok
  rw [Step.run_eq_effect template hslash (fun n hn => (hnames n hn).2.2.2) h.wellFormed]
  have heffect : (step.effect template s t).result = .ok r ∧
      Mirrors home after ((step.effect template s t).apply t) := by
    cases hlead : step.lead? with
    | some a =>
        rw [Step.effect_of_lead hlead]
        exact h.creation hslash htarget hbelow hnames hlead hperform
    | none =>
        cases step with
        | component | extension => simp [Step.lead?] at hlead
        | dependency parent child => exact h.declaration htarget hperform
  rw [heffect.1]
  exact ⟨rfl, heffect.2⟩

end Mirrors

end

end RibTree
