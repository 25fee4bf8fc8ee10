import RibTree.Proofs.Step.Effect

/-!
# Steps that do not meet

A step has to do with the files of a few artifacts only: it looks for them by name, and it reads
and writes no others. What it comes to does not depend on a step with other artifacts that is taken
before it, and the two updates commute. Folders that both need, and paths that are locked, make no
difference.
-/

namespace RibTree

set_option autoImplicit false

namespace Store

variable {s : Store}

theorem locate_overwriteAll {files : List SourceFile} {name : String}
    (h : ∀ f ∈ files, f.path.fileName? ≠ some name) (s : Store) (root : Path) (extension : String) :
    (s.overwriteAll files).locate root extension name = s.locate root extension name := by
  induction files generalizing s with
  | nil => rfl
  | cons f files ih =>
      obtain ⟨hfirst, hrest⟩ := List.forall_mem_cons.mp h
      have hput : (s.put f.path f.content).locate root extension name =
          s.locate root extension name :=
        locate_put_of_not_wanted fun hwanted => hfirst hwanted.2.2
      rw [overwriteAll_cons, ih hrest, ← hput]
      exact locate_congr rfl

theorem admits_overwriteAll (s : Store) (files : List SourceFile) (folder : Path) :
    (s.overwriteAll files).admits folder = s.admits folder := by
  unfold admits isFolder hasFolder
  rw [folders_overwriteAll, isLocked_congr (locked_overwriteAll s files)]

end Store

namespace Effect

variable {e f : Effect} {store : Store}

theorem locked_apply (e : Effect) (store : Store) : (e.apply store).locked = store.locked := by
  unfold apply
  cases e.folder <;> simp

theorem content?_apply {q : Path} (h : ∀ file ∈ e.files, ¬ file.path.Same q) :
    (e.apply store).content? q = store.content? q := by
  unfold apply
  rw [Store.content?_overwriteAll h]
  cases e.folder with
  | none => rfl
  | some folder =>
      unfold Store.content? Store.find?
      rw [Option.elim_some, Store.files_ensure]

theorem locate_apply {name : String} (h : ∀ file ∈ e.files, file.path.fileName? ≠ some name)
    (root : Path) (extension : String) :
    (e.apply store).locate root extension name = store.locate root extension name := by
  unfold apply
  rw [Store.locate_overwriteAll h]
  cases e.folder with
  | none => rfl
  | some folder => exact Store.locate_congr (Store.files_ensure store folder)

theorem admits_apply (h : ∀ folder ∈ e.folder, store.admits folder = true) (p : Path) :
    (e.apply store).admits p = store.admits p := by
  unfold apply
  rw [Store.admits_overwriteAll]
  cases hfolder : e.folder with
  | none => rfl
  | some folder => exact Store.admits_ensure (h folder hfolder) p

theorem apply_comm (h : ∀ a ∈ e.files, ∀ b ∈ f.files, ¬ a.path.Same b.path) (store : Store) :
    f.apply (e.apply store) = e.apply (f.apply store) := by
  unfold apply
  cases e.folder <;> cases f.folder <;>
    simp only [Option.elim_none, Option.elim_some, ← Store.overwriteAll_ensure,
      Store.overwriteAll_comm h]
  rw [Store.ensure_comm]

end Effect

namespace Step

/-- The artifacts whose files a step looks for, reads or writes. -/
def footprint : Step → List Artifact
  | component target _ => (Role.all true).map (.role target)
  | extension parent child => [.extension parent child]
  | dependency parent _ => [.role parent .builder]

def Apart (step other : Step) : Prop := ∀ a ∈ step.footprint, a ∉ other.footprint

instance (step other : Step) : Decidable (step.Apart other) :=
  List.decidableBAll (fun a => a ∉ other.footprint) step.footprint

theorem Apart.symm {step other : Step} (h : step.Apart other) : other.Apart step :=
  fun a ha hstep => h a hstep ha

theorem names_of_mem_footprint {step : Step} {a : Artifact} (ha : a ∈ step.footprint) {n : String}
    (hn : n ∈ a.names) : n ∈ step.names := by
  cases step with
  | component target ownsView =>
      obtain ⟨role, -, rfl⟩ := List.mem_map.mp ha
      exact hn
  | extension parent child =>
      obtain rfl := List.mem_singleton.mp ha
      exact hn
  | dependency parent child =>
      obtain rfl := List.mem_singleton.mp ha
      exact List.mem_cons.mpr (Or.inl (List.mem_singleton.mp hn))

theorem mem_footprint_of_lead {step : Step} {a : Artifact} (hlead : step.lead? = some a) :
    a ∈ step.footprint := by
  cases step with
  | component target ownsView =>
      rw [← Option.some.inj hlead]
      exact List.mem_map_of_mem (by decide)
  | extension parent child =>
      rw [← Option.some.inj hlead]
      exact List.mem_singleton_self _
  | dependency parent child => simp [lead?] at hlead

variable {template : TemplateKey → Except TemplateFailure String} {s : Settings}
variable {store other : Store} {step : Step}

theorem mem_footprint_of_mem_drafts {d : Draft} (hd : d ∈ step.drafts s) :
    d.artifact ∈ step.footprint := by
  cases step with
  | component target ownsView =>
      obtain ⟨role, -, rfl⟩ := List.mem_map.mp hd
      exact List.mem_map_of_mem (by cases role <;> decide)
  | extension parent child =>
      obtain rfl := List.mem_singleton.mp hd
      exact List.mem_singleton_self _
  | dependency parent child => simp [drafts] at hd

/-- Stores that show the same of the artifacts of a step, and of what is locked, are all the same
to it. -/
theorem effect_congr (hlocked : other.locked = store.locked)
    (hadmits : ∀ folder, other.admits folder = store.admits folder)
    (hlocated : ∀ a ∈ step.footprint, a.located? s other = a.located? s store)
    (hcontent : ∀ a ∈ step.footprint, ∀ q, q.fileName? = some (a.fileName s) →
      other.content? q = store.content? q) :
    step.effect template s other = step.effect template s store := by
  have hfree : other.isLocked = store.isLocked := funext (Store.isLocked_congr hlocked)
  cases hlead : step.lead? with
  | some a =>
      rw [effect_of_lead hlead, effect_of_lead hlead, creation, creation,
        hlocated a (mem_footprint_of_lead hlead)]
      simp only [Effect.create, Effect.writing, Effect.written, hadmits, hfree]
  | none =>
      cases step with
      | component | extension => simp [lead?] at hlead
      | dependency parent child =>
          have hbuilder := List.mem_singleton_self (Artifact.role parent .builder)
          rw [effect, effect, declaration, declaration, hlocated _ hbuilder]
          cases hpath : (Artifact.role parent .builder).located? s store with
          | none => rfl
          | some path =>
              simp only [Effect.edit, hfree,
                hcontent _ hbuilder path (Store.locate_eq_some hpath).2.2.2]

/-- A step makes sure of a folder only if it is there or can be created. -/
theorem admits_of_mem_folder {folder : Path} (h : folder ∈ (step.effect template s store).folder) :
    store.admits folder = true := by
  cases hlead : step.lead? with
  | some a =>
      rw [effect_of_lead hlead, creation] at h
      split at h
      · simp at h
      · split at h
        · simp at h
        · unfold Effect.create at h
          split at h
          · rename_i hadmits
            rw [← Option.some.inj h]
            exact hadmits
          · simp at h
  | none =>
      cases step with
      | component | extension => simp [lead?] at hlead
      | dependency parent child =>
          rw [effect, declaration] at h
          split at h
          · simp at h
          · split at h
            · simp at h
            · rw [Effect.folder_edit] at h
              simp at h

/-- Every file that a step writes has the name of an artifact that it has to do with. -/
theorem exists_footprint_of_mem_files (hslash : '/' ∉ s.fileExtension.toList)
    (hnames : ∀ n ∈ step.names, '/' ∉ n.toList) {file : SourceFile}
    (h : file ∈ (step.effect template s store).files) :
    ∃ a ∈ step.footprint, file.path.fileName? = some (a.fileName s) := by
  cases hlead : step.lead? with
  | some a =>
      rw [effect_of_lead hlead, creation] at h
      split at h
      · simp at h
      · split at h
        · simp at h
        · rename_i files hfiles
          unfold Effect.create at h
          split at h
          · obtain ⟨d, hd, hpath, -⟩ := Draft.exists_of_yields (forall₂_yields_of_mapM_render hfiles)
              (Effect.mem_of_mem_written h)
            refine ⟨d.artifact, mem_footprint_of_mem_drafts hd, ?_⟩
            rw [hpath]
            exact Artifact.fileName?_path hslash fun n hn => hnames n (names_of_mem_drafts hd hn)
          · simp at h
  | none =>
      cases step with
      | component | extension => simp [lead?] at hlead
      | dependency parent child =>
          refine ⟨_, List.mem_singleton_self _, ?_⟩
          rw [effect, declaration] at h
          split at h
          · simp at h
          · rename_i path hlocated
            split at h
            · simp at h
            · rw [Effect.path_of_mem_files_edit h]
              exact (Store.locate_eq_some hlocated).2.2.2

section

variable {rival : Step}
variable (hslash : '/' ∉ s.fileExtension.toList) (hnames : ∀ n ∈ step.names, IsPlain n)
variable (hothers : ∀ n ∈ rival.names, IsPlain n) (hapart : step.Apart rival)
include hslash hnames hothers hapart

/-- What a step writes has none of the names that a step apart from it looks for. -/
theorem fileName?_ne_of_apart {file : SourceFile}
    (hfile : file ∈ (rival.effect template s store).files) {a : Artifact} (ha : a ∈ step.footprint) :
    file.path.fileName? ≠ some (a.fileName s) := by
  intro hname
  obtain ⟨b, hb, hb'⟩ :=
    exists_footprint_of_mem_files hslash (fun n hn => (hothers n hn).1) hfile
  rw [hb'] at hname
  have hsame : b = a := Artifact.fileName_injective
    (fun n hn => (hothers n (names_of_mem_footprint hb hn)).2)
    (fun n hn => (hnames n (names_of_mem_footprint ha hn)).2) (Option.some.inj hname)
  exact hapart a ha (hsame ▸ hb)

/-- A step comes to the same before and after one that is apart from it. -/
theorem effect_apply_of_apart :
    step.effect template s ((rival.effect template s store).apply store) =
      step.effect template s store := by
  apply effect_congr
  · exact Effect.locked_apply _ store
  · exact Effect.admits_apply fun folder hfolder => admits_of_mem_folder hfolder
  · intro a ha
    exact Effect.locate_apply
      (fun file hfile => fileName?_ne_of_apart hslash hnames hothers hapart hfile ha) _ _
  · intro a ha q hq
    apply Effect.content?_apply
    intro file hfile hsame
    apply fileName?_ne_of_apart hslash hnames hothers hapart hfile ha
    rw [hsame.fileName?_eq, hq]

theorem effect_apply_comm :
    (rival.effect template s store).apply ((step.effect template s store).apply store) =
      (step.effect template s store).apply ((rival.effect template s store).apply store) := by
  apply Effect.apply_comm
  intro file hfile other hother hsame
  obtain ⟨a, ha, hname⟩ :=
    exists_footprint_of_mem_files hslash (fun n hn => (hnames n hn).1) hfile
  apply fileName?_ne_of_apart hslash hnames hothers hapart hother ha
  rw [← hsame.fileName?_eq, hname]

end

end Step

end RibTree
