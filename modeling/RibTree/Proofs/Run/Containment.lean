import RibTree.Proofs.Run.History
import RibTree.Proofs.Step.Success

/-!
# What a run can reach

A run changes no files but those of its components and extensions and the builders that were
listed before it. All of them lie under the target directory, and those that are new lie there
without a way up. Nothing is removed, and nothing under a locked path is changed.
-/

namespace RibTree

set_option autoImplicit false

namespace Path

/-- A way down from `p` leads to `q`. -/
def LeadsDown (p q : Path) : Prop := ∃ rest, q.parts = p.parts ++ rest ∧ .up ∉ rest

theorem LeadsDown.contains {p q : Path} (h : p.LeadsDown q) : p.Contains q := by
  obtain ⟨rest, hparts, -⟩ := h
  exact ⟨rest, hparts.symm⟩

theorem LeadsDown.trans {p q r : Path} (hpq : p.LeadsDown q) (hqr : q.LeadsDown r) :
    p.LeadsDown r := by
  obtain ⟨first, hfirst, hup⟩ := hpq
  obtain ⟨last, hlast, hup'⟩ := hqr
  refine ⟨first ++ last, ?_, ?_⟩
  · rw [hlast, hfirst, List.append_assoc]
  · intro hmem
    exact (List.mem_append.mp hmem).elim hup hup'

theorem LeadsDown.congr {p q r : Path} (h : p.LeadsDown q) (hqr : q.Same r) : p.LeadsDown r := by
  obtain ⟨rest, hparts, hup⟩ := h
  refine ⟨rest, ?_, hup⟩
  rw [← hparts]
  exact hqr.symm

theorem up_notMem_ofPiece? {q : String} (hq : q ≠ "..") :
    .up ∉ (Part.ofPiece? q.toList).toList := by
  have hlist : q.toList ≠ ['.', '.'] := fun he => hq (String.toList_injective he)
  unfold Part.ofPiece?
  rw [if_neg hlist]
  split <;> simp

theorem leadsDown_join {p : Path} {q : String} (hslash : '/' ∉ q.toList) (hq : q ≠ "..") :
    p.LeadsDown (p.join ⟨q⟩) := by
  by_cases hp : p.text = ""
  · have hpieces : Text.pieces '/' q.toList = [q.toList] := Text.pieces_of_notMem hslash
    refine ⟨(⟨q⟩ : Path).parts, ?_, ?_⟩
    · rw [join_of_text_eq_empty hp, parts_of_text_eq_empty hp, List.nil_append]
    · have hnamed : [q.toList].filterMap Part.ofPiece? = (Part.ofPiece? q.toList).toList := by
        cases hpiece : Part.ofPiece? q.toList <;> simp [hpiece]
      unfold parts
      rw [isAbsolute_eq_false hslash, pieces, hpieces, hnamed, if_neg (by decide)]
      split
      · intro hmem
        rcases List.mem_cons.mp hmem with hhere | hmem
        · exact Part.noConfusion hhere
        · exact up_notMem_ofPiece? hq hmem
      · exact up_notMem_ofPiece? hq
  · exact ⟨_, parts_join_of_text_ne_empty hp hslash, up_notMem_ofPiece? hq⟩

end Path

namespace Artifact

theorem leadsDown_path {s : Settings} (hslash : '/' ∉ s.fileExtension.toList) {a : Artifact}
    (ha : ∀ n ∈ a.names, '/' ∉ n.toList ∧ n ≠ "..") : s.targetDirectory.LeadsDown (a.path s) := by
  have hname : Path.IsName (a.fileName s) := isName_fileName hslash fun n hn => (ha n hn).1
  have hlast : (a.folder s).LeadsDown (a.path s) := by
    rw [path_eq_join]
    exact Path.leadsDown_join hname.2.2.2 hname.2.2.1
  refine Path.LeadsDown.trans ?_ hlast
  cases a with
  | role target r =>
      obtain ⟨htarget, hup⟩ := ha target (by simp [names])
      exact Path.leadsDown_join htarget hup
  | extension parent child =>
      obtain ⟨hparent, hup⟩ := ha parent (by simp [names])
      exact (Path.leadsDown_join hparent hup).trans (Path.leadsDown_join (by decide) (by decide))

end Artifact

namespace Store

variable {s t : Store}

theorem isLocked_eq_of_same {p q : Path} (h : p.Same q) (s : Store) : s.isLocked p = s.isLocked q := by
  simp only [isLocked, h.contains_iff]

theorem keepsFolders_ensure (s : Store) (folder : Path) : s.KeepsFolders (s.ensure folder) := by
  unfold ensure
  split
  · exact fun _ h => h
  · exact keepsFolders_addFolders s folder.parts

end Store

namespace Step

variable {template : TemplateKey → Except TemplateFailure String} {s : Settings}
variable {before after : Store} {step : Step} {r : Except Failure Report}

/-- How a step changes a store: a folder is made sure of, and then files are written, each of them
a draft of the step or the builder that it edits. -/
structure Updates (s : Settings) (step : Step) (before ensured : Store) (files : List SourceFile)
    (after : Store) : Prop where
  folders : before.KeepsFolders ensured
  locked : ensured.locked = before.locked
  content : ∀ q, ensured.content? q = before.content? q
  wrote : ensured.Wrote files after
  places : ∀ file ∈ files, (∃ d ∈ step.drafts s, file.path = d.artifact.path s) ∨
    ∃ parent child, step = .dependency parent child ∧
      (Artifact.role parent .builder).located? s before = some file.path

theorem updates_self (s : Settings) (step : Step) (before : Store) :
    step.Updates s before before [] before :=
  ⟨fun _ h => h, rfl, fun _ => rfl, .nil before, by simp⟩

theorem Creating.updates {folder : Path} {q : Except Failure (List SourceFile)}
    (h : Creating template s before folder (step.drafts s) q after) :
    ∃ ensured files, step.Updates s before ensured files after := by
  rcases h.wrote with rfl | ⟨ensured, files, hensured, hwrote, hpaths⟩
  · exact ⟨after, [], updates_self s step after⟩
  · have hfolders : before.KeepsFolders ensured := by
      rw [(Store.ensured_iff.mp hensured).2]
      exact Store.keepsFolders_ensure before folder
    exact ⟨ensured, files, hfolders, hensured.locked_eq, hensured.content?_eq, hwrote,
      fun file hfile => Or.inl (hpaths file hfile)⟩

theorem Outcome.updates (h : Outcome template s before step r after) :
    ∃ ensured files, step.Updates s before ensured files after := by
  cases h with
  | unlisted | present | noBuilder => exact ⟨before, [], updates_self s _ before⟩
  | uncreated hlead hmissing hcreating => exact hcreating.updates
  | created hlead hmissing hcreating => exact hcreating.updates
  | @editing parent child path result after hlocated hediting =>
      rcases hediting.write_or_eq with rfl | ⟨updated, hwrite⟩
      · exact ⟨after, [], updates_self s _ after⟩
      · refine ⟨before, [⟨path, updated⟩], fun _ h => h, rfl, fun _ => rfl,
          .cons hwrite (.nil after), ?_⟩
        intro file hfile
        rw [List.mem_singleton.mp hfile]
        exact Or.inr ⟨parent, child, rfl, hlocated⟩

namespace Updates

variable {ensured : Store} {files : List SourceFile}

theorem locked_eq (h : step.Updates s before ensured files after) : after.locked = before.locked :=
  h.wrote.locked_eq.trans h.locked

theorem keepsFolders (h : step.Updates s before ensured files after) :
    before.KeepsFolders after := by
  intro parts hparts
  unfold Store.hasFolder
  rw [(Store.wrote_iff.mp h.wrote).2, Store.folders_overwriteAll]
  exact h.folders parts hparts

/-- A path that holds another text than before is not locked and is one that the step writes. -/
theorem of_content?_ne (h : step.Updates s before ensured files after) {q : Path}
    (hq : after.content? q ≠ before.content? q) :
    before.isLocked q = false ∧ ((∃ d ∈ step.drafts s, (d.artifact.path s).Same q) ∨
      ∃ parent child path, step = .dependency parent child ∧
        (Artifact.role parent .builder).located? s before = some path ∧ path.Same q) := by
  rcases h.wrote.content?_cases q with ⟨file, hfile, hsame, -⟩ | ⟨-, hkept⟩
  · constructor
    · have hfree := ((Store.wrote_iff.mp h.wrote).1 file hfile).1
      rwa [Store.isLocked_congr h.locked, Store.isLocked_eq_of_same hsame] at hfree
    · rcases h.places file hfile with ⟨d, hd, hpath⟩ | ⟨parent, child, hstep, hpath⟩
      · exact Or.inl ⟨d, hd, hpath ▸ hsame⟩
      · exact Or.inr ⟨parent, child, file.path, hstep, hpath, hsame⟩
  · exact absurd (hkept.trans (h.content q)) hq

end Updates

end Step

/-- The files that steps may change in a store. -/
inductive Reached (s : Settings) (store : Store) (steps : List Step) : Path → Prop
  | role {target : String} {ownsView : Bool} {role : Role} {q : Path} :
      .component target ownsView ∈ steps → role ∈ Role.all ownsView →
      (s.roleFile target role).Same q → Reached s store steps q
  | extension {parent child : String} {q : Path} :
      .extension parent child ∈ steps → (s.extensionFile parent child).Same q →
      Reached s store steps q
  | builder {parent child : String} {p q : Path} :
      .dependency parent child ∈ steps →
      p ∈ store.sources s.targetDirectory s.fileExtension →
      p.fileName? = some (s.builderName parent) → p.Same q → Reached s store steps q

section

variable {template : TemplateKey → Except TemplateFailure String} {s : Settings} {store : Store}
variable {steps : List Step}

theorem Reached.congr {p q : Path} (h : Reached s store steps p) (hpq : p.Same q) :
    Reached s store steps q := by
  cases h with
  | role hstep hrole hsame => exact .role hstep hrole (hsame.trans hpq)
  | extension hstep hsame => exact .extension hstep (hsame.trans hpq)
  | builder hstep hlisted hname hsame => exact .builder hstep hlisted hname (hsame.trans hpq)

theorem Reached.of_draft {step : Step} (hstep : step ∈ steps) {d : Draft}
    (hd : d ∈ step.drafts s) {q : Path} (hsame : (d.artifact.path s).Same q) :
    Reached s store steps q := by
  cases step with
  | component target ownsView =>
      obtain ⟨role, hrole, rfl⟩ := List.mem_map.mp hd
      exact .role hstep hrole hsame
  | extension parent child =>
      obtain rfl := List.mem_singleton.mp hd
      exact .extension hstep hsame
  | dependency parent child => simp [Step.drafts] at hd

/-- A file that is wanted is listed, in some spelling. -/
theorem Store.exists_mem_sources {root q : Path} {extension name : String}
    (hq : store.hasFile q = true) (hwanted : Store.Wanted root extension name q) :
    ∃ p ∈ store.sources root extension, p.fileName? = some name ∧ p.Same q := by
  obtain ⟨f, hf, hsame⟩ := Store.exists_mem_of_hasFile hq
  obtain ⟨hcontains, hextension, hname⟩ := hwanted.congr hsame.symm
  refine ⟨f.path, List.mem_filter.mpr ⟨List.mem_map_of_mem hf, ?_⟩, hname, hsame⟩
  rw [Bool.and_eq_true]
  exact ⟨decide_eq_true hcontains, beq_iff_eq.mpr hextension⟩

/-- What a run keeps of the store that it starts from. -/
structure Confined (s : Settings) (steps : List Step) (store after : Store) : Prop where
  files : ∀ q, store.hasFile q = true → after.hasFile q = true
  folders : store.KeepsFolders after
  locked : after.locked = store.locked
  frozen : ∀ q, store.isLocked q = true → after.content? q = store.content? q
  reached : ∀ q, after.content? q ≠ store.content? q → Reached s store steps q

theorem confined_self (s : Settings) (steps : List Step) (store : Store) :
    Confined s steps store store :=
  ⟨fun _ h => h, fun _ h => h, rfl, fun _ _ => rfl, fun _ h => absurd rfl h⟩

/-- A builder that a step finds was listed before, or is itself one of the files reached. -/
theorem Confined.reached_builder {between : Store} (h : Confined s steps store between)
    {parent child : String} (hstep : .dependency parent child ∈ steps) {path : Path}
    (hpath : (Artifact.role parent .builder).located? s between = some path) :
    Reached s store steps path := by
  obtain ⟨hfile, hwanted⟩ := Store.locate_eq_some hpath
  cases hbefore : store.hasFile path with
  | true =>
      obtain ⟨p, hp, hname, hsame⟩ := Store.exists_mem_sources hbefore hwanted
      exact .builder hstep hp hname hsame
  | false =>
      apply h.reached
      intro hsame
      rw [Store.hasFile_iff_content?, hsame, ← Store.hasFile_iff_content?, hbefore] at hfile
      exact absurd hfile (by decide)

/-- Every step keeps a run confined, whatever it comes to. -/
theorem Confined.step {between after : Store} (h : Confined s steps store between) {step : Step}
    (hstep : step ∈ steps) {r : Except Failure Report}
    (houtcome : Step.Outcome template s between step r after) : Confined s steps store after := by
  obtain ⟨ensured, files, hupdates⟩ := houtcome.updates
  constructor
  · exact fun q hq => houtcome.hasFile_of_hasFile (h.files q hq)
  · exact fun parts hparts => hupdates.keepsFolders parts (h.folders parts hparts)
  · exact hupdates.locked_eq.trans h.locked
  · intro q hq
    by_contra hchanged
    rw [← h.frozen q hq] at hchanged
    obtain ⟨hfree, -⟩ := hupdates.of_content?_ne hchanged
    rw [Store.isLocked_congr h.locked, hq] at hfree
    exact absurd hfree (by decide)
  · intro q hq
    -- What this step has not changed was reached by a step before it.
    by_cases hkept : after.content? q = between.content? q
    · exact h.reached q fun hsame => hq (hkept.trans hsame)
    · obtain ⟨-, ⟨d, hd, hsame⟩ | ⟨parent, child, path, rfl, hpath, hsame⟩⟩ :=
        hupdates.of_content?_ne hkept
      · exact .of_draft hstep hd hsame
      · exact (h.reached_builder hstep hpath).congr hsame

theorem confined_play (template : TemplateKey → Except TemplateFailure String) (s : Settings)
    (steps : List Step) (faults : List Fault) (store : Store) :
    Confined s steps store (play template s steps faults store).after :=
  play_keeps (P := Confined s steps store)
    (fun _ hstep _ _ _ houtcome h => h.step hstep houtcome) faults (confined_self s steps store)

/-- Where the files lie that steps may change. -/
theorem Reached.cases_leadsDown (hslash : '/' ∉ s.fileExtension.toList)
    (hnames : ∀ step ∈ steps, ∀ n ∈ step.names, '/' ∉ n.toList ∧ n ≠ "..") {q : Path}
    (h : Reached s store steps q) :
    (∃ p ∈ store.sources s.targetDirectory s.fileExtension, p.Same q) ∨
      s.targetDirectory.LeadsDown q := by
  have hartifact : ∀ {step : Step} (_ : step ∈ steps) {a : Artifact},
      (∀ n ∈ a.names, n ∈ step.names) → (a.path s).Same q → s.targetDirectory.LeadsDown q := by
    intro step hstep a ha hsame
    have hpath := Artifact.leadsDown_path hslash fun n hn => hnames step hstep n (ha n hn)
    exact hpath.congr hsame
  cases h with
  | @role target ownsView role _ hstep hrole hsame =>
      exact Or.inr (hartifact hstep (fun n hn => hn) (a := .role target role) hsame)
  | @extension parent child _ hstep hsame =>
      exact Or.inr (hartifact hstep (fun n hn => hn) (a := .extension parent child) hsame)
  | builder hstep hlisted hname hsame => exact Or.inl ⟨_, hlisted, hsame⟩

end

/-- What runs change, whatever fails. No file and no folder is removed. The files that appear or
hold another text are role files and extensions of the runs and builders of their parents that were
listed before, and they lie under the target directory, with no way up in the paths that are new.
Nothing under a locked path is changed. -/
theorem history_confined (template : TemplateKey → Except TemplateFailure String) {s : Settings}
    (hslash : '/' ∉ s.fileExtension.toList) {calls : List Call}
    (hnames : ∀ call ∈ calls, ∀ n ∈ call.names, '/' ∉ n.toList ∧ n ≠ "..") (faults : List Fault)
    (store : Store) :
    let after := (history template s calls faults store).2
    (∀ q, store.hasFile q = true → after.hasFile q = true) ∧
      (∀ q, store.isFolder q = true → after.isFolder q = true) ∧
      (∀ q, after.content? q ≠ store.content? q →
        Reached s store (calls.flatMap Call.steps) q ∧ s.targetDirectory.Contains q ∧
          ((∃ p ∈ store.sources s.targetDirectory s.fileExtension, p.Same q) ∨
            s.targetDirectory.LeadsDown q)) ∧
      ∀ q, store.isLocked q = true → after.content? q = store.content? q := by
  have hsteps : ∀ step ∈ calls.flatMap Call.steps, ∀ n ∈ step.names, '/' ∉ n.toList ∧ n ≠ ".." := by
    intro step hstep n hn
    obtain ⟨call, hcall, hstep⟩ := List.mem_flatMap.mp hstep
    exact hnames call hcall n (Call.names_of_mem_steps hstep hn)
  rw [history_eq_play]
  intro after
  have hconfined : Confined s (calls.flatMap Call.steps) store after :=
    confined_play template s (calls.flatMap Call.steps) faults store
  refine ⟨hconfined.files, fun q => hconfined.folders q.parts, ?_, hconfined.frozen⟩
  intro q hq
  have hreached := hconfined.reached q hq
  have hplace := hreached.cases_leadsDown hslash hsteps
  refine ⟨hreached, ?_, hplace⟩
  rcases hplace with ⟨p, hp, hsame⟩ | hdown
  · obtain ⟨-, hkeep⟩ := List.mem_filter.mp hp
    rw [Bool.and_eq_true, decide_eq_true_eq] at hkeep
    exact hsame.contains_iff.mp hkeep.1
  · exact hdown.contains

/-- A builder that is listed under a way up is edited there, and the locked child is not created. -/
theorem history_confined_of_listed_builder :
    let template : TemplateKey → Except TemplateFailure String := fun _ => .ok "text"
    let s : Settings := { targetDirectory := ⟨"Sources"⟩ }
    let store := ((Store.empty.withFile ⟨"Sources/../ABuilder.swift"⟩
      "    // ribgen:child-builders\n").withLocked ⟨"Sources/B"⟩)
    let calls : List Call := [.add "B" (some "A") true]
    let after := (history template s calls [] store).2
    ('/' ∉ s.fileExtension.toList ∧
      ∀ call ∈ calls, ∀ n ∈ call.names, '/' ∉ n.toList ∧ n ≠ "..") ∧
      after.content? ⟨"Sources/../ABuilder.swift"⟩ ≠ store.content? ⟨"Sources/../ABuilder.swift"⟩ ∧
      Reached s store (calls.flatMap Call.steps) ⟨"Sources/../ABuilder.swift"⟩ ∧
      after.content? ⟨"Sources/B/BBuilder.swift"⟩ = none := by
  intro template s store calls after
  have hslash : '/' ∉ s.fileExtension.toList := by decide
  have hnames : ∀ call ∈ calls, ∀ n ∈ call.names, '/' ∉ n.toList ∧ n ≠ ".." := by decide
  obtain ⟨-, -, hreached, hfrozen⟩ := history_confined template hslash hnames [] store
  have hchanged : after.content? ⟨"Sources/../ABuilder.swift"⟩ ≠
      store.content? ⟨"Sources/../ABuilder.swift"⟩ := by decide +kernel
  refine ⟨⟨hslash, hnames⟩, hchanged, (hreached _ hchanged).1, ?_⟩
  exact (hfrozen ⟨"Sources/B/BBuilder.swift"⟩ (by decide +kernel)).trans (by decide +kernel)

end RibTree
