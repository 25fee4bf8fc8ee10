import RibTree.Proofs.Run.History
import RibTree.Proofs.Step.Mirror

/-!
# Runs on a disk and in memory

Runs that succeed on a disk give the same reports and summaries on a store that is seeded with the
files of the disk, and leave the same files. The two are kept apart by paths that they read
differently: an extension with a slash in it names a folder that the disk may have and the store
does not, and the empty path, which the store takes for the folder that all files are in, is
nowhere on a disk.
-/

namespace RibTree

set_option autoImplicit false

/-- The files below a folder as texts, under paths that start from there. -/
def Listing.texts (l : Listing) : List SourceFile :=
  l.contents.map fun entry =>
    ⟨.ofParts (entry.1.map .name), (String.fromUTF8? entry.2).getD ""⟩

/-- All files are texts. -/
def Listing.IsText (l : Listing) : Prop :=
  ∀ entry ∈ l.contents, (String.fromUTF8? entry.2).isSome = true

instance : DecidablePred Listing.IsText := fun l =>
  inferInstanceAs (Decidable (∀ entry ∈ l.contents, (String.fromUTF8? entry.2).isSome = true))

/-- A store that was given files before anything was run on it. -/
def Store.seeded (files : List SourceFile) : Store :=
  files.foldl (fun store file => store.withFile file.path file.content) .empty

/-- Calls to one service, each with its summary and its reports. -/
def callEach {m : Type → Type} [Monad m] (host : Host m) (s : Settings) (calls : List Call) :
    m (List (Summary × List StepReport)) :=
  calls.mapM fun call => (call.run (host.lift : Host (StateT (List StepReport) m)) s keep).run []

/-- No step has failed. -/
def Succeeded (answers : List (Summary × List StepReport)) : Prop :=
  ∀ answer ∈ answers, ∀ report ∈ answer.2, report.result.isOk = true

instance : DecidablePred Succeeded := fun answers =>
  inferInstanceAs (Decidable (∀ answer ∈ answers, ∀ report ∈ answer.2, report.result.isOk = true))

/-- If the calls succeed on the disk, they come to the same in a store that is seeded with the
files of the folder `tree`, in which the disk starts, and both hold the same files afterwards. -/
def Agree (template : TemplateKey → Except TemplateFailure String) (s : Settings)
    (calls : List Call) (d : Disk) (tree : Listing) : Prop :=
  let onDisk := (callEach (Disk.hostWith template) s calls).run d
  let inStore := (callEach (Store.host template) s calls).run (Store.seeded tree.texts)
  Succeeded onDisk.1 → inStore.1 = onDisk.1 ∧
    ∃ after, onDisk.2.get? d.here = some (.folder after) ∧
      inStore.2.files.map (fun f => (f.path.parts, f.content.toUTF8)) =
        after.contents.map fun (place, content) => (place.map .name, content)

/-! ### Seeds -/

namespace Store

theorem files_withFile (store : Store) (path : Path) (content : String) :
    (store.withFile path content).files = insertFile store.files ⟨path, content⟩ := by
  unfold withFile
  cases Path.Part.parent? path.parts <;> rfl

theorem locked_withFile (store : Store) (path : Path) (content : String) :
    (store.withFile path content).locked = store.locked := by
  unfold withFile
  cases Path.Part.parent? path.parts <;> rfl

theorem built_seeded (files : List SourceFile) : (seeded files).Built :=
  List.foldlRecOn files _ .empty fun _ h file _ => h.withFile file.path file.content

theorem locked_seeded (files : List SourceFile) : (seeded files).locked = [] :=
  List.foldlRecOn (motive := fun store : Store => store.locked = []) files _ rfl
    fun store h file _ => (locked_withFile store file.path file.content).trans h

/-- Seeds are put in the store as written files are. -/
theorem files_seeded (files : List SourceFile) :
    (seeded files).files = (empty.overwriteAll files).files := by
  have hfold : ∀ s t : Store, s.files = t.files →
      (files.foldl (fun store file => store.withFile file.path file.content) s).files =
        (t.overwriteAll files).files := by
    induction files with
    | nil => exact fun s t h => h
    | cons file files ih =>
        intro s t h
        refine ih _ _ ?_
        rw [files_withFile, h]
        rfl
  exact hfold empty empty rfl

end Store

namespace Listing

variable {l : Listing}

theorem parts_of_mem_contents (h : l.Sound) {entry : List String × ByteArray}
    (hentry : entry ∈ l.contents) :
    (Path.ofParts (entry.1.map .name)).parts = entry.1.map .name := by
  have hbelow : Path.ofParts (entry.1.map .name) = Disk.below ⟨""⟩ entry.1 := by
    rw [Path.ofParts, List.foldl_map]
    rfl
  rw [hbelow, Disk.parts_below ⟨""⟩ (h.isName_of_get? ((mem_contents_iff h).mp hentry))]
  rfl

theorem pairwise_texts (h : l.Sound) :
    l.texts.Pairwise fun f g => ¬ g.path.Same f.path := by
  refine List.pairwise_map.mpr ?_
  refine (List.pairwise_map.mp (ascending_contents h)).imp_of_mem ?_
  intro entry other hentry hother hlt hsame
  rw [Path.Same, parts_of_mem_contents h hentry, parts_of_mem_contents h hother] at hsame
  simp [hsame, Std.ReflOrd.compare_self] at hlt

theorem exists_text (h : l.IsText) {entry : List String × ByteArray} (hentry : entry ∈ l.contents) :
    ∃ text, String.fromUTF8? entry.2 = some text ∧ text.toUTF8 = entry.2 := by
  obtain ⟨text, htext⟩ := Option.isSome_iff_exists.mp (h entry hentry)
  exact ⟨text, htext, Disk.toUTF8_of_fromUTF8? htext⟩

/-- What a store that is seeded with the files of a folder contains. -/
theorem content?_seeded (h : l.Sound) (htext : l.IsText) {p : Path} {names : List String}
    (hp : p.parts = names.map .name) (text : String) :
    (Store.seeded l.texts).content? p = some text ↔
      l.kind? names = some (.file text.toUTF8) := by
  have hfiles : (Store.seeded l.texts).content? p =
      (Store.empty.overwriteAll l.texts).content? p := by
    rw [Store.content?, Store.find?, Store.files_seeded]
    rfl
  rw [hfiles, kind?_eq_file_iff, ← mem_contents_iff h]
  by_cases hthere : ∃ content, (names, content) ∈ l.contents
  · obtain ⟨content, hcontent⟩ := hthere
    obtain ⟨own, hown, hbytes⟩ := exists_text htext hcontent
    have hsame : (Path.ofParts (names.map .name)).Same p :=
      (parts_of_mem_contents h hcontent).trans hp.symm
    have hread := Store.content?_overwriteAll_of_mem (pairwise_texts h)
      (List.mem_map_of_mem hcontent) .empty
    rw [hown, Option.getD_some] at hread
    rw [← Store.content?_congr _ hsame, hread]
    constructor
    · intro heq
      rw [← Option.some.inj heq, hbytes]
      exact hcontent
    · intro hother
      have hget := (mem_contents_iff h).mp hother
      rw [(mem_contents_iff h).mp hcontent] at hget
      rw [String.toByteArray_inj.mp (hbytes.trans (Entry.file.inj (Option.some.inj hget)))]
  · have hnone : (Store.empty.overwriteAll l.texts).content? p = none := by
      refine Store.content?_overwriteAll ?_ .empty
      intro f hf hsame
      obtain ⟨entry, hentry, rfl⟩ := List.mem_map.mp hf
      have hparts := (parts_of_mem_contents h hentry).symm.trans (Eq.trans hsame hp)
      rw [← Path.map_name_injective hparts] at hthere
      exact hthere ⟨entry.2, hentry⟩
    rw [hnone]
    simp only [reduceCtorEq, false_iff]
    exact fun hmem => hthere ⟨_, hmem⟩

theorem exists_names_of_mem_seeded (h : l.Sound) {f : StoredFile}
    (hf : f ∈ (Store.seeded l.texts).files) :
    ∃ names : List String, f.path.parts = names.map .name := by
  by_contra hnone
  have hthere := Store.hasFile_of_mem hf
  have hempty : (Store.empty.overwriteAll l.texts).content? f.path = none := by
    refine Store.content?_overwriteAll ?_ .empty
    intro g hg hsame
    obtain ⟨entry, hentry, rfl⟩ := List.mem_map.mp hg
    exact hnone ⟨entry.1, Eq.trans (Eq.symm hsame) (parts_of_mem_contents h hentry)⟩
  rw [Store.hasFile, Store.find?, Store.files_seeded, ← Store.find?] at hthere
  rw [Store.content?, Option.map_eq_none_iff] at hempty
  rw [hempty] at hthere
  cases hthere

end Listing

theorem mirrors_seeded {d : Disk} {tree : Listing} (hsound : d.top.Sound)
    (htree : d.get? d.here = some (.folder tree)) (htext : tree.IsText) :
    Mirrors d.here d (Store.seeded tree.texts) := by
  have hfolder : tree.Sound := hsound.get? htree
  have hbelow : ∀ names, d.kind? (d.here ++ names) = tree.kind? names :=
    Listing.kind?_append_of_folder htree
  refine ⟨rfl, ?_, hsound, ?_, (Store.built_seeded _).wellFormed, Store.locked_seeded _, ?_, ?_⟩
  · exact Listing.kind?_eq_folder_iff.mpr ⟨tree, htree⟩
  · intro names content hfile
    rw [hbelow, Listing.kind?_eq_file_iff] at hfile
    obtain ⟨text, -, hbytes⟩ :=
      Listing.exists_text htext ((Listing.mem_contents_iff hfolder).mpr hfile)
    exact ⟨text, hbytes⟩
  · exact fun f hf => Listing.exists_names_of_mem_seeded hfolder hf
  · intro p names hp text
    rw [hbelow]
    exact Listing.content?_seeded hfolder htext hp text

/-! ### Runs -/

theorem exists_of_isOk {ε α : Type} {x : Except ε α} (h : x.isOk = true) : ∃ a, x = .ok a := by
  cases x with
  | error e => cases h
  | ok a => exact ⟨a, rfl⟩

/-- On mirrored states, a computation that succeeds on the disk has the same value in the store
and leaves mirrored states. -/
def Follows (home : List String) {α : Type} (ok : α → Prop) (x : StateM Disk α)
    (y : StateM Store α) : Prop :=
  ∀ d t, Mirrors home d t → ok (x.run d).1 →
    (y.run t).1 = (x.run d).1 ∧ Mirrors home (x.run d).2 (y.run t).2

namespace Follows

variable {home : List String} {α β : Type} {ok : α → Prop} {x : StateM Disk α} {y : StateM Store α}

theorem map (h : Follows home ok x y) {f : α → β} {ok' : β → Prop} (hok : ∀ a, ok' (f a) → ok a) :
    Follows home ok' (f <$> x) (f <$> y) := by
  intro d t hmirrors hsuccess
  obtain ⟨hvalue, hafter⟩ := h d t hmirrors (hok _ hsuccess)
  exact ⟨congrArg f hvalue, hafter⟩

theorem mapM {f : β → StateM Disk α} {g : β → StateM Store α} {l : List β}
    (h : ∀ b ∈ l, Follows home ok (f b) (g b)) :
    Follows home (fun as => ∀ a ∈ as, ok a) (l.mapM f) (l.mapM g) := by
  induction l with
  | nil => exact fun d t hmirrors _ => ⟨rfl, hmirrors⟩
  | cons b l ih =>
      obtain ⟨hfirst, hrest⟩ := List.forall_mem_cons.mp h
      rw [List.mapM_cons, List.mapM_cons]
      intro d t hmirrors hsuccess
      have hsuccess : ∀ a ∈ ((f b).run d).1 :: ((l.mapM f).run ((f b).run d).2).1, ok a := hsuccess
      obtain ⟨hok, hoks⟩ := List.forall_mem_cons.mp hsuccess
      obtain ⟨hvalue, hbetween⟩ := hfirst d t hmirrors hok
      obtain ⟨hvalues, hafter⟩ := ih hrest _ _ hbetween hoks
      exact ⟨congrArg₂ List.cons hvalue hvalues, hafter⟩

end Follows

section

variable {template : TemplateKey → Except TemplateFailure String} {s : Settings}
variable {target : List String}

theorem follows_callEach (home : List String) (hslash : '/' ∉ s.fileExtension.toList)
    (htarget : s.targetDirectory.parts = target.map .name) (hbelow : target ≠ [])
    {calls : List Call} (hnames : ∀ call ∈ calls, ∀ n ∈ call.names, Path.IsName n) :
    Follows home Succeeded (callEach (Disk.hostWith template) s calls)
      (callEach (Store.host template) s calls) := by
  have hstep : ∀ step : Step, (∀ n ∈ step.names, Path.IsName n) →
      Follows home (fun report => report.result.isOk = true)
        (step.run (Disk.hostWith template) s) (step.run (Store.host template) s) := by
    intro step hstep d t hmirrors hsuccess
    obtain ⟨r, hr⟩ := exists_of_isOk hsuccess
    exact hmirrors.run_step hslash htarget hbelow hstep hr
  unfold callEach
  refine Follows.mapM fun call hcall => ?_
  simp only [Call.run_eq_runSteps, run_runSteps_keep, List.nil_append]
  refine (Follows.mapM fun step hmem => hstep step fun n hn => ?_).map
    fun reports hreports => hreports
  exact hnames call hcall n (Call.names_of_mem_steps hmem hn)

end

/-- Below a target folder of at least one name, and with an extension without a slash, runs on a
disk and in memory agree. -/
theorem runs_agree (template : TemplateKey → Except TemplateFailure String) {s : Settings}
    {target : List String} (hslash : '/' ∉ s.fileExtension.toList)
    (htarget : s.targetDirectory.parts = target.map .name) (hbelow : target ≠ [])
    {calls : List Call} (hnames : ∀ call ∈ calls, ∀ n ∈ call.names, Path.IsName n)
    {d : Disk} {tree : Listing} (hsound : d.top.Sound)
    (htree : d.get? d.here = some (.folder tree)) (htext : tree.IsText) :
    Agree template s calls d tree := by
  intro hok
  obtain ⟨hvalue, hafter⟩ := follows_callEach d.here hslash htarget hbelow hnames
    d _ (mirrors_seeded hsound htree htext) hok
  obtain ⟨after, hthere⟩ := Listing.kind?_eq_folder_iff.mp hafter.folder
  refine ⟨hvalue, after, hthere, ?_⟩
  have hroot : ((callEach (Disk.hostWith template) s calls).run d).2.get? (d.here ++ []) =
      some (.folder after) := by
    rw [List.append_nil]
    exact hthere
  simpa using (hafter.contents_eq hroot).symm

/-- A component is added to a builder that is there, and is not added again. -/
theorem runs_agree_below_builder :
    let template : TemplateKey → Except TemplateFailure String := fun _ => .ok ""
    let s : Settings := { targetDirectory := ⟨"Sources"⟩, dependencyAnchor := "//" }
    let calls : List Call := [.add "B" (some "A") false, .add "B" none true]
    let tree : Listing := .folder "Sources" (.file "ABuilder.swift" "//".toUTF8 .empty) .empty
    let d : Disk := ⟨.folder "work" tree .empty, ["work"]⟩
    Succeeded ((callEach (Disk.hostWith template) s calls).run d).1 ∧
      Agree template s calls d tree := by
  intro template s calls tree d
  have htarget : s.targetDirectory.parts = ["Sources"].map .name := by decide
  exact ⟨by decide +kernel, runs_agree template (by decide) htarget (by decide) (by decide)
    (by decide) rfl (by decide +kernel)⟩

/-- Where the extension has a slash, the disk may have the folder that a file name then asks for.
Below the empty path, the disk finds nothing of what it has created. -/
theorem not_runs_agree :
    let template : TemplateKey → Except TemplateFailure String := fun _ => .ok ""
    let folders : Listing := .folder "TBuilder.x" .empty
      (.folder "TInteractor.x" .empty (.folder "TRouter.x" .empty .empty))
    let tree : Listing := .folder "Sources" (.folder "T" folders .empty) .empty
    Path.IsName "T" ∧ tree.Sound ∧ tree.IsText ∧
      ¬ Agree template { targetDirectory := ⟨"Sources"⟩, fileExtension := "x/y" }
        [.add "T" none false] ⟨tree, []⟩ tree ∧
      ¬ Agree template { targetDirectory := ⟨""⟩ } [.add "T" none false, .add "T" none false]
        ⟨.empty, []⟩ .empty := by
  intro template folders tree
  refine ⟨by decide, by decide, by decide, ?_, ?_⟩
  · intro h
    have hsummaries := congrArg (List.map Prod.fst) (h (by decide +kernel)).1
    exact absurd hsummaries (by decide +kernel)
  · intro h
    have hsummaries := congrArg (List.map Prod.fst) (h (by decide +kernel)).1
    exact absurd hsummaries (by decide +kernel)

end RibTree
