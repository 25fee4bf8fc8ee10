import RibTree.Proofs.Declaration.Insertion
import RibTree.Proofs.Step.Outcome

/-!
# Steps that are done

A step is done when the store shows its result: the builder of the component or the extension is
listed, or the parent's builder declares the child. Every reported step is done, no step undoes
another one, and a step that is done writes nothing.
-/

namespace RibTree

set_option autoImplicit false

namespace Store

variable {s t : Store} {path : Path} {content : String}

theorem content?_write (h : s.write path content = .ok t) (q : Path) :
    t.content? q = if path.Same q then some content else s.content? q := by
  obtain ⟨-, -, rfl⟩ := write_eq_ok_iff.mp h
  exact content?_put s path q content

theorem hasFile_write (h : s.write path content = .ok t) : t.hasFile path = true := by
  rw [hasFile_iff_content?]
  exact ⟨content, by rw [content?_write h, if_pos (show path.Same path from rfl)]⟩

theorem hasFile_write_of_hasFile (h : s.write path content = .ok t) {q : Path}
    (hq : s.hasFile q = true) : t.hasFile q = true := by
  obtain ⟨c, hc⟩ := (hasFile_iff_content? s q).mp hq
  rw [hasFile_iff_content?, content?_write h]
  by_cases hsame : path.Same q
  · exact ⟨content, if_pos hsame⟩
  · exact ⟨c, by rw [if_neg hsame, hc]⟩

namespace Wrote

variable {files : List SourceFile}

theorem wellFormed (h : s.Wrote files t) (hs : s.WellFormed) : t.WellFormed := by
  induction h with
  | nil => exact hs
  | cons hwrite _ ih => exact ih (hs.write hwrite)

theorem hasFile_of_hasFile (h : s.Wrote files t) {q : Path} (hq : s.hasFile q = true) :
    t.hasFile q = true := by
  induction h with
  | nil => exact hq
  | cons hwrite _ ih => exact ih (hasFile_write_of_hasFile hwrite hq)

theorem hasFile_of_mem (h : s.Wrote files t) {file : SourceFile} (hf : file ∈ files) :
    t.hasFile file.path = true := by
  induction h with
  | nil => simp at hf
  | cons hwrite hrest ih =>
      rcases List.mem_cons.mp hf with rfl | hf
      · exact hrest.hasFile_of_hasFile (hasFile_write hwrite)
      · exact ih hf

/-- A path holds the last of the files that were written there, or what it held before. -/
theorem content?_cases (h : s.Wrote files t) (q : Path) :
    (∃ file ∈ files, file.path.Same q ∧ t.content? q = some file.content) ∨
      (∀ file ∈ files, ¬ file.path.Same q) ∧ t.content? q = s.content? q := by
  induction h with
  | nil => exact Or.inr ⟨by simp, rfl⟩
  | @cons s u t file files hwrite _ ih =>
      rcases ih with ⟨last, hlast, hsame, ht⟩ | ⟨hother, ht⟩
      · exact Or.inl ⟨last, List.mem_cons_of_mem _ hlast, hsame, ht⟩
      · rw [content?_write hwrite] at ht
        by_cases hsame : file.path.Same q
        · rw [if_pos hsame] at ht
          exact Or.inl ⟨file, List.mem_cons_self, hsame, ht⟩
        · rw [if_neg hsame] at ht
          exact Or.inr ⟨List.forall_mem_cons.mpr ⟨hsame, hother⟩, ht⟩

theorem content?_eq (h : s.Wrote files t) {q : Path} (hq : ∀ file ∈ files, ¬ file.path.Same q) :
    t.content? q = s.content? q := by
  rcases h.content?_cases q with ⟨file, hf, hsame, -⟩ | ⟨-, ht⟩
  · exact absurd hsame (hq file hf)
  · exact ht

theorem locate_eq (h : s.Wrote files t) {root : Path} {extension name : String}
    (hname : ∀ file ∈ files, ¬ Wanted root extension name file.path) :
    t.locate root extension name = s.locate root extension name := by
  induction h with
  | nil => rfl
  | @cons s u t file files hwrite _ ih =>
      rw [ih fun file hf => hname file (List.mem_cons_of_mem _ hf)]
      obtain ⟨-, -, rfl⟩ := write_eq_ok_iff.mp hwrite
      have hput : (s.put file.path file.content).locate root extension name =
          s.locate root extension name := locate_put_of_not_wanted (hname file List.mem_cons_self)
      rw [← hput]
      exact locate_congr rfl

end Wrote

theorem Ensured.files_eq {folder : Path} (h : s.Ensured folder t) : t.files = s.files := by
  rcases h with ⟨-, rfl⟩ | ⟨-, h⟩
  · rfl
  · obtain ⟨-, rfl⟩ := createFolders_eq_ok_iff.mp h
    rfl

theorem Ensured.content?_eq {folder : Path} (h : s.Ensured folder t) (q : Path) :
    t.content? q = s.content? q := by
  unfold content? find?
  rw [h.files_eq]

theorem Ensured.wellFormed {folder : Path} (h : s.Ensured folder t) (hs : s.WellFormed) :
    t.WellFormed := by
  rcases h with ⟨-, rfl⟩ | ⟨-, h⟩
  · exact hs
  · exact hs.createFolders h

end Store

theorem Artifact.wanted_path {s : Settings} (hslash : '/' ∉ s.fileExtension.toList)
    (hdot : '.' ∉ s.fileExtension.toList) {a : Artifact} (ha : ∀ n ∈ a.names, '/' ∉ n.toList) :
    Store.Wanted s.targetDirectory s.fileExtension (a.fileName s) (a.path s) :=
  ⟨contains_path hslash ha, extension?_path hslash hdot ha, fileName?_path hslash ha⟩

/-- A file in the place of an artifact is listed, so that the artifact is found. -/
theorem Artifact.isSome_located?_of_hasFile {s : Settings} (hslash : '/' ∉ s.fileExtension.toList)
    (hdot : '.' ∉ s.fileExtension.toList) {a : Artifact} (ha : ∀ n ∈ a.names, '/' ∉ n.toList)
    {store : Store} {q : Path} (hq : store.hasFile q = true) (hsame : (a.path s).Same q) :
    (a.located? s store).isSome = true :=
  Store.locate_isSome_iff.mpr ⟨q, hq, (wanted_path hslash hdot ha).congr hsame⟩

namespace Step

def names : Step → List String
  | component target _ => [target]
  | extension parent child | dependency parent child => [parent, child]

/-- The result of the step is there. -/
def Done (s : Settings) : Step → Store → Prop
  | component target _, store => ((Artifact.role target .builder).located? s store).isSome = true
  | extension parent child, store =>
      ((Artifact.extension parent child).located? s store).isSome = true
  | dependency parent child, store =>
      ∃ path source, (Artifact.role parent .builder).located? s store = some path ∧
        store.content? path = some source ∧ Declaration.isDeclared child source = true

variable {template : TemplateKey → Except TemplateFailure String} {s : Settings}
variable {before after : Store} {step : Step}

theorem done_iff_of_lead {a : Artifact} (hlead : step.lead? = some a) {store : Store} :
    step.Done s store ↔ (a.located? s store).isSome = true := by
  cases step with
  | component target ownsView => rw [← Option.some.inj hlead, Done]
  | extension parent child => rw [← Option.some.inj hlead, Done]
  | dependency parent child => simp [lead?] at hlead

theorem mem_drafts_of_lead {a : Artifact} (hlead : step.lead? = some a) :
    ∃ d ∈ step.drafts s, d.artifact = a := by
  cases step with
  | component target ownsView =>
      refine ⟨roleDraft s target ownsView .builder, ?_, Option.some.inj hlead⟩
      exact List.mem_map_of_mem (by cases ownsView <;> decide)
  | extension parent child =>
      exact ⟨extensionDraft s parent child, List.mem_singleton.mpr rfl, Option.some.inj hlead⟩
  | dependency parent child => simp [lead?] at hlead

theorem names_of_mem_drafts {d : Draft} (hd : d ∈ step.drafts s) {n : String}
    (hn : n ∈ d.artifact.names) : n ∈ step.names := by
  cases step with
  | component target ownsView =>
      obtain ⟨role, -, rfl⟩ := List.mem_map.mp hd
      exact hn
  | extension parent child =>
      obtain rfl := List.mem_singleton.mp hd
      exact hn
  | dependency parent child => simp [drafts] at hd

/-- Creating files changes nothing, or writes some of the drafts in a folder that is there. -/
theorem Creating.wrote {folder : Path} {drafts : List Draft}
    {r : Except Failure (List SourceFile)} (h : Creating template s before folder drafts r after) :
    after = before ∨ ∃ ensured written, before.Ensured folder ensured ∧
      ensured.Wrote written after ∧
      ∀ file ∈ written, ∃ d ∈ drafts, file.path = d.artifact.path s := by
  have hpaths : ∀ {files}, List.Forall₂ (Draft.Yields template s) drafts files →
      ∀ file ∈ files, ∃ d ∈ drafts, file.path = d.artifact.path s := by
    intro files hyields file hf
    obtain ⟨d, hd, hpath, -⟩ := Draft.exists_of_yields hyields hf
    exact ⟨d, hd, hpath⟩
  cases h with
  | unrendered reason hd => exact Or.inl rfl
  | noFolder reason hyields => exact Or.inl rfl
  | stopped reason hyields hensured hwrote =>
      exact Or.inr ⟨_, _, hensured, hwrote,
        fun file hf => hpaths hyields file (List.mem_append_left _ hf)⟩
  | complete hyields hensured hwrote => exact Or.inr ⟨_, _, hensured, hwrote, hpaths hyields⟩

theorem Creating.wellFormed {folder : Path} {drafts : List Draft}
    {r : Except Failure (List SourceFile)} (h : Creating template s before folder drafts r after)
    (hs : before.WellFormed) : after.WellFormed := by
  rcases h.wrote with rfl | ⟨ensured, written, hensured, hwrote, -⟩
  · exact hs
  · exact hwrote.wellFormed (hensured.wellFormed hs)

theorem Creating.hasFile_of_hasFile {folder : Path} {drafts : List Draft}
    {r : Except Failure (List SourceFile)} (h : Creating template s before folder drafts r after)
    {q : Path} (hq : before.hasFile q = true) : after.hasFile q = true := by
  rcases h.wrote with rfl | ⟨ensured, written, hensured, hwrote, -⟩
  · exact hq
  · refine hwrote.hasFile_of_hasFile ?_
    rw [Store.hasFile_iff, Store.fileParts, hensured.files_eq]
    exact (Store.hasFile_iff before q).mp hq

theorem Creating.hasFile_of_mem {folder : Path} {drafts : List Draft} {files : List SourceFile}
    (h : Creating template s before folder drafts (.ok files) after) {d : Draft} (hd : d ∈ drafts) :
    after.hasFile (d.artifact.path s) = true := by
  cases h with
  | complete hyields hensured hwrote =>
      obtain ⟨file, hfile, hpath, -⟩ := Draft.exists_yields hyields hd
      rw [← hpath]
      exact hwrote.hasFile_of_mem hfile

/-- After an attempt to create files, a path holds one of the drafts or what it held before. -/
theorem Creating.content?_cases {folder : Path} {drafts : List Draft}
    {r : Except Failure (List SourceFile)} (h : Creating template s before folder drafts r after)
    (q : Path) :
    after.content? q = before.content? q ∨ ∃ d ∈ drafts, ∃ file, d.Yields template s file ∧
      file.path.Same q ∧ after.content? q = some file.content := by
  have hwritten : ∀ {ensured : Store} {files written : List SourceFile},
      List.Forall₂ (Draft.Yields template s) drafts files → (∀ file ∈ written, file ∈ files) →
      before.Ensured folder ensured → ensured.Wrote written after →
      after.content? q = before.content? q ∨ ∃ d ∈ drafts, ∃ file, d.Yields template s file ∧
        file.path.Same q ∧ after.content? q = some file.content := by
    intro ensured files written hyields hsub hensured hwrote
    rcases hwrote.content?_cases q with ⟨file, hfile, hsame, hcontent⟩ | ⟨-, hcontent⟩
    · obtain ⟨d, hd, hyield⟩ := Draft.exists_of_yields hyields (hsub file hfile)
      exact Or.inr ⟨d, hd, file, hyield, hsame, hcontent⟩
    · exact Or.inl (hcontent.trans (hensured.content?_eq q))
  cases h with
  | unrendered => exact Or.inl rfl
  | noFolder => exact Or.inl rfl
  | stopped reason hyields hensured hwrote =>
      exact hwritten hyields (fun file hf => List.mem_append_left _ hf) hensured hwrote
  | complete hyields hensured hwrote => exact hwritten hyields (fun _ hf => hf) hensured hwrote

/-- Creating files leaves every other file alone. -/
theorem Creating.content?_of_not_same {folder : Path} {drafts : List Draft}
    {r : Except Failure (List SourceFile)} (h : Creating template s before folder drafts r after)
    {q : Path} (hq : ∀ d ∈ drafts, ¬ (d.artifact.path s).Same q) :
    after.content? q = before.content? q := by
  rcases h.content?_cases q with hkept | ⟨d, hd, file, ⟨hpath, -⟩, hsame, -⟩
  · exact hkept
  · rw [hpath] at hsame
    exact absurd hsame (hq d hd)

/-- Creating files does not change what is found under a name that none of them has. -/
theorem Creating.locate_of_fileName?_ne {folder : Path} {drafts : List Draft}
    {r : Except Failure (List SourceFile)} (h : Creating template s before folder drafts r after)
    {root : Path} {extension name : String}
    (hname : ∀ d ∈ drafts, (d.artifact.path s).fileName? ≠ some name) :
    after.locate root extension name = before.locate root extension name := by
  rcases h.wrote with rfl | ⟨ensured, written, hensured, hwrote, hpaths⟩
  · rfl
  · rw [hwrote.locate_eq, Store.locate_congr hensured.files_eq]
    intro file hf hwanted
    obtain ⟨d, hd, hpath⟩ := hpaths file hf
    have hfile := hwanted.2.2
    rw [hpath] at hfile
    exact hname d hd hfile

theorem Editing.write_or_eq {path : Path} {child : String} {r : Except Failure Report}
    (h : Editing s before path child r after) :
    after = before ∨ ∃ updated, before.write path updated = .ok after := by
  cases h with
  | unread | declared | noAnchor | unwritten => exact Or.inl rfl
  | edited _ _ _ _ hwrite => exact Or.inr ⟨_, hwrite⟩

theorem Outcome.wellFormed {r : Except Failure Report}
    (h : Outcome template s before step r after) (hs : before.WellFormed) : after.WellFormed := by
  cases h with
  | unlisted | present | noBuilder => exact hs
  | uncreated _ _ hcreating => exact hcreating.wellFormed hs
  | created _ _ hcreating => exact hcreating.wellFormed hs
  | editing _ hediting =>
      rcases hediting.write_or_eq with rfl | ⟨updated, hwrite⟩
      · exact hs
      · exact hs.write hwrite

/-- No step removes a file. -/
theorem Outcome.hasFile_of_hasFile {r : Except Failure Report}
    (h : Outcome template s before step r after) {q : Path} (hq : before.hasFile q = true) :
    after.hasFile q = true := by
  cases h with
  | unlisted | present | noBuilder => exact hq
  | uncreated _ _ hcreating => exact hcreating.hasFile_of_hasFile hq
  | created _ _ hcreating => exact hcreating.hasFile_of_hasFile hq
  | editing _ hediting =>
      rcases hediting.write_or_eq with rfl | ⟨updated, hwrite⟩
      · exact hq
      · exact Store.hasFile_write_of_hasFile hwrite hq

theorem Outcome.isSome_located? {r : Except Failure Report}
    (h : Outcome template s before step r after) {a : Artifact}
    (ha : (a.located? s before).isSome = true) : (a.located? s after).isSome = true := by
  obtain ⟨q, hq, hwanted⟩ := Store.locate_isSome_iff.mp ha
  exact Store.locate_isSome_iff.mpr ⟨q, h.hasFile_of_hasFile hq, hwanted⟩

theorem ne_builder_of_mem_drafts {a : Artifact} (hlead : step.lead? = some a)
    (hmissing : a.located? s before = none) {parent : String} {path : Path}
    (hthere : (Artifact.role parent .builder).located? s before = some path) :
    ∀ d ∈ step.drafts s, d.artifact ≠ .role parent .builder := by
  intro d hd he
  cases step with
  | component target ownsView =>
      obtain ⟨role, -, rfl⟩ := List.mem_map.mp hd
      obtain ⟨rfl, rfl⟩ := Artifact.role.inj he
      obtain rfl := Option.some.inj hlead
      rw [hmissing] at hthere
      exact absurd hthere (by simp)
  | extension parent child =>
      obtain rfl := List.mem_singleton.mp hd
      exact absurd he (by simp [extensionDraft])
  | dependency parent child => simp [drafts] at hd

theorem Editing.located?_eq {path : Path} {child : String} {r : Except Failure Report}
    (h : Editing s before path child r after) (hs : before.WellFormed) (a : Artifact) :
    a.located? s after = a.located? s before := by
  cases h with
  | unread | declared | noAnchor | unwritten => rfl
  | edited message hsource _ _ hwrite =>
      obtain ⟨-, -, rfl⟩ := Store.write_eq_ok_iff.mp hwrite
      have hfile := (Store.hasFile_iff_content? before path).mpr ⟨_, hsource⟩
      rw [Artifact.located?, Artifact.located?, ← hs.locate_put_of_hasFile hfile]
      exact Store.locate_congr rfl

/-- A text keeps its declarations through an edit, of this file or of another. -/
theorem Editing.isDeclared {path q : Path} {child other source : String}
    {r : Except Failure Report} (h : Editing s before path other r after)
    (hnewline : '\n' ∉ child.toList) (hsource : before.content? q = some source)
    (hdeclared : Declaration.isDeclared child source = true) :
    ∃ updated, after.content? q = some updated ∧
      Declaration.isDeclared child updated = true := by
  cases h with
  | unread | declared | noAnchor | unwritten => exact ⟨source, hsource, hdeclared⟩
  | @edited source' updated _ message hsource' _ hinsert hwrite =>
      rw [Store.content?_write hwrite]
      by_cases hsame : path.Same q
      · rw [before.content?_congr hsame, hsource] at hsource'
        obtain rfl := Option.some.inj hsource'
        exact ⟨updated, if_pos hsame,
          Declaration.isDeclared_insertAbove_of_isDeclared hnewline hinsert hdeclared⟩
      · exact ⟨source, (if_neg hsame).trans hsource, hdeclared⟩

section

variable (hslash : '/' ∉ s.fileExtension.toList)
include hslash

theorem Creating.located?_eq {folder : Path} {drafts : List Draft}
    {r : Except Failure (List SourceFile)} (h : Creating template s before folder drafts r after)
    (hdrafts : ∀ d ∈ drafts, ∀ n ∈ d.artifact.names, IsPlain n) {a : Artifact}
    (ha : ∀ n ∈ a.names, IsPlain n) (hother : ∀ d ∈ drafts, d.artifact ≠ a) :
    a.located? s after = a.located? s before := by
  apply h.locate_of_fileName?_ne
  intro d hd hname
  exact hother d hd (Artifact.eq_of_fileName?_path hslash (hdrafts d hd) ha hname)

theorem Creating.content?_eq {folder : Path} {drafts : List Draft}
    {r : Except Failure (List SourceFile)} (h : Creating template s before folder drafts r after)
    (hdrafts : ∀ d ∈ drafts, ∀ n ∈ d.artifact.names, IsPlain n) {a : Artifact}
    (ha : ∀ n ∈ a.names, IsPlain n) (hother : ∀ d ∈ drafts, d.artifact ≠ a) {q : Path}
    (hq : q.fileName? = some (a.fileName s)) : after.content? q = before.content? q := by
  apply h.content?_of_not_same
  intro d hd hsame
  have hname := hsame.fileName?_eq
  rw [hq] at hname
  exact hother d hd (Artifact.eq_of_fileName?_path hslash (hdrafts d hd) ha hname)

theorem Creating.builder_eq {folder : Path} {other : Step} {a : Artifact}
    {r : Except Failure (List SourceFile)}
    (h : Creating template s before folder (other.drafts s) r after)
    (hlead : other.lead? = some a) (hmissing : a.located? s before = none)
    (hother : ∀ n ∈ other.names, IsPlain n) {parent : String} (hparent : IsPlain parent)
    {path : Path} (hpath : (Artifact.role parent .builder).located? s before = some path) :
    (Artifact.role parent .builder).located? s after = some path ∧
      after.content? path = before.content? path := by
  have hne := ne_builder_of_mem_drafts hlead hmissing hpath
  have hdrafts : ∀ d ∈ other.drafts s, ∀ n ∈ d.artifact.names, IsPlain n :=
    fun d hd n hn => hother n (names_of_mem_drafts hd hn)
  have hbuilder : ∀ n ∈ (Artifact.role parent .builder).names, IsPlain n := by
    intro n hn
    rw [List.mem_singleton.mp hn]
    exact hparent
  have hname : path.fileName? = some ((Artifact.role parent .builder).fileName s) :=
    (Store.locate_eq_some hpath).2.2.2
  refine ⟨?_, h.content?_eq hslash hdrafts hbuilder hne hname⟩
  rw [h.located?_eq hslash hdrafts hbuilder hne, hpath]

/-- What is done stays done, whatever a later step comes to. -/
theorem Outcome.done {other : Step} {r : Except Failure Report}
    (h : Outcome template s before other r after) (hs : before.WellFormed)
    (hother : ∀ n ∈ other.names, IsPlain n) (hplain : ∀ n ∈ step.names, IsPlain n)
    (hunbroken : ∀ n ∈ step.names, IsUnbroken n) (hdone : step.Done s before) :
    step.Done s after := by
  cases step with
  | component target ownsView => exact h.isSome_located? hdone
  | extension parent child => exact h.isSome_located? hdone
  | dependency parent child =>
      obtain ⟨path, source, hpath, hsource, hdeclared⟩ := hdone
      have hparent : IsPlain parent := hplain parent (by simp [names])
      have hnewline : '\n' ∉ child.toList :=
        (hunbroken child (by simp [names])).notMem (by decide)
      cases h with
      | unlisted | present | noBuilder => exact ⟨path, source, hpath, hsource, hdeclared⟩
      | uncreated hlead hmissing hcreating =>
          obtain ⟨hafter, hcontent⟩ :=
            hcreating.builder_eq hslash hlead hmissing hother hparent hpath
          exact ⟨path, source, hafter, hcontent.trans hsource, hdeclared⟩
      | created hlead hmissing hcreating =>
          obtain ⟨hafter, hcontent⟩ :=
            hcreating.builder_eq hslash hlead hmissing hother hparent hpath
          exact ⟨path, source, hafter, hcontent.trans hsource, hdeclared⟩
      | editing _ hediting =>
          obtain ⟨updated, hupdated, hstill⟩ := hediting.isDeclared hnewline hsource hdeclared
          exact ⟨path, updated, (hediting.located?_eq hs _).trans hpath, hupdated, hstill⟩

theorem Creating.isSome_located? (hdot : '.' ∉ s.fileExtension.toList) {folder : Path}
    {files : List SourceFile} {a : Artifact}
    (h : Creating template s before folder (step.drafts s) (.ok files) after)
    (hlead : step.lead? = some a) (hplain : ∀ n ∈ step.names, IsPlain n) :
    (a.located? s after).isSome = true := by
  obtain ⟨d, hd, rfl⟩ := mem_drafts_of_lead hlead
  have hnames : ∀ n ∈ d.artifact.names, '/' ∉ n.toList :=
    fun n hn => (hplain n (names_of_mem_drafts hd hn)).1
  exact Artifact.isSome_located?_of_hasFile hslash hdot hnames (h.hasFile_of_mem hd) rfl

theorem Outcome.done_of_ok (hdot : '.' ∉ s.fileExtension.toList) {report : Report}
    (h : Outcome template s before step (.ok report) after) (hs : before.WellFormed)
    (hplain : ∀ n ∈ step.names, IsPlain n) (hunbroken : ∀ n ∈ step.names, IsUnbroken n) :
    step.Done s after := by
  cases h with
  | present hlead hthere => exact (done_iff_of_lead hlead).mpr hthere
  | created hlead hmissing hcreating =>
      exact (done_iff_of_lead hlead).mpr (hcreating.isSome_located? hslash hdot hlead hplain)
  | @editing parent child path _ _ hpath hediting =>
      have hchild : IsUnbroken child := hunbroken child (by simp [names])
      have hafter := (hediting.located?_eq hs _).trans hpath
      cases hediting with
      | @declared source message hsource hdeclared =>
          exact ⟨path, source, hpath, hsource, hdeclared⟩
      | @edited source updated _ message hsource _ hinsert hwrite =>
          refine ⟨path, updated, hafter, ?_, ?_⟩
          · rw [Store.content?_write hwrite, if_pos (show path.Same path from rfl)]
          · exact Declaration.isDeclared_insertAbove (hchild.notMem (by decide))
              (hchild.notMem (by decide)) hinsert

end

/-- A step that is done writes nothing, and unless it fails it is skipped. -/
theorem Outcome.idle {r : Except Failure Report} (h : Outcome template s before step r after)
    (hdone : step.Done s before) :
    after = before ∧ ∀ report, r = .ok report → report.status = .skipped := by
  have hcreates : ∀ {a : Artifact}, step.lead? = some a → a.located? s before ≠ none := by
    intro a hlead hmissing
    have hthere := (done_iff_of_lead hlead).mp hdone
    rw [hmissing] at hthere
    exact absurd hthere (by decide)
  cases h with
  | unlisted | noBuilder => exact ⟨rfl, by simp⟩
  | present =>
      refine ⟨rfl, ?_⟩
      rintro report hreport
      rw [← Except.ok.inj hreport, presence_eq]
  | uncreated hlead hmissing _ => exact absurd hmissing (hcreates hlead)
  | created hlead hmissing _ => exact absurd hmissing (hcreates hlead)
  | @editing parent child path _ _ hpath hediting =>
      obtain ⟨path', source, hpath', hsource, hdeclared⟩ := hdone
      obtain rfl : path = path' := Option.some.inj (hpath.symm.trans hpath')
      have hsame : ∀ {source'}, before.content? path = some source' →
          Declaration.isDeclared child source' ≠ false := by
        intro source' hsource'
        obtain rfl := Option.some.inj (hsource'.symm.trans hsource)
        rw [hdeclared]
        decide
      cases hediting with
      | unread => exact ⟨rfl, by simp⟩
      | declared => exact ⟨rfl, by simp⟩
      | noAnchor hsource' hnot => exact absurd hnot (hsame hsource')
      | unwritten _ hsource' hnot => exact absurd hnot (hsame hsource')
      | edited _ hsource' hnot => exact absurd hnot (hsame hsource')

/-- The calls with which a step looks for its result. -/
def lookups (s : Settings) (store : Store) : Step → List (HostCall × Path)
  | component .. | extension .. => [(.sources, s.targetDirectory)]
  | dependency parent _ => (.sources, s.targetDirectory) ::
      ((Artifact.role parent .builder).located? s store).toList.map fun path => (.read, path)

theorem run_of_listed {faults left left' : List Fault} {r : Except Failure Report}
    (hlisted : Fault.strike .sources s.targetDirectory faults = (none, left))
    (h : ((step.perform (Store.faultyHost template) s
      (before.sources s.targetDirectory s.fileExtension)).run.run left).run before =
        ((r, left'), after)) :
    ((step.run (Store.faultyHost template) s).run faults).run before =
      ((⟨step.command, step.parent, step.target, r⟩, left'), after) := by
  have hsources := run_attempt (Fault.run_guard hlisted (IndexFailure.mk s.targetDirectory)
    ((Store.host template).sources s.targetDirectory s.fileExtension) before) .index
  have hperformed :=
    (run_bind_of_ok (f := step.perform (Store.faultyHost template) s) hsources).trans h
  let performed := attempt ((Store.faultyHost template).sources s.targetDirectory s.fileExtension)
    .index >>= step.perform (Store.faultyHost template) s
  change (((⟨step.command, step.parent, step.target,
    ((performed.run.run faults).run before).1.1⟩ : StepReport),
    ((performed.run.run faults).run before).1.2),
    ((performed.run.run faults).run before).2) = _
  rw [show (performed.run.run faults).run before = ((r, left'), after) from hperformed]

theorem addDependency_of_declared {path : Path} {parent child source : String}
    {faults left : List Fault} (hread : Fault.strike .read path faults = (none, left))
    (hsource : before.content? path = some source)
    (hdeclared : Declaration.isDeclared child source = true) :
    ((addDependency (Store.faultyHost template) s path parent child).run.run faults).run before =
      ((.ok ((dependency parent child).presence s), left), before) := by
  have hcontent : ((Store.host template).read path).run before = (.ok source, before) := by
    change ((before.read path).mapError _, before) = _
    rw [Store.read, hsource]
    rfl
  have hsourced : ((attempt ((Store.faultyHost template).read path) fun e =>
      Failure.fileNotEdited path e.message).run.run faults).run before =
        ((.ok source, left), before) := by
    have h := run_attempt (Fault.run_guard hread (StorageFailure.mk path)
      ((Store.host template).read path) before) fun e => Failure.fileNotEdited path e.message
    rw [hcontent] at h
    exact h
  rw [addDependency, run_bind_of_ok hsourced, if_pos hdeclared]
  rfl

variable (template) in
/-- A step that is done is skipped when it can look for its result. -/
theorem Done.skipped (hdone : step.Done s before) {faults : List Fault}
    (hspares : Fault.Spares (step.lookups s before) faults) :
    ∃ left, ((step.run (Store.faultyHost template) s).run faults).run before =
      ((⟨step.command, step.parent, step.target, .ok (step.presence s)⟩, left), before) := by
  cases hlead : step.lead? with
  | some a =>
      have hthere : (a.located? s before).isSome = true := (done_iff_of_lead hlead).mp hdone
      have hfound : (findFile (before.sources s.targetDirectory s.fileExtension)
          (a.fileName s)).isNone = false := by
        rw [← Option.not_isSome, show (findFile _ (a.fileName s)).isSome = true from hthere]
        rfl
      obtain ⟨left, hlisted⟩ : ∃ left,
          Fault.strike .sources s.targetDirectory faults = (none, left) := by
        cases step with
        | component | extension =>
            obtain ⟨left, hlisted, -⟩ := hspares.strike_eq
            exact ⟨left, hlisted⟩
        | dependency => simp [lead?] at hlead
      refine ⟨left, run_of_listed hlisted ?_⟩
      rw [perform_of_lead _ s hlead, hfound, if_neg (by decide)]
      rfl
  | none =>
      cases step with
      | component | extension => simp [lead?] at hlead
      | dependency parent child =>
          obtain ⟨path, source, hpath, hsource, hdeclared⟩ := hdone
          rw [lookups, hpath] at hspares
          obtain ⟨between, hlisted, hspares⟩ := hspares.strike_eq
          obtain ⟨left, hread, -⟩ := hspares.strike_eq
          have hbuilder : builder? s (before.sources s.targetDirectory s.fileExtension) parent =
              some path := hpath
          refine ⟨left, run_of_listed hlisted ?_⟩
          rw [perform, hbuilder]
          exact addDependency_of_declared hread hsource hdeclared

end Step

end RibTree
