import RibTree.Proofs.Run.Undisturbed
import RibTree.Proofs.Step.Failure

/-!
# Steps that are tried again

A step that creates a component and fails has written the first of its files, in the order of the
roles. The builder comes first and is what the step is looked up by: with no file written, the next
attempt creates the component, and with some files written, every later attempt is skipped and
leaves the component incomplete.
-/

namespace RibTree

set_option autoImplicit false

namespace Store

variable {s t : Store}

theorem Ensured.writes_eq {folder : Path} (h : s.Ensured folder t) : t.writes = s.writes := by
  rw [(ensured_iff.mp h).2, writes_ensure]

theorem Wrote.writes_eq {files : List SourceFile} (h : s.Wrote files t) :
    t.writes = s.writes + files.length := by
  rw [(wrote_iff.mp h).2, writes_overwriteAll]

end Store

theorem Artifact.role_eq_of_same {s : Settings} (hslash : '/' ∉ s.fileExtension.toList)
    {target : String} (htarget : '/' ∉ target.toList) {r q : Role}
    (h : ((Artifact.role target r).path s).Same ((Artifact.role target q).path s)) : r = q := by
  have hnames : ∀ role, ∀ n ∈ (Artifact.role target role).names, '/' ∉ n.toList := by
    intro role n hn
    rwa [List.mem_singleton.mp hn]
  have hname := h.fileName?_eq
  rw [fileName?_path hslash (hnames r), fileName?_path hslash (hnames q)] at hname
  have hlist := congrArg String.toList (Option.some.inj hname)
  rw [fileName_toList, fileName_toList, stem_toList, stem_toList] at hlist
  exact role_eq_of_append (List.append_cancel_right hlist)

namespace Step

/-- Files that lie in different places. -/
def DraftsApart (s : Settings) (drafts : List Draft) : Prop :=
  drafts.Pairwise fun d e => ¬ (e.artifact.path s).Same (d.artifact.path s)

theorem draftsApart_component {s : Settings} (hslash : '/' ∉ s.fileExtension.toList)
    {target : String} (htarget : '/' ∉ target.toList) (ownsView : Bool) :
    DraftsApart s (drafts s (component target ownsView)) := by
  have hroles : (Role.all ownsView).Pairwise fun r q => q ≠ r := by
    cases ownsView <;> decide
  apply List.pairwise_map.mpr
  apply hroles.imp
  intro r q hne hsame
  exact hne (Artifact.role_eq_of_same hslash htarget hsame)

section

variable (template : TemplateKey → Except TemplateFailure String) (s : Settings)

/-- A step has stopped after these files, which are the first of its drafts. -/
structure Stopped (step : Step) (before : Store) (files : List SourceFile) (after : Store) :
    Prop where
  fewer : files.length < (step.drafts s).length
  rendered : List.Forall₂ (Draft.Yields template s) ((step.drafts s).take files.length) files
  writes_eq : after.writes = before.writes + files.length
  written : ∀ file ∈ files, after.content? file.path = some file.content
  others : ∀ q, (∀ file ∈ files, ¬ file.path.Same q) → after.content? q = before.content? q

end

variable {template : TemplateKey → Except TemplateFailure String} {s : Settings}
variable {before after : Store} {step : Step}

theorem pairwise_of_yields {drafts : List Draft} {files : List SourceFile}
    (h : List.Forall₂ (Draft.Yields template s) drafts files) (hapart : DraftsApart s drafts) :
    files.Pairwise fun f g => ¬ g.path.Same f.path := by
  induction h with
  | nil => exact .nil
  | @cons d file drafts files hfirst hrest ih =>
      obtain ⟨hd, hdrafts⟩ := List.pairwise_cons.mp hapart
      refine List.pairwise_cons.mpr ⟨?_, ih hdrafts⟩
      intro other hother hsame
      obtain ⟨e, he, hpath, -⟩ := Draft.exists_of_yields hrest hother
      rw [hpath, hfirst.1] at hsame
      exact hd e he hsame

theorem stopped_nil (hne : step.drafts s ≠ []) (hwrites : after.writes = before.writes)
    (hcontent : ∀ q, after.content? q = before.content? q) :
    step.Stopped template s before [] after where
  fewer := List.length_pos_iff.mpr hne
  rendered := .nil
  writes_eq := hwrites
  written := by simp
  others := fun q _ => hcontent q

theorem exists_stopped_of_creating {folder : Path} {e : Failure}
    (h : Creating template s before folder (step.drafts s) (.error e) after)
    (hne : step.drafts s ≠ []) (hapart : DraftsApart s (step.drafts s)) :
    ∃ files, step.Stopped template s before files after := by
  cases h with
  | unrendered | noFolder => exact ⟨[], stopped_nil hne rfl fun _ => rfl⟩
  | @stopped done rest file ensured _ reason hyields hensured hwrote =>
      have hfiles := (List.pairwise_append.mp (pairwise_of_yields hyields hapart)).1
      refine ⟨done, ?_, List.forall₂_take_append _ _ _ hyields, ?_, ?_, ?_⟩
      · rw [hyields.length_eq, List.length_append, List.length_cons]
        omega
      · rw [hwrote.writes_eq, hensured.writes_eq]
      · exact fun file hfile => hwrote.content?_of_mem hfiles hfile
      · intro q hq
        rw [hwrote.content?_eq hq, hensured.content?_eq]

theorem exists_stopped {target : String} {ownsView : Bool} {e : Failure}
    (h : Outcome template s before (component target ownsView) (.error e) after)
    (hapart : DraftsApart s (drafts s (component target ownsView))) :
    ∃ files, (component target ownsView).Stopped template s before files after := by
  have hne : drafts s (component target ownsView) ≠ [] := by
    cases ownsView <;> simp [drafts, Role.all]
  cases h with
  | unlisted => exact ⟨[], stopped_nil hne rfl fun _ => rfl⟩
  | uncreated hlead hmissing hcreating => exact exists_stopped_of_creating hcreating hne hapart

/-- The builder is the first file that is written. -/
theorem Stopped.hasFile_builder {target : String} {ownsView : Bool} {files : List SourceFile}
    (h : (component target ownsView).Stopped template s before files after) (hfiles : files ≠ []) :
    after.hasFile ((Artifact.role target .builder).path s) = true := by
  cases files with
  | nil => exact absurd rfl hfiles
  | cons file files =>
      have hdrafts : ∃ rest, drafts s (component target ownsView) =
          roleDraft s target ownsView .builder :: rest := by
        cases ownsView <;> exact ⟨_, rfl⟩
      obtain ⟨rest, hdrafts⟩ := hdrafts
      have hrendered := h.rendered
      rw [hdrafts, List.length_cons, List.take_succ_cons] at hrendered
      obtain ⟨⟨hpath, -⟩, -⟩ := List.forall₂_cons.mp hrendered
      rw [Store.hasFile_iff_content?]
      refine ⟨file.content, ?_⟩
      have hcontent := h.written file List.mem_cons_self
      rwa [hpath] at hcontent

theorem located?_isSome_congr {a : Artifact} (h : ∀ q, after.content? q = before.content? q) :
    (a.located? s after).isSome = (a.located? s before).isSome := by
  have hhasFile : ∀ q, after.hasFile q = true ↔ before.hasFile q = true := by
    intro q
    rw [Store.hasFile_iff_content?, Store.hasFile_iff_content?, h q]
  rw [Bool.eq_iff_iff, Artifact.located?, Artifact.located?, Store.locate_isSome_iff,
    Store.locate_isSome_iff]
  simp only [hhasFile]

end Step

section

variable (template : TemplateKey → Except TemplateFailure String) {s : Settings}
variable (hslash : '/' ∉ s.fileExtension.toList) {target : String} (htarget : '/' ∉ target.toList)
include hslash htarget

/-- The next attempt finds nothing in its way. -/
theorem retry_of_nothing {ownsView : Bool} {store : Store} (hs : store.WellFormed)
    (hmissing : (Artifact.role target .builder).located? s store = none)
    (hfree : ∀ d ∈ Step.drafts s (.component target ownsView),
      d.Readable template ∧ store.isLocked (d.artifact.path s) = false) :
    let step := Step.component target ownsView
    (moment template s step [] store).report = step.successReport s ∧
      ∀ d ∈ step.drafts s, ∃ text, d.Renders template text ∧
        (moment template s step [] store).after.content? (d.artifact.path s) = some text := by
  intro step
  have hnames : ∀ n ∈ step.names, '/' ∉ n.toList := by
    intro n hn
    rwa [List.mem_singleton.mp hn]
  have hcreated := moment_created template hslash hnames hs rfl hmissing
    (fun d hd => (hfree d hd).1) fun d hd => (hfree d hd).2
  have hapart := Step.draftsApart_component hslash htarget ownsView
  have hfiles : ((step.drafts s).map (Draft.file template s)).Pairwise
      fun f g => ¬ g.path.Same f.path := List.pairwise_map.mpr hapart
  rw [hcreated]
  refine ⟨rfl, ?_⟩
  intro d hd
  exact ⟨d.text template, Draft.renders_text (hfree d hd).1,
    Store.content?_overwriteAll_of_mem hfiles (List.mem_map_of_mem hd) _⟩

/-- The next attempt finds the builder and does nothing. -/
theorem retry_of_builder (hdot : '.' ∉ s.fileExtension.toList) (ownsView : Bool) {store : Store}
    (hbuilder : store.hasFile ((Artifact.role target .builder).path s) = true) :
    let step := Step.component target ownsView
    (moment template s step [] store).report.result = .ok (step.presence s) ∧
      (moment template s step [] store).after = store := by
  intro step
  have hnames : ∀ n ∈ (Artifact.role target .builder).names, '/' ∉ n.toList := by
    intro n hn
    rwa [List.mem_singleton.mp hn]
  have hdone : step.Done s store :=
    Artifact.isSome_located?_of_hasFile hslash hdot hnames hbuilder rfl
  rw [moment_of_done template hdone]
  exact ⟨rfl, rfl⟩

end

end RibTree
