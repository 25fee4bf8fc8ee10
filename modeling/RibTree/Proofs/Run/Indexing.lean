import RibTree.Proofs.Run.Accounting
import RibTree.Proofs.Run.Containment
import RibTree.Proofs.Run.Preservation
import RibTree.Proofs.Run.Undisturbed
import RibTree.Proofs.Step.Writes

/-!
# What the index shows of the files that were written

A file is named with the whole extension of the settings, and the index goes by what follows the
last dot of a name. For an extension without a dot the two agree on every file that a step has
created. For any other nothing is ever listed: a step creates its files each time, and no builder is
found to declare a child in.
-/

namespace RibTree

set_option autoImplicit false

namespace Moment

def Created (m : Moment) : Prop := ∃ message, m.report.result = .ok ⟨.created, message⟩

/-- The files that the moment's calls have written. -/
def written (template : TemplateKey → Except TemplateFailure String) (s : Settings) (m : Moment) :
    List SourceFile :=
  m.step.written template s m.faults m.before

end Moment

variable {template : TemplateKey → Except TemplateFailure String} {s : Settings}

namespace Step

variable {before after : Store}

/-- What keeps a step from creating its files did not stand in the way of one that has. -/
theorem Creating.free {folder : Path} {drafts : List Draft} {files : List SourceFile}
    (h : Creating template s before folder drafts (.ok files) after) :
    ∀ d ∈ drafts, d.Readable template ∧ before.isLocked (d.artifact.path s) = false := by
  cases h with
  | complete hyields hensured hwrote =>
      intro d hd
      obtain ⟨file, hfile, hpath, text, htext, -⟩ := Draft.exists_yields hyields hd
      obtain ⟨hfree, -⟩ := (Store.wrote_iff.mp hwrote).1 file hfile
      refine ⟨⟨text, htext⟩, ?_⟩
      rwa [hpath, Store.isLocked_congr hensured.locked_eq] at hfree

end Step

section

variable {step : Step} {faults : List Fault} {store : Store}

theorem moment_eq_ending (template : TemplateKey → Except TemplateFailure String) (s : Settings)
    (step : Step) (faults : List Fault) (store : Store) :
    let ran := Recorded.ending (step.run (Store.faultyHost template).recorded s) [] faults store
    moment template s step faults store =
      ⟨step, faults, store, ran.result, ran.left, ran.after⟩ := by
  obtain ⟨hrun, -⟩ := step.spares_run template s faults store
  simp only [moment, hrun]

theorem creating_of_created (h : (moment template s step faults store).Created) :
    ∃ a files, step.lead? = some a ∧ a.located? s store = none ∧
      Step.Creating template s store (a.folder s) (step.drafts s) (.ok files)
        (moment template s step faults store).after := by
  obtain ⟨message, hcreated⟩ := h
  exact (outcome_moment template s step faults store).creating_of_created hcreated

theorem yields_written_of_created (h : (moment template s step faults store).Created) :
    List.Forall₂ (Draft.Yields template s) (step.drafts s)
      ((moment template s step faults store).written template s) := by
  obtain ⟨a, files, hlead, -, -⟩ := creating_of_created h
  obtain ⟨message, hcreated⟩ := h
  rw [moment_eq_ending] at hcreated
  exact step.yields_written template s faults store hlead hcreated

theorem mem_sources_iff_of_created (hslash : '/' ∉ s.fileExtension.toList)
    (hnames : ∀ n ∈ step.names, '/' ∉ n.toList)
    (h : (moment template s step faults store).Created) {file : SourceFile}
    (hfile : file ∈ (moment template s step faults store).written template s) :
    (∃ p ∈ (moment template s step faults store).after.sources s.targetDirectory s.fileExtension,
      p.Same file.path) ↔ '.' ∉ s.fileExtension.toList := by
  constructor
  · rintro ⟨p, hp, -⟩ hdot
    rw [Store.sources_eq_nil hdot] at hp
    exact absurd hp (by simp)
  · intro hdot
    obtain ⟨d, hd, hpath, -⟩ := Draft.exists_of_yields (yields_written_of_created h) hfile
    obtain ⟨a, files, -, -, hcreating⟩ := creating_of_created h
    have hartifact : ∀ n ∈ d.artifact.names, '/' ∉ n.toList :=
      fun n hn => hnames n (Step.names_of_mem_drafts hd hn)
    obtain ⟨p, hp, -, hsame⟩ := Store.exists_mem_sources (hcreating.hasFile_of_mem hd)
      (Artifact.wanted_path hslash hdot hartifact)
    rw [hpath]
    exact ⟨p, hp, hsame⟩

end

/-- What an extension with a dot leads to, on any store and behind any faults. -/
structure NothingListed (template : TemplateKey → Except TemplateFailure String) (s : Settings) :
    Prop where
  sources_eq : ∀ (store : Store) (root : Path), store.sources root s.fileExtension = []
  created_of_ok : ∀ (step : Step) (faults : List Fault) (store : Store) (report : Report),
    (moment template s step faults store).report.result = .ok report → report.status = .created
  created_again : ∀ (step : Step) (faults : List Fault) (store : Store) (between : List Step),
    (∀ n ∈ step.names, '/' ∉ n.toList) →
    let first := moment template s step faults store
    let again := moment template s step []
      (play template s between first.left first.after).after
    first.Created → again.Created ∧ again.written template s = first.written template s
  builderless : ∀ (parent child : String) (faults : List Fault) (store : Store),
    Fault.Spares [(.sources, s.targetDirectory)] faults →
    let m := moment template s (.dependency parent child) faults store
    m.report.result = .error (.builderNotFound parent (s.builderName parent)) ∧ m.after = store
  skipped_eq : ∀ (calls : List Call) (faults : List Fault) (store : Store),
    ∀ total ∈ (history template s calls faults store).1.1.1, total.skipped = 0

section

variable (hdot : '.' ∈ s.fileExtension.toList)
include hdot

theorem Artifact.located?_eq_none (store : Store) (a : Artifact) : a.located? s store = none := by
  rw [located?, Store.locate, Store.sources_eq_nil hdot]
  rfl

theorem Step.Outcome.status_of_dot {step : Step} {before after : Store} {report : Report}
    (h : Step.Outcome template s before step (.ok report) after) : report.status = .created := by
  cases h with
  | present _ hthere =>
      rw [Artifact.located?_eq_none hdot] at hthere
      exact absurd hthere (by decide)
  | created hlead =>
      cases step with
      | component | extension => rfl
      | dependency => simp [Step.lead?] at hlead
  | editing hlocated =>
      rw [Artifact.located?_eq_none hdot] at hlocated
      exact absurd hlocated (by simp)

theorem status_moment_of_dot {step : Step} {faults : List Fault} {store : Store} {report : Report}
    (h : (moment template s step faults store).report.result = .ok report) :
    report.status = .created := by
  have houtcome := outcome_moment template s step faults store
  rw [h] at houtcome
  exact houtcome.status_of_dot hdot

/-- Locks stay and templates can be read as before, so nothing is in the way of a repetition. -/
theorem created_again_of_dot (hslash : '/' ∉ s.fileExtension.toList) {step : Step}
    (hnames : ∀ n ∈ step.names, '/' ∉ n.toList) {faults : List Fault} {store : Store}
    (between : List Step) (h : (moment template s step faults store).Created) :
    let first := moment template s step faults store
    let again := moment template s step []
      (play template s between first.left first.after).after
    again.Created ∧ again.written template s = first.written template s := by
  intro first again
  obtain ⟨a, files, hlead, -, hcreating⟩ := creating_of_created h
  let found := (play template s between first.left first.after).after
  have hlocked : found.locked = store.locked := by
    obtain ⟨ensured, written, hupdates⟩ := (outcome_moment template s step faults store).updates
    exact (confined_play template s between _ _).locked.trans hupdates.locked_eq
  have hreadable : ∀ d ∈ step.drafts s, d.Readable template :=
    fun d hd => (hcreating.free d hd).1
  have hfree : ∀ d ∈ step.drafts s, found.isLocked (d.artifact.path s) = false := by
    intro d hd
    rw [Store.isLocked_congr hlocked]
    exact (hcreating.free d hd).2
  have hrun := Step.run_of_free hslash hnames hlead (Artifact.located?_eq_none hdot found a)
    hreadable hfree
  have hagain : again.Created := by
    have hreport : again.report = step.successReport s := by
      rw [show again = _ from moment_of_run hrun]
    cases step with
    | component | extension => exact ⟨_, congrArg StepReport.result hreport⟩
    | dependency => simp [Step.lead?] at hlead
  exact ⟨hagain, List.right_unique_forall₂' (Draft.rightUnique_yields template s)
    (yields_written_of_created hagain) (yields_written_of_created h)⟩

theorem builderNotFound_of_dot (parent child : String) {faults : List Fault} (store : Store)
    (hspares : Fault.Spares [(.sources, s.targetDirectory)] faults) :
    let m := moment template s (.dependency parent child) faults store
    m.report.result = .error (.builderNotFound parent (s.builderName parent)) ∧
      m.after = store := by
  intro m
  obtain ⟨left, hlisted, -⟩ := hspares.strike_eq
  have hbuilder : Step.builder? s (store.sources s.targetDirectory s.fileExtension) parent = none :=
    Artifact.located?_eq_none hdot store (.role parent .builder)
  have hperform : ((Step.perform (Store.faultyHost template) s
      (store.sources s.targetDirectory s.fileExtension) (.dependency parent child)).run.run
        left).run store =
          ((.error (.builderNotFound parent (s.builderName parent)), left), store) := by
    rw [Step.perform, hbuilder]
    rfl
  have hrun := Step.run_of_listed hlisted hperform
  simp only [m, moment, hrun, and_self]

theorem skipped_play_of_dot (steps : List Step) (faults : List Fault) (store : Store) :
    ((play template s steps faults store).reports.foldl Summary.record {}).skipped = 0 := by
  rw [Summary.foldl_record_eq_tally]
  apply List.countP_eq_zero.mpr
  intro r hr
  obtain ⟨m, hm, rfl⟩ := List.mem_map.mp hr
  obtain ⟨before, step, rest, -, rfl⟩ := exists_of_mem_play hm
  rw [StepReport.status?]
  cases hresult : (moment template s step _ _).report.result with
  | error e => simp
  | ok report =>
      have hstatus := status_moment_of_dot hdot hresult
      simp [hstatus]

/-- No call counts a step as skipped. -/
theorem skipped_summaries_of_dot (calls : List Call) (faults : List Fault) (store : Store) :
    ∀ total ∈ summaries template s calls faults store, total.skipped = 0 := by
  induction calls generalizing faults store with
  | nil => simp [summaries]
  | cons call calls ih =>
      rw [summaries]
      exact List.forall_mem_cons.mpr ⟨skipped_play_of_dot hdot _ _ _, ih _ _⟩

end

/-- The next listing shows the files of a step that has created them exactly if the extension has
no dot. With a dot no step is ever skipped, and none finds a builder to edit. -/
theorem index_agrees (template : TemplateKey → Except TemplateFailure String) {s : Settings}
    (hslash : '/' ∉ s.fileExtension.toList) :
    (∀ (step : Step) (faults : List Fault) (store : Store), (∀ n ∈ step.names, '/' ∉ n.toList) →
      let m := moment template s step faults store
      m.Created →
        List.Forall₂ (Draft.Yields template s) (step.drafts s) (m.written template s) ∧
        ∀ file ∈ m.written template s,
          (∃ p ∈ m.after.sources s.targetDirectory s.fileExtension, p.Same file.path) ↔
            '.' ∉ s.fileExtension.toList) ∧
    ('.' ∈ s.fileExtension.toList → NothingListed template s) := by
  constructor
  · intro step faults store hnames m hcreated
    exact ⟨yields_written_of_created hcreated,
      fun file hfile => mem_sources_iff_of_created hslash hnames hcreated hfile⟩
  · intro hdot
    exact {
      sources_eq := Store.sources_eq_nil hdot
      created_of_ok := fun step faults store report h => status_moment_of_dot hdot h
      created_again := fun step faults store between hnames =>
        created_again_of_dot hdot hslash hnames between
      builderless := fun parent child faults store => builderNotFound_of_dot hdot parent child store
      skipped_eq := fun calls faults store => by
        rw [history_eq_play]
        exact skipped_summaries_of_dot hdot calls faults store }

/-- With a dot in the extension a component is created twice, the second time after a link that
found no builder, and its files are not listed. Without the dot they are. -/
theorem index_agrees_of_generated :
    let template : TemplateKey → Except TemplateFailure String := fun _ => .ok "text"
    let plain : Settings := { targetDirectory := ⟨"Sources"⟩ }
    let dotted : Settings := { plain with fileExtension := "g.swift" }
    let step := Step.component "App.Login" false
    let kept := moment template plain step [] .empty
    let lost := moment template dotted step [] .empty
    let later := play template dotted (Step.forLink "App.Login" "A") lost.left lost.after
    let again := moment template dotted step [] later.after
    ('/' ∉ plain.fileExtension.toList ∧ '/' ∉ dotted.fileExtension.toList) ∧
    (kept.Created ∧ ∀ file ∈ kept.written template plain,
      ∃ p ∈ kept.after.sources ⟨"Sources"⟩ "swift", p.Same file.path) ∧
    lost.Created ∧ (∀ file ∈ lost.written template dotted,
      ¬ ∃ p ∈ lost.after.sources ⟨"Sources"⟩ "g.swift", p.Same file.path) ∧
    again.Created ∧ again.written template dotted = lost.written template dotted := by
  intro template plain dotted step kept lost later again
  have hplain : '/' ∉ plain.fileExtension.toList := by decide +kernel
  have hdotted : '/' ∉ dotted.fileExtension.toList := by decide +kernel
  have hnames : ∀ n ∈ step.names, '/' ∉ n.toList := by decide +kernel
  have hkept : kept.Created := ⟨(step.success plain).message, by decide +kernel⟩
  have hlost : lost.Created := ⟨(step.success dotted).message, by decide +kernel⟩
  obtain ⟨hindexed, -⟩ := index_agrees template hplain
  obtain ⟨hunindexed, hdot⟩ := index_agrees template hdotted
  obtain ⟨-, hlisted⟩ := hindexed step [] .empty hnames hkept
  obtain ⟨-, hunlisted⟩ := hunindexed step [] .empty hnames hlost
  have hagain := (hdot (by decide +kernel)).created_again step [] .empty
    (Step.forLink "App.Login" "A") hnames hlost
  refine ⟨⟨hplain, hdotted⟩, ⟨hkept, ?_⟩, hlost, ?_, hagain⟩
  · intro file hfile
    exact (hlisted file hfile).mpr (by decide +kernel)
  · intro file hfile hmem
    exact (hunlisted file hfile).mp hmem (by decide +kernel)

end RibTree
