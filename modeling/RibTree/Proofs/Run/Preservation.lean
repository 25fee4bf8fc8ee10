import RibTree.Proofs.Run.History

/-!
# What a run preserves

No step removes a file. The text of a file changes in two ways: a builder gets one line for a
child, or a step that does not find its leading file writes its files, whatever is in their places.
A component leads with its builder, so that files of the other roles can be lost where the builder
is missing. Builders and extensions are not lost, as long as they are found by their names.
-/

namespace RibTree

set_option autoImplicit false

open Declaration

/-- The second text is the first one with a line for each child, put in one after the other. -/
def Gained (s : Settings) (children : List String) (c c' : String) : Prop :=
  children.foldlM (fun text child => insertAbove s.dependencyAnchor (statement child) text) c =
    some c'

namespace Moment

/-- The child for which the file at `q` is reported to have been edited. -/
def gain? (s : Settings) (q : Path) (m : Moment) : Option String :=
  match m.step, m.report.result with
  | .dependency parent child, .ok ⟨.edited, _⟩ =>
      if ((Artifact.role parent .builder).located? s m.before).any (·.Same q) then some child
      else none
  | _, _ => none

/-- A step that did not find its leading file has written `text`, one of its drafts, at `q`. -/
structure Writes (template : TemplateKey → Except TemplateFailure String) (s : Settings)
    (q : Path) (text : String) (m : Moment) : Prop where
  unlisted : ∃ a, m.step.lead? = some a ∧ a.located? s m.before = none
  drafted : ∃ d ∈ m.step.drafts s, ∃ file, d.Yields template s file ∧ file.path.Same q ∧
    file.content = text
  written : m.after.content? q = some text

end Moment

def gains (s : Settings) (q : Path) (moments : List Moment) : List String :=
  moments.filterMap (Moment.gain? s q)

variable {template : TemplateKey → Except TemplateFailure String} {s : Settings}
variable {before after : Store} {step : Step} {q : Path} {c c' : String}

theorem Gained.append {children others : List String} {d : String}
    (h : Gained s children c d) (h' : Gained s others d c') : Gained s (children ++ others) c c' := by
  unfold Gained at h h' ⊢
  rw [List.foldlM_append, h]
  exact h'

theorem gains_cons (m : Moment) (moments : List Moment) :
    gains s q (m :: moments) = (m.gain? s q).toList ++ gains s q moments := by
  unfold gains
  rw [List.filterMap_cons]
  cases m.gain? s q <;> rfl

namespace Step

/-- Only a step that creates files is reported as created. -/
theorem Outcome.creating_of_created {r : Except Failure Report} {message : String}
    (h : Outcome template s before step r after) (hr : r = .ok ⟨.created, message⟩) :
    ∃ a files, step.lead? = some a ∧ a.located? s before = none ∧
      Creating template s before (a.folder s) (step.drafts s) (.ok files) after := by
  cases h with
  | unlisted => exact absurd hr (by simp)
  | uncreated => exact absurd hr (by simp)
  | noBuilder => exact absurd hr (by simp)
  | present =>
      rw [presence_eq] at hr
      exact absurd hr (by simp)
  | created hlead hmissing hcreating => exact ⟨_, _, hlead, hmissing, hcreating⟩
  | editing _ hediting => cases hediting <;> exact absurd hr (by simp)

end Step

namespace Moment

theorem gain?_of_lead {m : Moment} {a : Artifact} (hlead : m.step.lead? = some a) :
    m.gain? s q = none := by
  obtain ⟨step, _, _, _, _, _⟩ := m
  cases step with
  | component target ownsView => rfl
  | extension parent child => rfl
  | dependency parent child => exact absurd hlead (by simp [Step.lead?])

theorem gain?_of_error {m : Moment} {e : Failure} (h : m.report.result = .error e) :
    m.gain? s q = none := by
  unfold gain?
  rw [h]
  cases m.step <;> rfl

theorem exists_gained_of_kept {m : Moment} (hc : m.before.content? q = some c)
    (hkept : m.after.content? q = m.before.content? q) (hnone : m.gain? s q = none) :
    ∃ c', m.after.content? q = some c' ∧ Gained s (m.gain? s q).toList c c' := by
  rw [hkept, hnone]
  exact ⟨c, hc, rfl⟩

theorem writes_or_gained_of_creating {m : Moment} {a : Artifact}
    {r : Except Failure (List SourceFile)} (hlead : m.step.lead? = some a)
    (hmissing : a.located? s m.before = none)
    (h : Step.Creating template s m.before (a.folder s) (m.step.drafts s) r m.after)
    (hc : m.before.content? q = some c) :
    (∃ text, m.Writes template s q text) ∨
      ∃ c', m.after.content? q = some c' ∧ Gained s (m.gain? s q).toList c c' := by
  rcases h.content?_cases q with hkept | ⟨d, hd, file, hyields, hsame, hcontent⟩
  · exact Or.inr (exists_gained_of_kept hc hkept (gain?_of_lead hlead))
  · exact Or.inl ⟨_, ⟨a, hlead, hmissing⟩, ⟨d, hd, file, hyields, hsame, rfl⟩, hcontent⟩

theorem writes_or_gained {m : Moment}
    (h : Step.Outcome template s m.before m.step m.report.result m.after)
    (hc : m.before.content? q = some c) :
    (∃ text, m.Writes template s q text) ∨
      ∃ c', m.after.content? q = some c' ∧ Gained s (m.gain? s q).toList c c' := by
  obtain ⟨step, faults, before, ⟨command, parent, target, result⟩, left, after⟩ := m
  change Step.Outcome template s before step result after at h
  change before.content? q = some c at hc
  cases h with
  | unlisted step e => exact Or.inr (exists_gained_of_kept hc rfl (gain?_of_error rfl))
  | present hlead => exact Or.inr (exists_gained_of_kept hc rfl (gain?_of_lead hlead))
  | uncreated hlead hmissing hcreating =>
      exact writes_or_gained_of_creating hlead hmissing hcreating hc
  | created hlead hmissing hcreating =>
      exact writes_or_gained_of_creating hlead hmissing hcreating hc
  | noBuilder => exact Or.inr (exists_gained_of_kept hc rfl (gain?_of_error rfl))
  | @editing parent child builder _ _ hbuilder hediting =>
      right
      cases hediting with
      | unread => exact exists_gained_of_kept hc rfl (gain?_of_error rfl)
      | declared => exact exists_gained_of_kept hc rfl rfl
      | noAnchor => exact exists_gained_of_kept hc rfl (gain?_of_error rfl)
      | unwritten => exact exists_gained_of_kept hc rfl (gain?_of_error rfl)
      | @edited source updated _ message hsource _ hinsert hwrite =>
          change ∃ c', after.content? q = some c' ∧ _
          rw [Store.content?_write hwrite]
          by_cases hsame : builder.Same q
          · rw [before.content?_congr hsame, hc] at hsource
            obtain rfl := Option.some.inj hsource
            refine ⟨updated, if_pos hsame, ?_⟩
            simp [gain?, hbuilder, hsame, Gained, hinsert]
          · refine ⟨c, (if_neg hsame).trans hc, ?_⟩
            simp [gain?, hbuilder, hsame, Gained]

/-- A step that is reported as created has put all its files in their places, after it did not
find the leading one, and has touched no other file. -/
theorem of_created {m : Moment} {message : String}
    (h : Step.Outcome template s m.before m.step m.report.result m.after)
    (hcreated : m.report.result = .ok ⟨.created, message⟩) :
    (∀ d ∈ m.step.drafts s, ∃ text, m.Writes template s (d.artifact.path s) text) ∧
      ∀ q, (∀ d ∈ m.step.drafts s, ¬ (d.artifact.path s).Same q) →
        m.after.content? q = m.before.content? q := by
  obtain ⟨a, files, hlead, hmissing, hcreating⟩ := h.creating_of_created hcreated
  refine ⟨?_, fun q hq => hcreating.content?_of_not_same hq⟩
  intro d hd
  cases hcreating with
  | complete hyields hensured hwrote =>
      obtain ⟨file, hfile, hpath, -⟩ := Draft.exists_yields hyields hd
      rcases hwrote.content?_cases (d.artifact.path s) with
        ⟨last, hlast, hsame, hcontent⟩ | ⟨hother, -⟩
      · obtain ⟨e, he, hyield⟩ := Draft.exists_of_yields hyields hlast
        exact ⟨_, ⟨a, hlead, hmissing⟩, ⟨e, he, last, hyield, hsame, rfl⟩, hcontent⟩
      · refine absurd ?_ (hother file hfile)
        rw [hpath]
        exact rfl

variable (hslash : '/' ∉ s.fileExtension.toList) (hdot : '.' ∉ s.fileExtension.toList)
include hslash hdot

/-- Where files are found by their names, a file that is there is written over only if it has one
of the other roles of a component without a builder. -/
theorem Writes.role_of_hasFile {m : Moment} {text : String} (h : m.Writes template s q text)
    (hnames : ∀ n ∈ m.step.names, '/' ∉ n.toList) (hq : m.before.hasFile q = true) :
    ∃ target ownsView role, m.step = .component target ownsView ∧ role ∈ Role.all ownsView ∧
      role ≠ .builder ∧ ((Artifact.role target role).path s).Same q ∧
      (Artifact.role target .builder).located? s m.before = none := by
  obtain ⟨⟨a, hlead, hmissing⟩, ⟨d, hd, file, ⟨hpath, -⟩, hsame, -⟩, -⟩ := h
  rw [hpath] at hsame
  have hslashes : ∀ n ∈ d.artifact.names, '/' ∉ n.toList :=
    fun n hn => hnames n (Step.names_of_mem_drafts hd hn)
  have hother : d.artifact ≠ a := by
    intro he
    have hlisted : (d.artifact.located? s m.before).isSome = true :=
      Artifact.isSome_located?_of_hasFile hslash hdot hslashes hq hsame
    rw [he, hmissing] at hlisted
    exact absurd hlisted (by simp)
  generalize hstep : m.step = step at hlead hd
  cases step with
  | component target ownsView =>
      obtain ⟨role, hrole, rfl⟩ := List.mem_map.mp hd
      obtain rfl := Option.some.inj hlead
      refine ⟨target, ownsView, role, rfl, hrole, ?_, hsame, hmissing⟩
      intro he
      exact hother (by rw [he]; rfl)
  | extension parent child =>
      obtain rfl := List.mem_singleton.mp hd
      exact absurd (Option.some.inj hlead) hother
  | dependency parent child => exact absurd hlead (by simp [Step.lead?])

end Moment

/-- The text `c'` at `q` goes back to `c`, or to what the last step to write the file has put
there, and has since gained lines only. -/
def Accounts (template : TemplateKey → Except TemplateFailure String) (s : Settings) (q : Path)
    (moments : List Moment) (c c' : String) : Prop :=
  Gained s (gains s q moments) c c' ∨
    ∃ earlier m later text, moments = earlier ++ m :: later ∧ m.Writes template s q text ∧
      Gained s (gains s q later) text c'

/-- Every file that was there is there, with its text but for the lines that it has gained. -/
def Preserves (s : Settings) (store : Store) (played : Played) : Prop :=
  ∀ q c, store.content? q = some c →
    ∃ c', played.after.content? q = some c' ∧ Gained s (gains s q played.moments) c c'

theorem Accounts.cons {m : Moment} {moments : List Moment} {d : String}
    (h : Accounts template s q moments d c')
    (hm : m.Writes template s q d ∨ Gained s (m.gain? s q).toList c d) :
    Accounts template s q (m :: moments) c c' := by
  rcases h with hgained | ⟨earlier, last, later, text, rfl, hwrites, hgained⟩
  · rcases hm with hwrites | hfirst
    · exact Or.inr ⟨[], m, moments, d, rfl, hwrites, hgained⟩
    · left
      rw [gains_cons]
      exact hfirst.append hgained
  · exact Or.inr ⟨m :: earlier, last, later, text, rfl, hwrites, hgained⟩

theorem accounts_play (steps : List Step) (faults : List Fault) {store : Store}
    (hc : store.content? q = some c) :
    ∃ c', (play template s steps faults store).after.content? q = some c' ∧
      Accounts template s q (play template s steps faults store).moments c c' := by
  induction steps generalizing faults store c with
  | nil => exact ⟨c, hc, Or.inl rfl⟩
  | cons step steps ih =>
      let m := moment template s step faults store
      have hm := outcome_moment template s step faults store
      rcases Moment.writes_or_gained (m := m) hm hc with ⟨d, hwrites⟩ | ⟨d, hd, hgained⟩
      · obtain ⟨c', hc', hrest⟩ := ih m.left hwrites.written
        exact ⟨c', hc', hrest.cons (Or.inl hwrites)⟩
      · obtain ⟨c', hc', hrest⟩ := ih m.left hd
        exact ⟨c', hc', hrest.cons (Or.inr hgained)⟩

theorem hasFile_play (steps : List Step) (faults : List Fault) {store : Store}
    (hq : store.hasFile q = true) : (play template s steps faults store).after.hasFile q = true :=
  play_keeps (P := fun store => store.hasFile q = true)
    (fun _ _ _ _ _ houtcome hbefore => houtcome.hasFile_of_hasFile hbefore) faults hq

theorem located?_of_located?_play {a : Artifact} (steps : List Step) (faults : List Fault)
    {store : Store} (h : a.located? s (play template s steps faults store).after = none) :
    a.located? s store = none := by
  rw [← Option.not_isSome_iff_eq_none] at h ⊢
  intro hthere
  exact h (play_keeps (P := fun store => (a.located? s store).isSome = true)
    (fun _ _ _ _ _ houtcome hbefore => houtcome.isSome_located? hbefore) faults hthere)

/-- Of the files that were there before the steps, those of a component that had a builder are not
written over, and of the others no builder and no extension is. -/
theorem role_of_writes (hslash : '/' ∉ s.fileExtension.toList) (hdot : '.' ∉ s.fileExtension.toList)
    {steps : List Step} (hnames : ∀ step ∈ steps, ∀ n ∈ step.names, '/' ∉ n.toList)
    {faults : List Fault} {store : Store} {m : Moment}
    (hm : m ∈ (play template s steps faults store).moments) {text : String}
    (hwrites : m.Writes template s q text) (hq : store.hasFile q = true) :
    ∃ target ownsView role, m.step = .component target ownsView ∧ role ∈ Role.all ownsView ∧
      role ≠ .builder ∧ ((Artifact.role target role).path s).Same q ∧
      (Artifact.role target .builder).located? s store = none := by
  obtain ⟨earlier, step, later, rfl, rfl⟩ := exists_of_mem_play hm
  obtain ⟨target, ownsView, role, hstep, hrole, hne, hsame, hmissing⟩ :=
    hwrites.role_of_hasFile hslash hdot (hnames step (by simp)) (hasFile_play earlier faults hq)
  exact ⟨target, ownsView, role, hstep, hrole, hne, hsame,
    located?_of_located?_play earlier faults hmissing⟩

/-- Nothing is lost where a component without a builder has no other files either. -/
theorem preserves_play (hslash : '/' ∉ s.fileExtension.toList) (hdot : '.' ∉ s.fileExtension.toList)
    {steps : List Step} (hnames : ∀ step ∈ steps, ∀ n ∈ step.names, '/' ∉ n.toList)
    (faults : List Fault) {store : Store}
    (hwhole : ∀ target ownsView, .component target ownsView ∈ steps →
      (Artifact.role target .builder).located? s store = none →
        ∀ role, role ≠ .builder → store.hasFile ((Artifact.role target role).path s) = false) :
    Preserves s store (play template s steps faults store) := by
  intro q c hc
  obtain ⟨c', hc', haccounts⟩ := accounts_play steps faults hc
  refine ⟨c', hc', ?_⟩
  rcases haccounts with hgained | ⟨earlier, m, later, text, hmoments, hwrites, -⟩
  · exact hgained
  · exfalso
    have hm : m ∈ (play template s steps faults store).moments := by
      rw [hmoments]
      exact List.mem_append_right _ List.mem_cons_self
    have hq : store.hasFile q = true := (Store.hasFile_iff_content? store q).mpr ⟨c, hc⟩
    obtain ⟨target, ownsView, role, hstep, -, hne, hsame, hmissing⟩ :=
      role_of_writes hslash hdot hnames hm hwrites hq
    have hmem : .component target ownsView ∈ steps := by
      rw [← hstep]
      exact step_of_mem_play hm
    have hnone := hwhole target ownsView hmem hmissing role hne
    have hfile : store.hasFile ((Artifact.role target role).path s) = true := by
      rw [Store.hasFile_iff_content?]
      exact ⟨c, (store.content?_congr hsame).trans hc⟩
    rw [hnone] at hfile
    exact absurd hfile (by decide)

theorem Preserves.content?_of_gains_eq_nil {store : Store} {played : Played}
    (h : Preserves s store played) (hc : store.content? q = some c)
    (hgains : gains s q played.moments = []) : played.after.content? q = some c := by
  obtain ⟨c', hc', hgained⟩ := h q c hc
  rw [hgains] at hgained
  obtain rfl : c = c' := Option.some.inj hgained
  exact hc'

end RibTree
