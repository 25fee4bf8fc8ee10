import RibTree.Proofs.Run.Undisturbed
import RibTree.Proofs.Step.Independence

/-!
# Runs that do not meet

Steps that are apart report the same in either order and leave the same store, and so do lists of
such steps. Components with different targets are added in any order, as long as neither is added
to the other or to the parent of the other.
-/

namespace RibTree

set_option autoImplicit false

/-- Every step of the one list is apart from every step of the other. -/
def Step.AllApart (steps others : List Step) : Prop :=
  ∀ step ∈ steps, ∀ other ∈ others, step.Apart other

section

variable (template : TemplateKey → Except TemplateFailure String) (s : Settings)

/-- Each list of steps reports the same before and after the other, and both orders end in one
store. -/
structure Commute (steps others : List Step) (store : Store) : Prop where
  reports_first : (play template s steps [] (play template s others [] store).after).reports =
    (play template s steps [] store).reports
  reports_second : (play template s others [] (play template s steps [] store).after).reports =
    (play template s others [] store).reports
  after_eq : (play template s others [] (play template s steps [] store).after).after =
    (play template s steps [] (play template s others [] store).after).after

end

variable {template : TemplateKey → Except TemplateFailure String} {s : Settings}

theorem play_singleton (step : Step) (store : Store) :
    (play template s [step] [] store).reports = [(moment template s step [] store).report] ∧
      (play template s [step] [] store).after = (moment template s step [] store).after :=
  ⟨rfl, rfl⟩

variable {steps others : List Step} {store : Store}

theorem Commute.symm (h : Commute template s steps others store) :
    Commute template s others steps store :=
  ⟨h.reports_second, h.reports_first, h.after_eq.symm⟩

/-- The first step passes the others, then those after it do. -/
theorem Commute.cons {step : Step} (hfirst : Commute template s [step] others store)
    (hrest : Commute template s steps others (moment template s step [] store).after) :
    Commute template s (step :: steps) others store := by
  have hreport : (moment template s step [] (play template s others [] store).after).report =
      (moment template s step [] store).report := List.singleton_inj.mp hfirst.reports_first
  have hafter : (moment template s step [] (play template s others [] store).after).after =
      (play template s others [] (moment template s step [] store).after).after :=
    hfirst.after_eq.symm
  have hothers : (play template s others [] (moment template s step [] store).after).reports =
      (play template s others [] store).reports := hfirst.reports_second
  constructor
  · rw [play_cons, play_cons]
    simp only [Played.reports, List.map_cons, hreport, hafter]
    exact congrArg _ hrest.reports_first
  · rw [play_cons]
    exact hrest.reports_second.trans hothers
  · rw [play_cons, play_cons]
    simp only [hafter]
    exact hrest.after_eq

/-- A list of steps passes others if each of its steps does. -/
theorem commute_of_forall
    (h : ∀ step ∈ steps, ∀ {store : Store}, store.WellFormed → Commute template s [step] others store)
    (hs : store.WellFormed) : Commute template s steps others store := by
  induction steps generalizing store with
  | nil => exact ⟨rfl, rfl, rfl⟩
  | cons step steps ih =>
      obtain ⟨hfirst, hrest⟩ := List.forall_mem_cons.mp h
      exact (hfirst hs).cons
        (ih hrest ((outcome_moment template s step [] store).wellFormed hs))

section

variable (template) (hslash : '/' ∉ s.fileExtension.toList)
include hslash

theorem commute_step {step other : Step} (hnames : ∀ n ∈ step.names, IsPlain n)
    (hothers : ∀ n ∈ other.names, IsPlain n) (hapart : step.Apart other)
    (hs : store.WellFormed) : Commute template s [step] [other] store := by
  have hslashes : ∀ n ∈ step.names, '/' ∉ n.toList := fun n hn => (hnames n hn).1
  have hslashes' : ∀ n ∈ other.names, '/' ∉ n.toList := fun n hn => (hothers n hn).1
  have hfirst := moment_eq_effect template hslash hslashes hs
  have hsecond := moment_eq_effect template hslash hslashes' hs
  have hwell : ((step.effect template s store).apply store).WellFormed := by
    have := (outcome_moment template s step [] store).wellFormed hs
    rwa [hfirst] at this
  have hwell' : ((other.effect template s store).apply store).WellFormed := by
    have := (outcome_moment template s other [] store).wellFormed hs
    rwa [hsecond] at this
  have hlast := moment_eq_effect template hslash hslashes hwell'
  have hlast' := moment_eq_effect template hslash hslashes' hwell
  rw [Step.effect_apply_of_apart hslash hnames hothers hapart] at hlast
  rw [Step.effect_apply_of_apart hslash hothers hnames hapart.symm] at hlast'
  constructor
  · rw [(play_singleton other store).2, (play_singleton step _).1, (play_singleton step _).1,
      hfirst, hsecond, hlast]
  · rw [(play_singleton step store).2, (play_singleton other _).1, (play_singleton other _).1,
      hfirst, hsecond, hlast']
  · rw [(play_singleton step store).2, (play_singleton other store).2, (play_singleton other _).2,
      (play_singleton step _).2, hfirst, hsecond, hlast, hlast']
    exact Step.effect_apply_comm hslash hnames hothers hapart

/-- Lists of steps that are apart pass each other. -/
theorem commute_of_apart (hnames : ∀ step ∈ steps, ∀ n ∈ step.names, IsPlain n)
    (hothers : ∀ other ∈ others, ∀ n ∈ other.names, IsPlain n)
    (hapart : Step.AllApart steps others) (hs : store.WellFormed) :
    Commute template s steps others store := by
  -- One step passes the others because each of them, the other way round, passes the one step.
  apply commute_of_forall _ hs
  intro step hstep before hbefore
  apply Commute.symm
  apply commute_of_forall _ hbefore
  intro other hother between hbetween
  apply Commute.symm
  exact commute_step template hslash (hnames step hstep) (hothers other hother)
    (hapart step hstep other hother) hbetween

/-- Two calls whose steps are apart can be made in either order. Each reports what it reports when
it is made alone. -/
theorem history_comm {first second : Call} (hfirst : ∀ n ∈ first.names, IsPlain n)
    (hsecond : ∀ n ∈ second.names, IsPlain n)
    (hapart : Step.AllApart first.steps second.steps) (hs : store.WellFormed) :
    ∃ t₁ t₂ r₁ r₂ alone₁ alone₂ after,
      history template s [first] [] store = ((([t₁], r₁), []), alone₁) ∧
      history template s [second] [] store = ((([t₂], r₂), []), alone₂) ∧
      history template s [first, second] [] store = ((([t₁, t₂], r₁ ++ r₂), []), after) ∧
      history template s [second, first] [] store = ((([t₂, t₁], r₂ ++ r₁), []), after) := by
  have hcommute : Commute template s first.steps second.steps store :=
    commute_of_apart template hslash
      (fun step hstep n hn => hfirst n (Call.names_of_mem_steps hstep hn))
      (fun step hstep n hn => hsecond n (Call.names_of_mem_steps hstep hn)) hapart hs
  obtain ⟨hreports, hothers, hafter⟩ := hcommute
  refine ⟨_, _, _, _, _, _,
    (play template s second.steps [] (play template s first.steps [] store).after).after,
    history_singleton first store, history_singleton second store, ?_, ?_⟩
  · rw [history_pair]
    simp only [Played.total, hothers]
  · rw [history_pair]
    simp only [Played.total, hreports, hafter]

end

theorem Step.cases_footprint_forAdd {target : String} {parent : Option String} {ownsView : Bool}
    {step : Step} (hstep : step ∈ forAdd target parent ownsView) {a : Artifact}
    (ha : a ∈ step.footprint) :
    (∃ role, a = .role target role) ∨
      ∃ p ∈ parent, a = .extension p target ∨ a = .role p .builder := by
  rcases List.mem_cons.mp hstep with rfl | hlink
  · obtain ⟨role, -, rfl⟩ := List.mem_map.mp ha
    exact Or.inl ⟨role, rfl⟩
  · right
    cases parent with
    | none => simp at hlink
    | some parent =>
        refine ⟨parent, rfl, ?_⟩
        rcases List.mem_cons.mp hlink with rfl | hlast
        · exact Or.inl (List.mem_singleton.mp ha)
        · rw [List.mem_singleton.mp hlast] at ha
          exact Or.inr (List.mem_singleton.mp ha)

/-- Additions are apart if neither has to do with the target or the parent of the other. -/
theorem Step.allApart_forAdd {T₁ T₂ : String} {P₁ P₂ : Option String} (htargets : T₁ ≠ T₂)
    (hfirst : ∀ p ∈ P₁, p ≠ T₂ ∧ p ∉ P₂) (hsecond : ∀ p ∈ P₂, p ≠ T₁) (v₁ v₂ : Bool) :
    AllApart (forAdd T₁ P₁ v₁) (forAdd T₂ P₂ v₂) := by
  intro step hstep other hother a ha hb
  rcases cases_footprint_forAdd hstep ha with ⟨role, rfl⟩ | ⟨p, hp, rfl | rfl⟩ <;>
    rcases cases_footprint_forAdd hother hb with ⟨role', he⟩ | ⟨q, hq, he | he⟩
  · exact htargets (Artifact.role.inj he).1
  · exact Artifact.noConfusion he
  · exact hsecond q hq (Artifact.role.inj he).1.symm
  · exact Artifact.noConfusion he
  · exact htargets (Artifact.extension.inj he).2
  · exact Artifact.noConfusion he
  · exact (hfirst p hp).1 (Artifact.role.inj he).1
  · exact Artifact.noConfusion he
  · apply (hfirst p hp).2
    rw [(Artifact.role.inj he).1]
    exact hq

/-- Components that have nothing to do with each other are added in any order: each addition
reports what it reports alone, and the files, the folders and the number of writes are the same.
Locked paths and templates that cannot be read make no difference. -/
theorem history_add_comm (template : TemplateKey → Except TemplateFailure String) {s : Settings}
    (hslash : '/' ∉ s.fileExtension.toList) {store : Store} (hstore : store.Built)
    {T₁ T₂ : String} {P₁ P₂ : Option String} {v₁ v₂ : Bool}
    (hnames : ∀ n ∈ (Call.add T₁ P₁ v₁).names ++ (Call.add T₂ P₂ v₂).names, IsPlain n)
    (htargets : T₁ ≠ T₂) (hfirst : ∀ p ∈ P₁, p ≠ T₂ ∧ p ∉ P₂)
    (hsecond : ∀ p ∈ P₂, p ≠ T₁) :
    let first : Call := .add T₁ P₁ v₁
    let second : Call := .add T₂ P₂ v₂
    ∃ t₁ t₂ r₁ r₂ alone₁ alone₂ after,
      history template s [first] [] store = ((([t₁], r₁), []), alone₁) ∧
      history template s [second] [] store = ((([t₂], r₂), []), alone₂) ∧
      history template s [first, second] [] store = ((([t₁, t₂], r₁ ++ r₂), []), after) ∧
      history template s [second, first] [] store = ((([t₂, t₁], r₂ ++ r₁), []), after) :=
  history_comm template hslash (fun n hn => hnames n (List.mem_append_left _ hn))
    (fun n hn => hnames n (List.mem_append_right _ hn))
    (Step.allApart_forAdd htargets hfirst hsecond v₁ v₂) hstore.wellFormed

/-- A component in the target directory itself is added before or after one that has a parent and
a locked folder. -/
theorem history_add_comm_of_locked :
    let template : TemplateKey → Except TemplateFailure String := fun _ => .ok "text"
    let s : Settings := { targetDirectory := ⟨"Sources"⟩ }
    let store := (Store.empty.withFile ⟨"Sources/A/ABuilder.swift"⟩
      "    // ribgen:child-builders\n").withLocked ⟨"Sources/B"⟩
    let first : Call := .add "." none true
    let second : Call := .add "B" (some "A") false
    ('/' ∉ s.fileExtension.toList ∧ store.Built ∧
      (∀ n ∈ first.names ++ second.names, IsPlain n) ∧ "." ≠ "B" ∧
      ∀ p ∈ some "A", p ≠ ".") ∧
    ∃ t₁ t₂ r₁ r₂ alone₁ alone₂ after,
      history template s [first] [] store = ((([t₁], r₁), []), alone₁) ∧
      history template s [second] [] store = ((([t₂], r₂), []), alone₂) ∧
      history template s [first, second] [] store = ((([t₁, t₂], r₁ ++ r₂), []), after) ∧
      history template s [second, first] [] store = ((([t₂, t₁], r₂ ++ r₁), []), after) := by
  intro template s store first second
  have hslash : '/' ∉ s.fileExtension.toList := by decide
  have hstore : store.Built := .withLocked _ (.withFile _ _ .empty)
  have hnames : ∀ n ∈ first.names ++ second.names, IsPlain n := by decide
  have hsecond : ∀ p ∈ some "A", p ≠ "." := by decide
  have htargets : "." ≠ "B" := by decide
  exact ⟨⟨hslash, hstore, hnames, htargets, hsecond⟩,
    history_add_comm template hslash hstore hnames htargets (by simp) hsecond⟩

end RibTree
