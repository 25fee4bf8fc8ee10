import Mathlib.Data.List.Forall2
import RibTree.Fault
import RibTree.Store.Host

/-!
# Computations behind faults

What a computation over a store behind faults can lead to. A call that a fault strikes fails and
leaves the store as it is; any other call does to the store what the store says.
-/

namespace RibTree

set_option autoImplicit false

/-- A computation over a store behind faults. -/
abbrev Faulty (α : Type) : Type := StateT (List Fault) (StateM Store) α

/-- Behind some faults, the computation takes the store `s` to the store `t` with this result. -/
def Leads {α : Type} (x : Faulty α) (s : Store) (result : α) (t : Store) : Prop :=
  ∃ faults left, (x.run faults).run s = ((result, left), t)

section Computations

variable {α β : Type} {s t : Store}

theorem leads_pure {a result : α} (h : Leads (pure a) s result t) : result = a ∧ t = s := by
  obtain ⟨faults, left, h⟩ := h
  obtain ⟨h, ht⟩ := Prod.mk.inj h
  exact ⟨(Prod.mk.inj h).1.symm, ht.symm⟩

theorem leads_bind {x : Faulty α} {f : α → Faulty β} {result : β}
    (h : Leads (x >>= f) s result t) : ∃ a u, Leads x s a u ∧ Leads (f a) u result t := by
  obtain ⟨faults, left, h⟩ := h
  exact ⟨_, _, ⟨faults, _, rfl⟩, _, left, h⟩

theorem leads_map {x : Faulty α} {f : α → β} {result : β} (h : Leads (f <$> x) s result t) :
    ∃ a, Leads x s a t ∧ result = f a := by
  obtain ⟨faults, left, h⟩ := h
  obtain ⟨h, ht⟩ := Prod.mk.inj h
  obtain ⟨hresult, hleft⟩ := Prod.mk.inj h
  exact ⟨_, ⟨faults, (x faults s).1.2, by rw [← ht]; rfl⟩, hresult.symm⟩

variable {x : ExceptT Failure (StateT (List Fault) (StateM Store)) α}
variable {f : α → ExceptT Failure (StateT (List Fault) (StateM Store)) β}

/-- A failure ends a computation; otherwise it goes on from what its first part leaves. -/
theorem leads_run_bind {result : Except Failure β} (h : Leads (x >>= f).run s result t) :
    (∃ e, Leads x.run s (.error e) t ∧ result = .error e) ∨
      ∃ a u, Leads x.run s (.ok a) u ∧ Leads (f a).run u result t := by
  obtain ⟨q, u, hx, hf⟩ := leads_bind (x := x.run) (f := ExceptT.bindCont f) h
  cases q with
  | error e =>
      obtain ⟨rfl, rfl⟩ := leads_pure hf
      exact Or.inl ⟨e, hx, rfl⟩
  | ok a => exact Or.inr ⟨a, u, hx, hf⟩

theorem leads_lift {x : Faulty α} {result : Except Failure α}
    (h : Leads (liftM x : ExceptT Failure (StateT (List Fault) (StateM Store)) α).run s result t) :
    ∃ a, Leads x s a t ∧ result = .ok a :=
  leads_map (f := Except.ok) h

theorem leads_guard {ε : Type} {call : HostCall} {path : Path} {failure : String → ε}
    {action : StateM Store (Except ε α)} {result : Except ε α}
    (h : Leads (Fault.guard call path failure action) s result t) :
    (∃ reason, result = .error (failure reason) ∧ t = s) ∨ action.run s = (result, t) := by
  obtain ⟨struck, u, ⟨faults, left, hstruck⟩, h⟩ := leads_bind h
  obtain rfl : s = u := (Prod.mk.inj hstruck).2
  cases struck with
  | some reason => exact Or.inl ⟨reason, leads_pure h⟩
  | none =>
      obtain ⟨faults, left, h⟩ := h
      obtain ⟨h, ht⟩ := Prod.mk.inj h
      exact Or.inr (Prod.ext (Prod.mk.inj h).1 ht)

end Computations

namespace Store

abbrev faultyHost (template : TemplateKey → Except TemplateFailure String) :
    Host (StateT (List Fault) (StateM Store)) :=
  (host template).withFaults

variable {template : TemplateKey → Except TemplateFailure String} {s t : Store} {path : Path}

theorem update_cases {change : Store → Except String Store} {q : Except StorageFailure Unit}
    (h : (update path change).run s = (q, t)) :
    (∃ e, q = .error e ∧ t = s) ∨ (q = .ok () ∧ change s = .ok t) := by
  change update path change s = (q, t) at h
  rw [update] at h
  split at h
  · rename_i changed hchange
    obtain ⟨hq, rfl⟩ := Prod.mk.inj h
    exact Or.inr ⟨hq.symm, hchange⟩
  · obtain ⟨hq, ht⟩ := Prod.mk.inj h
    exact Or.inl ⟨_, hq.symm, ht.symm⟩

theorem leads_createFolders {q : Except StorageFailure Unit}
    (h : Leads ((faultyHost template).createFolders path) s q t) :
    (∃ e, q = .error e ∧ t = s) ∨ (q = .ok () ∧ s.createFolders path = .ok t) := by
  rcases leads_guard h with ⟨reason, hq, ht⟩ | h
  · exact Or.inl ⟨_, hq, ht⟩
  · exact update_cases h

theorem leads_write {content : String} {q : Except StorageFailure Unit}
    (h : Leads ((faultyHost template).write path content) s q t) :
    (∃ e, q = .error e ∧ t = s) ∨ (q = .ok () ∧ s.write path content = .ok t) := by
  rcases leads_guard h with ⟨reason, hq, ht⟩ | h
  · exact Or.inl ⟨_, hq, ht⟩
  · exact update_cases h

theorem leads_read {q : Except StorageFailure String}
    (h : Leads ((faultyHost template).read path) s q t) :
    t = s ∧ ((∃ e, q = .error e) ∨ ∃ content, s.content? path = some content ∧ q = .ok content) := by
  rcases leads_guard h with ⟨reason, hq, ht⟩ | h
  · exact ⟨ht, Or.inl ⟨_, hq⟩⟩
  · obtain ⟨hq, ht⟩ := Prod.mk.inj h
    refine ⟨ht.symm, ?_⟩
    rw [← hq]
    rw [read]
    cases s.content? path with
    | none => exact Or.inl ⟨_, rfl⟩
    | some content => exact Or.inr ⟨content, rfl, rfl⟩

theorem leads_sources {extension : String} {q : Except IndexFailure (List Path)}
    (h : Leads ((faultyHost template).sources path extension) s q t) :
    t = s ∧ ((∃ e, q = .error e) ∨ q = .ok (s.sources path extension)) := by
  rcases leads_guard h with ⟨reason, hq, ht⟩ | h
  · exact ⟨ht, Or.inl ⟨_, hq⟩⟩
  · obtain ⟨hq, ht⟩ := Prod.mk.inj h
    exact ⟨ht.symm, Or.inr hq.symm⟩

theorem leads_template {key : TemplateKey} {q : Except TemplateFailure String}
    (h : Leads ((faultyHost template).template key) s q t) :
    t = s ∧ ((∃ e, q = .error e) ∨ ∃ text, template key = .ok text ∧ q = .ok text) := by
  rcases leads_guard h with ⟨reason, hq, ht⟩ | h
  · exact ⟨ht, Or.inl ⟨_, hq⟩⟩
  · obtain ⟨hq, ht⟩ := Prod.mk.inj h
    refine ⟨ht.symm, ?_⟩
    cases q with
    | error e => exact Or.inl ⟨e, rfl⟩
    | ok text => exact Or.inr ⟨text, hq, rfl⟩

theorem leads_isFolder {q : Bool} (h : Leads ((faultyHost template).isFolder path) s q t) :
    q = s.isFolder path ∧ t = s := by
  obtain ⟨faults, left, h⟩ := h
  obtain ⟨h, ht⟩ := Prod.mk.inj h
  exact ⟨(Prod.mk.inj h).1.symm, ht.symm⟩

end Store

namespace Fault

/-- No fault strikes any of these calls when they are made one after the other. -/
def Spares : List (HostCall × Path) → List Fault → Prop
  | [], _ => True
  | (call, path) :: calls, faults =>
      (strike call path faults).1 = none ∧ Spares calls (strike call path faults).2

theorem Spares.strike_eq {call : HostCall} {path : Path} {calls : List (HostCall × Path)}
    {faults : List Fault} (h : Spares ((call, path) :: calls) faults) :
    ∃ left, strike call path faults = (none, left) ∧ Spares calls left :=
  ⟨_, by rw [← h.1], h.2⟩

@[simp] theorem spares_nil_right (calls : List (HostCall × Path)) : Spares calls [] := by
  induction calls with
  | nil => trivial
  | cons call calls ih => exact ⟨rfl, ih⟩

theorem run_guard {α ε : Type} {call : HostCall} {path : Path} {faults left : List Fault}
    (h : strike call path faults = (none, left)) (failure : String → ε)
    (action : StateM Store (Except ε α)) (s : Store) :
    ((guard call path failure action).run faults).run s =
      (((action.run s).1, left), (action.run s).2) := by
  rw [guard, StateT.run_bind, StateT.run_modifyGet, h, pure_bind]
  rfl

end Fault

section

variable {σ τ α β ε : Type}

theorem run_bind_of_ok {x : ExceptT ε (StateT τ (StateM σ)) α}
    {f : α → ExceptT ε (StateT τ (StateM σ)) β} {aside left : τ} {s t : σ} {a : α}
    (h : (x.run.run aside).run s = ((.ok a, left), t)) :
    ((x >>= f).run.run aside).run s = ((f a).run.run left).run t := by
  change ((ExceptT.bindCont f ((x.run.run aside).run s).1.1).run
    ((x.run.run aside).run s).1.2).run ((x.run.run aside).run s).2 = _
  rw [h]
  rfl

theorem run_bind_of_error {x : ExceptT ε (StateT τ (StateM σ)) α}
    {f : α → ExceptT ε (StateT τ (StateM σ)) β} {aside left : τ} {s t : σ} {e : ε}
    (h : (x.run.run aside).run s = ((.error e, left), t)) :
    ((x >>= f).run.run aside).run s = ((.error e, left), t) := by
  change ((ExceptT.bindCont f ((x.run.run aside).run s).1.1).run
    ((x.run.run aside).run s).1.2).run ((x.run.run aside).run s).2 = _
  rw [h]
  rfl

theorem run_attempt {call : StateT τ (StateM σ) (Except ε α)} {aside left : τ} {s t : σ}
    {q : Except ε α} (h : (call.run aside).run s = ((q, left), t)) (meaning : ε → Failure) :
    ((attempt call meaning).run.run aside).run s = ((q.mapError meaning, left), t) := by
  change ((((call.run aside).run s).1.1.mapError meaning, ((call.run aside).run s).1.2),
    ((call.run aside).run s).2) = _
  rw [h]

theorem leads_attempt {call : Faulty (Except ε α)} {meaning : ε → Failure}
    {s t : Store} {result : Except Failure α} (h : Leads (attempt call meaning).run s result t) :
    ∃ q, Leads call s q t ∧ result = q.mapError meaning :=
  leads_map h

theorem leads_mapM {f : α → ExceptT Failure (StateT (List Fault) (StateM Store)) β}
    {Fails : α → Failure → Prop} {Gives : α → β → Prop}
    (hf : ∀ a s r t, Leads (f a).run s r t →
      t = s ∧ ((∃ e, r = .error e ∧ Fails a e) ∨ ∃ b, r = .ok b ∧ Gives a b))
    {l : List α} {s t : Store} {r : Except Failure (List β)} (h : Leads (l.mapM f).run s r t) :
    t = s ∧ ((∃ a ∈ l, ∃ e, r = .error e ∧ Fails a e) ∨
      ∃ bs, r = .ok bs ∧ List.Forall₂ Gives l bs) := by
  induction l generalizing r t with
  | nil =>
      obtain ⟨rfl, rfl⟩ := leads_pure (by simpa using h)
      exact ⟨rfl, Or.inr ⟨[], rfl, .nil⟩⟩
  | cons a l ih =>
      rw [List.mapM_cons] at h
      rcases leads_run_bind h with ⟨e, ha, rfl⟩ | ⟨b, u, ha, hrest⟩
      · obtain ⟨rfl, ⟨e', he, hFails⟩ | ⟨b, hb, -⟩⟩ := hf a _ _ _ ha
        · obtain rfl := Except.error.inj he
          exact ⟨rfl, Or.inl ⟨a, List.mem_cons_self, e, rfl, hFails⟩⟩
        · exact absurd hb (by simp)
      · obtain ⟨rfl, ⟨e, he, -⟩ | ⟨b', hb, hGives⟩⟩ := hf a _ _ _ ha
        · exact absurd he (by simp)
        obtain rfl := Except.ok.inj hb
        rcases leads_run_bind hrest with ⟨e, hl, rfl⟩ | ⟨bs, v, hl, hlast⟩
        · obtain ⟨rfl, ⟨a', ha', e', he, hFails⟩ | ⟨bs, hbs, -⟩⟩ := ih hl
          · obtain rfl := Except.error.inj he
            exact ⟨rfl, Or.inl ⟨a', List.mem_cons_of_mem a ha', e, rfl, hFails⟩⟩
          · exact absurd hbs (by simp)
        · obtain ⟨rfl, ⟨a', ha', e, he, -⟩ | ⟨bs', hbs, hAll⟩⟩ := ih hl
          · exact absurd he (by simp)
          obtain rfl := Except.ok.inj hbs
          obtain ⟨rfl, rfl⟩ := leads_pure hlast
          exact ⟨rfl, Or.inr ⟨b :: bs, rfl, .cons hGives hAll⟩⟩

end

end RibTree
