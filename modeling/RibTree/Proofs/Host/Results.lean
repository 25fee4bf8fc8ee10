import Mathlib.Data.List.Forall2
import RibTree.Host

/-!
# What a computation can give

A host may answer a call in any way, so a computation over it has no one result. What holds of all
its results is built up in the way in which the computation is: from values, sequences and the
failures that a step makes of refused calls.
-/

namespace RibTree

set_option autoImplicit false

theorem exists_mem_of_forall₂ {α β : Type} {R : α → β → Prop} {l : List α} {bs : List β}
    (h : List.Forall₂ R l bs) {b : β} (hb : b ∈ bs) : ∃ a ∈ l, R a b := by
  induction h with
  | nil => simp at hb
  | cons hfirst _ ih =>
      rcases List.mem_cons.mp hb with rfl | hb
      · exact ⟨_, List.mem_cons_self, hfirst⟩
      · obtain ⟨a, ha, hab⟩ := ih hb
        exact ⟨a, List.mem_cons_of_mem _ ha, hab⟩

/-- All that the computation can give satisfies `P`: it is a computation of values that do. -/
def Gives {m : Type → Type} [Monad m] {α : Type} (P : α → Prop) (x : m α) : Prop :=
  ∃ y : m {a // P a}, Subtype.val <$> y = x

/-- A failure of this kind, or a value of that kind. -/
def Ends {α : Type} (F : Failure → Prop) (P : α → Prop) : Except Failure α → Prop
  | .error e => F e
  | .ok a => P a

section

variable {m : Type → Type} [Monad m] [LawfulMonad m] {α β : Type} {P : α → Prop} {Q : β → Prop}

theorem gives_pure {a : α} (h : P a) : Gives P (pure a : m α) :=
  ⟨pure ⟨a, h⟩, map_pure ..⟩

theorem gives_any (x : m α) : Gives (fun _ => True) x :=
  ⟨(fun a => ⟨a, trivial⟩) <$> x, by rw [Functor.map_map]; exact id_map x⟩

theorem Gives.map {x : m α} (h : Gives P x) {f : α → β} (hf : ∀ a, P a → Q (f a)) :
    Gives Q (f <$> x) := by
  obtain ⟨y, rfl⟩ := h
  exact ⟨(fun a => ⟨f a.1, hf a.1 a.2⟩) <$> y, by rw [Functor.map_map, Functor.map_map]⟩

theorem Gives.weaken {P' : α → Prop} {x : m α} (h : Gives P x) (hP : ∀ a, P a → P' a) :
    Gives P' x := by
  have := h.map (f := id) hP
  rwa [id_map] at this

theorem Gives.bind {x : m α} {f : α → m β} (hx : Gives P x) (hf : ∀ a, P a → Gives Q (f a)) :
    Gives Q (x >>= f) := by
  obtain ⟨y, rfl⟩ := hx
  choose g hg using hf
  refine ⟨y >>= fun a => g a.1 a.2, ?_⟩
  rw [map_bind, bind_map_left]
  exact bind_congr fun a => hg a.1 a.2

theorem gives_mapM {R : α → β → Prop} {f : α → m β} {l : List α}
    (h : ∀ a ∈ l, Gives (R a) (f a)) : Gives (List.Forall₂ R l) (l.mapM f) := by
  induction l with
  | nil => exact gives_pure .nil
  | cons a l ih =>
      obtain ⟨hfirst, hrest⟩ := List.forall_mem_cons.mp h
      rw [List.mapM_cons]
      exact hfirst.bind fun b hb => (ih hrest).bind fun bs hbs => gives_pure (.cons hb hbs)

/-- What a computation with a state can give, it can give from any state. -/
theorem Gives.run {σ : Type} {x : StateT σ m α} (h : Gives P x) (state : σ) :
    Gives (fun ended => P ended.1) (x.run state) := by
  obtain ⟨y, rfl⟩ := h
  rw [StateT.run_map]
  exact ⟨(fun ended => ⟨(ended.1.1, ended.2), ended.1.2⟩) <$> y.run state,
    by rw [Functor.map_map]⟩

/-- A computation without effects has the one result that it has. -/
theorem Gives.of_id {x : Id α} (h : Gives P x) : P x.run := by
  obtain ⟨y, rfl⟩ := h
  exact y.run.2

theorem Gives.state {σ : Type} {x : StateM σ α} (h : Gives P x) (state : σ) :
    P (x.run state).1 :=
  (Gives.run h state).of_id

end

section

variable {m : Type → Type} [Monad m] [LawfulMonad m] {α β : Type}
variable {F : Failure → Prop} {P : α → Prop} {Q : β → Prop}

theorem gives_run_pure {a : α} (h : P a) :
    Gives (Ends F P) (pure a : ExceptT Failure m α).run :=
  gives_pure (P := Ends F P) h

theorem gives_run_throw {e : Failure} (h : F e) :
    Gives (Ends F P) (throw e : ExceptT Failure m α).run :=
  gives_pure (P := Ends F P) h

theorem gives_run_lift (x : m α) :
    Gives (Ends F fun _ => True) (liftM x : ExceptT Failure m α).run :=
  (gives_any x).map fun _ _ => trivial

theorem gives_run_attempt {ε : Type} (call : m (Except ε α)) {meaning : ε → Failure}
    (h : ∀ cause, F (meaning cause)) :
    Gives (Ends F fun _ => True) (attempt call meaning).run := by
  apply (gives_any call).map
  rintro (cause | a) -
  · exact h cause
  · trivial

theorem gives_run_bind {x : ExceptT Failure m α} {f : α → ExceptT Failure m β}
    (hx : Gives (Ends F P) x.run) (hf : ∀ a, P a → Gives (Ends F Q) (f a).run) :
    Gives (Ends F Q) (x >>= f).run := by
  refine Gives.bind (f := ExceptT.bindCont f) hx ?_
  rintro (e | a) h
  · exact gives_pure (P := Ends F Q) h
  · exact hf a h

theorem gives_run_mapM {R : α → β → Prop} {f : α → ExceptT Failure m β} {l : List α}
    (h : ∀ a ∈ l, Gives (Ends F (R a)) (f a).run) :
    Gives (Ends F (List.Forall₂ R l)) (l.mapM f).run := by
  induction l with
  | nil => exact gives_run_pure .nil
  | cons a l ih =>
      obtain ⟨hfirst, hrest⟩ := List.forall_mem_cons.mp h
      rw [List.mapM_cons]
      exact gives_run_bind hfirst fun b hb =>
        gives_run_bind (ih hrest) fun bs hbs => gives_run_pure (.cons hb hbs)

theorem gives_run_forM {f : α → ExceptT Failure m Unit} {l : List α}
    (h : ∀ a ∈ l, Gives (Ends F fun _ => True) (f a).run) :
    Gives (Ends F fun _ => True) (l.forM f).run := by
  induction l with
  | nil => exact gives_run_pure trivial
  | cons a l ih =>
      obtain ⟨hfirst, hrest⟩ := List.forall_mem_cons.mp h
      exact gives_run_bind hfirst fun _ _ => ih hrest

end

section

variable {σ α β ε : Type} {x : ExceptT ε (StateM σ) α} {f : α → ExceptT ε (StateM σ) β}
variable {before after : σ}

theorem run_bind_of_eq_ok {a : α} (h : x.run.run before = (.ok a, after)) :
    (x >>= f).run.run before = (f a).run.run after := by
  change (ExceptT.bindCont f (x.run.run before).1).run (x.run.run before).2 = _
  rw [h]
  rfl

theorem run_bind_of_eq_error {e : ε} (h : x.run.run before = (.error e, after)) :
    (x >>= f).run.run before = (.error e, after) := by
  change (ExceptT.bindCont f (x.run.run before).1).run (x.run.run before).2 = _
  rw [h]
  rfl

/-- What gives a value has given one with each of its parts. -/
theorem exists_of_run_bind {b : β} (h : (x >>= f).run.run before = (.ok b, after)) :
    ∃ a between, x.run.run before = (.ok a, between) ∧
      (f a).run.run between = (.ok b, after) := by
  rcases hx : x.run.run before with ⟨e | a, between⟩
  · rw [run_bind_of_eq_error hx] at h
    exact absurd (Prod.mk.inj h).1 (by simp)
  · exact ⟨a, between, rfl, (run_bind_of_eq_ok hx).symm.trans h⟩

theorem mapError_eq_ok_iff {ε' : Type} {y : Except ε α} {f : ε → ε'} {a : α} :
    y.mapError f = .ok a ↔ y = .ok a := by
  cases y <;> simp [Except.mapError]

/-- A call that a step went on from has been answered. -/
theorem run_of_run_attempt {call : StateM σ (Except ε α)} {meaning : ε → Failure} {a : α}
    (h : (attempt call meaning).run.run before = (.ok a, after)) :
    call.run before = (.ok a, after) := by
  have hrun : (attempt call meaning).run.run before =
      ((call.run before).1.mapError meaning, (call.run before).2) := rfl
  rw [hrun] at h
  obtain ⟨hresult, hafter⟩ := Prod.mk.inj h
  exact Prod.ext (mapError_eq_ok_iff.mp hresult) hafter

end

end RibTree
