import Mathlib.Data.List.Chain
import RibTree.Proofs.Text.Line
import RibTree.Text.Search

/-!
# Where a mark occurs

A search that passes over what it has found sees at most the true occurrences of a mark. For a
mark without a line feed it goes line by line, so putting whole lines between others neither hides
nor adds an occurrence in those. `Apart` excludes occurrences by two neighbouring characters.
-/

namespace RibTree.Text

set_option autoImplicit false

variable {mark : List Char} {before : Option Char → Bool}

theorem occursFrom_congr {a b : Option Char} (h : before a = before b) (skip : Nat)
    (s : List Char) : occursFrom mark before a skip s = occursFrom mark before b skip s := by
  cases s with
  | nil => cases skip <;> rfl
  | cons c s => cases skip <;> simp [occursFrom, h]

theorem getLast?_cons_or (c : Char) (s : List Char) (last : Option Char) :
    (c :: s).getLast?.or last = s.getLast?.or (some c) := by
  cases hl : s.getLast? <;> simp [List.getLast?_cons, hl]

theorem exists_of_occursFrom {last : Option Char} {skip : Nat} {s : List Char}
    (h : occursFrom mark before last skip s = true) :
    ∃ x y, s = x ++ mark ++ y ∧ before (x.getLast?.or last) = true := by
  induction s generalizing last skip with
  | nil => cases skip <;> simp [occursFrom] at h
  | cons c s ih =>
      have later : ∀ {k : Nat}, occursFrom mark before (some c) k s = true →
          ∃ x y, c :: s = x ++ mark ++ y ∧ before (x.getLast?.or last) = true := by
        intro k hk
        obtain ⟨x, y, hs, hb⟩ := ih hk
        exact ⟨c :: x, y, by simp [hs], by rwa [getLast?_cons_or]⟩
      cases skip with
      | succ skip => exact later h
      | zero =>
          rw [occursFrom] at h
          split at h
          · rename_i hp
            rcases Bool.or_eq_true_iff.mp h with hb | h
            · obtain ⟨y, hy⟩ := List.isPrefixOf_iff_prefix.mp hp
              exact ⟨[], y, by simp [hy], by simpa using hb⟩
            · exact later h
          · exact later h

theorem exists_of_occursAfter {s : List Char} (h : occursAfter mark before s = true) :
    ∃ x y, s = x ++ mark ++ y ∧ before x.getLast? = true := by
  obtain ⟨x, y, hs, hb⟩ := exists_of_occursFrom h
  exact ⟨x, y, hs, by simpa using hb⟩

/-- A beginning of the text at which the mark stands nowhere is passed over. -/
theorem occursFrom_append_of_not_prefix {p t : List Char}
    (h : ∀ x y, p = x ++ y → y ≠ [] → ¬ mark <+: y ++ t) (last : Option Char) :
    occursFrom mark before last 0 (p ++ t) =
      occursFrom mark before (p.getLast?.or last) 0 t := by
  induction p generalizing last with
  | nil => rfl
  | cons c p ih =>
      have hc : ¬ mark.isPrefixOf (c :: (p ++ t)) = true := by
        rw [List.isPrefixOf_iff_prefix]
        exact h [] (c :: p) rfl (by simp)
      have hp := ih (fun x y hxy hy => h (c :: x) y (by simp [hxy]) hy) (some c)
      rw [List.cons_append, occursFrom, if_neg hc, hp, getLast?_cons_or]

theorem occursFrom_self (hmark : mark ≠ []) {last : Option Char} (h : before last = true)
    (t : List Char) : occursFrom mark before last 0 (mark ++ t) = true := by
  obtain ⟨c, rest, rfl⟩ := List.exists_cons_of_ne_nil hmark
  have hp : (c :: rest).isPrefixOf (c :: (rest ++ t)) = true :=
    List.isPrefixOf_iff_prefix.mpr ⟨t, by simp⟩
  rw [List.cons_append, occursFrom, if_pos hp, h, Bool.true_or]

section Newline

variable (hnewline : '\n' ∉ mark)
include hnewline

theorem prefix_append_newline_iff (s t : List Char) :
    mark <+: s ++ '\n' :: t ↔ mark <+: s := by
  constructor
  · intro h
    by_cases hlen : mark.length ≤ s.length
    · exact List.prefix_of_prefix_length_le h (List.prefix_append s _) hlen
    · have hs : s ++ ['\n'] <+: s ++ '\n' :: t := ⟨t, by simp⟩
      have hm := List.prefix_of_prefix_length_le hs h (by simp; omega)
      exact absurd (hm.subset (by simp)) hnewline
  · exact fun h => h.trans (List.prefix_append s _)

/-- A line feed ends every occurrence in front of it. -/
theorem occursFrom_newline (hmark : mark ≠ []) (last : Option Char) (skip : Nat)
    (s t : List Char) (hskip : skip ≤ s.length) :
    occursFrom mark before last skip (s ++ '\n' :: t) =
      (occursFrom mark before last skip s || occursFrom mark before (some '\n') 0 t) := by
  induction s generalizing last skip with
  | nil =>
      obtain rfl : skip = 0 := by simpa using hskip
      have hp : ¬ mark.isPrefixOf ('\n' :: t) = true := by
        rw [List.isPrefixOf_iff_prefix]
        intro hp
        rw [← List.nil_append ('\n' :: t), prefix_append_newline_iff hnewline,
          List.prefix_nil] at hp
        exact hmark hp
      simp [occursFrom, hp]
  | cons c s ih =>
      cases skip with
      | succ skip =>
          have hle : skip ≤ s.length := by simpa using hskip
          exact ih (some c) skip hle
      | zero =>
          have hiff : mark.isPrefixOf (c :: (s ++ '\n' :: t)) = mark.isPrefixOf (c :: s) := by
            rw [Bool.eq_iff_iff, List.isPrefixOf_iff_prefix, List.isPrefixOf_iff_prefix,
              ← List.cons_append, prefix_append_newline_iff hnewline]
          rw [List.cons_append, occursFrom, occursFrom, hiff]
          split
          · rename_i hp
            have hlen := (List.isPrefixOf_iff_prefix.mp hp).length_le
            rw [ih (some c) (mark.length - 1) (by simp at hlen; omega), Bool.or_assoc]
          · exact ih (some c) 0 (Nat.zero_le _)

/-- A mark without a line feed is looked for line by line. -/
theorem occursAfter_append (hmark : mark ≠ []) (hbefore : before none = before (some '\n'))
    {s : List Char} (hs : WholeLines s) (t : List Char) :
    occursAfter mark before (s ++ t) = (occursAfter mark before s || occursAfter mark before t) := by
  cases hl : s.getLast? with
  | none =>
      obtain rfl := List.getLast?_eq_none_iff.mp hl
      simp [occursAfter, occursFrom]
  | some c =>
      obtain rfl : c = '\n' := hs c hl
      obtain ⟨line, rfl⟩ := List.getLast?_eq_some_iff.mp hl
      simp only [occursAfter, List.append_assoc, List.singleton_append]
      rw [occursFrom_newline hnewline hmark none 0 line t (Nat.zero_le _),
        occursFrom_newline hnewline hmark none 0 line [] (Nat.zero_le _),
        occursFrom_congr hbefore.symm 0 t]
      simp [occursFrom]

end Newline

/-- `b` never stands directly after `a`. -/
def Apart (a b : Char) (s : List Char) : Prop := s.IsChain fun x y => x = a → y ≠ b

instance (a b : Char) (s : List Char) : Decidable (Apart a b s) :=
  inferInstanceAs (Decidable (s.IsChain _))

theorem apart_append_iff {a b : Char} {s t : List Char} :
    Apart a b (s ++ t) ↔ Apart a b s ∧ Apart a b t ∧
      (s.getLast? = some a → t.head? ≠ some b) := by
  rw [Apart, List.isChain_append]
  refine and_congr_right fun _ => and_congr_right fun _ => ?_
  constructor
  · intro h hs ht
    exact h a hs b ht rfl rfl
  · rintro h x hx y hy rfl rfl
    exact h hx hy

theorem Apart.not_pair {a b : Char} {s x y : List Char} (h : Apart a b s) : s ≠ x ++ a :: b :: y := by
  rintro rfl
  have hpair : Apart a b (a :: b :: y) := (apart_append_iff.mp h).2.1
  exact (List.isChain_cons_cons.mp hpair).1 rfl rfl

theorem apart_of_notMem {a b : Char} {s : List Char} (h : b ∉ s) : Apart a b s := by
  induction s with
  | nil => exact List.IsChain.nil
  | cons c s ih =>
      have hs : b ∉ s := fun hm => h (List.mem_cons_of_mem c hm)
      rw [← List.singleton_append, apart_append_iff]
      refine ⟨List.IsChain.singleton c, ih hs, fun _ hb => hs ?_⟩
      exact List.mem_of_head? hb

theorem apart_of_notMem_left {a b : Char} {s : List Char} (h : a ∉ s) : Apart a b s := by
  induction s with
  | nil => exact List.IsChain.nil
  | cons c s ih =>
      have hs : a ∉ s := fun hm => h (List.mem_cons_of_mem c hm)
      rw [← List.singleton_append, apart_append_iff]
      refine ⟨List.IsChain.singleton c, ih hs, fun ha => absurd ?_ h⟩
      simp [show c = a by simpa using ha]

/-- Two characters that stand together once cut a text in one way. -/
theorem eq_of_pair_split {a b : Char} {s t u v : List Char}
    (h : s ++ a :: b :: t = u ++ a :: b :: v) (hs : Apart a b (s ++ [a]))
    (ht : Apart a b (b :: t)) : s = u := by
  rcases List.append_eq_append_iff.mp h with ⟨c, hu, hc⟩ | ⟨c, hsu, hc⟩
  · cases c with
    | nil => simpa using hu.symm
    | cons d c =>
        simp only [List.cons_append, List.cons.injEq] at hc
        exact absurd hc.2 ht.not_pair
  · cases c with
    | nil => simpa using hsu
    | cons d c =>
        simp only [List.cons_append, List.cons.injEq] at hc
        obtain ⟨rfl, hc⟩ := hc
        cases c with
        | nil =>
            obtain ⟨hba, -⟩ : b = a ∧ v = b :: t := by simpa using hc
            exact absurd (by simp [hsu, hba]) (hs.not_pair (x := u) (y := []))
        | cons e c =>
            obtain ⟨rfl, -⟩ : b = e ∧ v = c ++ a :: b :: t := by simpa using hc
            exact absurd (by simp [hsu]) (hs.not_pair (x := u) (y := c ++ [a]))

end RibTree.Text
