import Mathlib.Data.List.Basic
import Mathlib.Order.Bounds.Basic
import RibTree.Outline.Basic

/-!
# The nearest shallower line

The list of candidates that runs along an outline gives every line the same parent as a plain
look upward from that line. What has been dropped from the list stands above a line that is no
deeper and nearer to all that follows, so it cannot be the nearest shallower line again.
-/

namespace RibTree

set_option autoImplicit false

/-- The candidates `seen` stand for the widths `before`: they lie in `before`, both their indices
and their widths fall, and every width is hidden by a candidate at or after it. -/
structure Exposes (before : List Nat) (seen : List (Nat × Nat)) : Prop where
  falling : seen.Pairwise fun a b => b.1 < a.1 ∧ b.2 < a.2
  stored : ∀ e ∈ seen, before[e.1]? = some e.2
  hides : ∀ k w, before[k]? = some w → ∃ e ∈ seen, k ≤ e.1 ∧ e.2 ≤ w

/-- Looks upward from `index` for the first width below `bound`. -/
def scanUp (widths : List Nat) (bound : Nat) : Nat → Option Nat
  | 0 => none
  | index + 1 =>
      if ∃ w ∈ widths[index]?, w < bound then some index else scanUp widths bound index

theorem scanUp_eq_some_iff (widths : List Nat) (bound index j : Nat) :
    scanUp widths bound index = some j ↔
      IsGreatest {j | j < index ∧ ∃ w ∈ widths[j]?, w < bound} j := by
  induction index with
  | zero => simp [scanUp, IsGreatest]
  | succ index ih =>
      simp only [scanUp]
      split
      · rename_i h
        constructor
        · intro hj
          obtain rfl : index = j := by simpa using hj
          exact ⟨⟨by omega, h⟩, fun k hk => by have := hk.1; omega⟩
        · intro hj
          have hle : index ≤ j := hj.2 ⟨by omega, h⟩
          have hlt : j < index + 1 := hj.1.1
          have he : j = index := by omega
          rw [he]
      · rename_i h
        rw [ih]
        have hset : {j | j < index + 1 ∧ ∃ w ∈ widths[j]?, w < bound} =
            {j | j < index ∧ ∃ w ∈ widths[j]?, w < bound} := by
          ext k
          constructor
          · rintro ⟨hk, hw⟩
            refine ⟨?_, hw⟩
            have hne : k ≠ index := fun he => h (he ▸ hw)
            omega
          · rintro ⟨hk, hw⟩
            exact ⟨by omega, hw⟩
        rw [hset]

theorem scanUp_eq_none_iff (widths : List Nat) (bound index : Nat) :
    scanUp widths bound index = none ↔
      {j | j < index ∧ ∃ w ∈ widths[j]?, w < bound} = ∅ := by
  induction index with
  | zero => simp [scanUp]
  | succ index ih =>
      simp only [scanUp]
      split
      · rename_i h
        constructor
        · intro hn
          simp at hn
        · intro he
          have hm : index ∈ {j | j < index + 1 ∧ ∃ w ∈ widths[j]?, w < bound} := ⟨by omega, h⟩
          rw [he] at hm
          exact hm.elim
      · rename_i h
        rw [ih, Set.eq_empty_iff_forall_notMem, Set.eq_empty_iff_forall_notMem]
        constructor
        · rintro hn k ⟨hk, hw⟩
          have hne : k ≠ index := fun he => h (he ▸ hw)
          exact hn k ⟨by omega, hw⟩
        · rintro hn k ⟨hk, hw⟩
          exact hn k ⟨by omega, hw⟩

namespace Exposes

variable {before : List Nat} {seen : List (Nat × Nat)}

theorem nil : Exposes [] [] := ⟨.nil, by simp, by simp⟩

/-- Widths fall along the candidates, so those that a width hides stand in front. -/
theorem mem_dropWhile_iff (h : Exposes before seen) (width : Nat) (e : Nat × Nat) :
    e ∈ seen.dropWhile (fun entry => width ≤ entry.2) ↔ e ∈ seen ∧ e.2 < width := by
  have hf := h.falling
  clear h
  induction seen with
  | nil => simp
  | cons a seen ih =>
      rw [List.pairwise_cons] at hf
      by_cases ha : width ≤ a.2
      · have ht := ih hf.2
        rw [List.dropWhile_cons_of_pos (by simpa using ha)]
        constructor
        · intro he
          obtain ⟨hm, hlt⟩ := ht.mp he
          exact ⟨List.mem_cons_of_mem a hm, hlt⟩
        · rintro ⟨he, hlt⟩
          rcases List.mem_cons.mp he with rfl | he
          · omega
          · exact ht.mpr ⟨he, hlt⟩
      · rw [List.dropWhile_cons_of_neg (by simpa using ha)]
        refine ⟨fun he => ⟨he, ?_⟩, And.left⟩
        rcases List.mem_cons.mp he with rfl | he
        · omega
        · have := (hf.1 e he).2
          omega

theorem index_lt (h : Exposes before seen) {e : Nat × Nat} (he : e ∈ seen) :
    e.1 < before.length :=
  (List.getElem?_eq_some_iff.mp (h.stored e he)).1

theorem step (h : Exposes before seen) (width : Nat) :
    Exposes (before ++ [width])
      ((before.length, width) :: seen.dropWhile fun entry => width ≤ entry.2) := by
  refine ⟨?_, ?_, ?_⟩
  · rw [List.pairwise_cons]
    refine ⟨?_, h.falling.sublist (List.dropWhile_sublist _)⟩
    intro e he
    obtain ⟨hs, hlt⟩ := (h.mem_dropWhile_iff width e).mp he
    exact ⟨h.index_lt hs, hlt⟩
  · intro e he
    rcases List.mem_cons.mp he with rfl | he
    · simp
    · have hs := ((h.mem_dropWhile_iff width e).mp he).1
      rw [List.getElem?_append_left (h.index_lt hs)]
      exact h.stored e hs
  · intro k w hk
    by_cases hlen : k < before.length
    · rw [List.getElem?_append_left hlen] at hk
      obtain ⟨e, he, hke, hew⟩ := h.hides k w hk
      by_cases hlt : e.2 < width
      · exact ⟨e, List.mem_cons_of_mem _ ((h.mem_dropWhile_iff width e).mpr ⟨he, hlt⟩), hke, hew⟩
      · exact ⟨(before.length, width), List.mem_cons_self, by simp only; omega,
          by simp only; omega⟩
    · rw [List.getElem?_append_right (by omega)] at hk
      obtain ⟨hk0, rfl⟩ : k - before.length = 0 ∧ width = w := by
        rw [List.getElem?_singleton] at hk
        split at hk <;> simp_all
      exact ⟨(before.length, width), List.mem_cons_self, by simp only; omega, Nat.le_refl _⟩

/-- The first candidate that a width does not hide is the nearest smaller width. -/
theorem head?_dropWhile (h : Exposes before seen) (width : Nat) (rest : List Nat) :
    (seen.dropWhile fun entry => width ≤ entry.2).head?.map (·.1) =
      scanUp (before ++ rest) width before.length := by
  have hback : ∀ k, k < before.length → (before ++ rest)[k]? = before[k]? := fun k hk =>
    List.getElem?_append_left hk
  cases hs : seen.dropWhile fun entry => width ≤ entry.2 with
  | nil =>
      symm
      rw [List.head?_nil, Option.map_none, scanUp_eq_none_iff,
        Set.eq_empty_iff_forall_notMem]
      rintro k ⟨hk, w, hw, hlt⟩
      rw [hback k hk] at hw
      obtain ⟨e, he, _, hew⟩ := h.hides k w hw
      have hm := (h.mem_dropWhile_iff width e).mpr ⟨he, by omega⟩
      simp [hs] at hm
  | cons e left =>
      symm
      have hleft : ∀ d ∈ e :: left, d ∈ seen ∧ d.2 < width := by
        intro d hd
        rw [← hs] at hd
        exact (h.mem_dropWhile_iff width d).mp hd
      obtain ⟨hmem, hlt⟩ := hleft e List.mem_cons_self
      have hfall : (e :: left).Pairwise fun a b => b.1 < a.1 ∧ b.2 < a.2 := by
        rw [← hs]
        exact h.falling.sublist (List.dropWhile_sublist _)
      rw [List.head?_cons, Option.map_some, scanUp_eq_some_iff]
      refine ⟨⟨h.index_lt hmem, e.2, ?_, hlt⟩, ?_⟩
      · rw [hback _ (h.index_lt hmem)]
        exact h.stored e hmem
      · rintro k ⟨hk, w, hw, hkw⟩
        rw [hback k hk] at hw
        obtain ⟨d, hd, hkd, hdw⟩ := h.hides k w hw
        have hm := (h.mem_dropWhile_iff width d).mpr ⟨hd, by omega⟩
        rw [hs] at hm
        rcases List.mem_cons.mp hm with rfl | hm
        · exact hkd
        · have := ((List.pairwise_cons.mp hfall).1 d hm).1
          omega

end Exposes

/-- The run from candidates for what is done equals the look upward from every further line. -/
theorem nearestSmallerFrom_eq_scanUp {before : List Nat} {seen : List (Nat × Nat)}
    (h : Exposes before seen) (rest : List Nat) :
    nearestSmallerFrom seen before.length rest =
      rest.mapIdx fun i width => scanUp (before ++ rest) width (before.length + i) := by
  induction rest generalizing before seen with
  | nil => rfl
  | cons width rest ih =>
      have ht := ih (h.step width)
      simp only [List.length_append, List.length_singleton, List.append_assoc,
        List.singleton_append] at ht
      rw [nearestSmallerFrom, List.mapIdx_cons, Nat.add_zero, h.head?_dropWhile width, ht]
      congr 1
      apply List.mapIdx_eq_mapIdx_iff.mpr
      intro i _
      rw [Nat.add_assoc, Nat.add_comm 1 i]

theorem nearestSmaller_eq_scanUp (widths : List Nat) :
    nearestSmaller widths = widths.mapIdx fun i width => scanUp widths width i := by
  simpa [nearestSmaller] using nearestSmallerFrom_eq_scanUp Exposes.nil widths

end RibTree
