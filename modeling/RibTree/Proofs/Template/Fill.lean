import RibTree.Proofs.Text.Line
import RibTree.Proofs.Text.Occurrence
import RibTree.Template.Basic

/-!
# Filled texts

A text in which a character stands for a hole. Filling the holes with a mark and replacing the
mark is filling them with the replacement. A filled text has the lines of the text, filled, and
inherits from it which characters do not stand side by side.
-/

namespace RibTree.Text

set_option autoImplicit false

/-- The text with `new` in the place of every hole. -/
def fill (hole : Char) (new s : List Char) : List Char :=
  s.flatMap fun c => if c = hole then new else [c]

variable {hole : Char} {new s t : List Char}

@[simp] theorem fill_nil (hole : Char) (new : List Char) : fill hole new [] = [] := rfl

theorem fill_hole (hole : Char) (new s : List Char) :
    fill hole new (hole :: s) = new ++ fill hole new s := by simp [fill]

theorem fill_cons_of_ne {c : Char} (h : c ≠ hole) (new s : List Char) :
    fill hole new (c :: s) = c :: fill hole new s := by simp [fill, h]

theorem fill_append (hole : Char) (new s t : List Char) :
    fill hole new (s ++ t) = fill hole new s ++ fill hole new t := List.flatMap_append

theorem fill_of_notMem (h : hole ∉ s) : fill hole new s = s := by
  induction s with
  | nil => rfl
  | cons c s ih =>
      have hc : c ≠ hole := fun he => h (by simp [he])
      rw [fill_cons_of_ne hc, ih fun hm => h (List.mem_cons_of_mem c hm)]

theorem replaceAll_mark_append {mark : List Char} (hmark : mark ≠ []) (t : List Char) :
    replaceAll mark new (mark ++ t) = new ++ replaceAll mark new t := by
  obtain ⟨first, rest, rfl⟩ := List.exists_cons_of_ne_nil hmark
  have hprefix : (first :: rest).isPrefixOf (first :: (rest ++ t)) = true :=
    List.isPrefixOf_iff_prefix.mpr ⟨t, by simp⟩
  rw [replaceAll, List.cons_append, replaceFrom, if_pos hprefix, List.length_cons,
    Nat.add_sub_cancel, replaceFrom_append, replaceAll]

/-- A beginning of the text at which the mark stands nowhere stays as it is. -/
theorem replaceAll_append_of_not_prefix {mark p t : List Char}
    (h : ∀ x y, p = x ++ y → y ≠ [] → ¬ mark <+: y ++ t) :
    replaceAll mark new (p ++ t) = p ++ replaceAll mark new t := by
  induction p with
  | nil => rfl
  | cons c p ih =>
      have hc : ¬ mark.isPrefixOf (c :: (p ++ t)) = true := by
        rw [List.isPrefixOf_iff_prefix]
        exact h [] (c :: p) rfl (by simp)
      have hp := ih fun x y hxy hy => h (c :: x) y (by simp [hxy]) hy
      rw [replaceAll] at hp ⊢
      rw [List.cons_append, replaceFrom, if_neg hc, hp, List.cons_append]

/-- Where the text itself has no beginning of a mark, the marks that fill it are the ones found. -/
theorem replaceAll_fill {first : Char} {rest : List Char} (h : first ∉ s) :
    replaceAll (first :: rest) new (fill hole (first :: rest) s) = fill hole new s := by
  induction s with
  | nil => rfl
  | cons c s ih =>
      obtain ⟨hc, hs⟩ := not_or.mp (mt List.mem_cons.mpr h)
      by_cases he : c = hole
      · subst he
        rw [fill_hole, fill_hole, replaceAll_mark_append (by simp), ih hs]
      · have hprefix : ¬ (first :: rest).isPrefixOf (c :: fill hole (first :: rest) s) = true := by
          simp [hc]
        rw [replaceAll] at ih ⊢
        rw [fill_cons_of_ne he, fill_cons_of_ne he, replaceFrom, if_neg hprefix, ih hs]

/-- Characters that belong to no line end go to the first line of what follows them. -/
theorem segments_append_of_notMem {u : List Char} (hu : '\n' ∉ u) {piece : List Char}
    {pieces : List (List Char)} (h : segments t = piece :: pieces) :
    segments (u ++ t) = (u ++ piece) :: pieces := by
  induction u with
  | nil => exact h
  | cons c u ih =>
      obtain ⟨hc, hrest⟩ := not_or.mp (mt List.mem_cons.mpr hu)
      rw [List.cons_append, segments_cons_of_ne (Ne.symm hc), ih hrest]
      rfl

theorem segments_fill (hhole : hole ≠ '\n') (hnew : '\n' ∉ new) (hne : new ≠ []) (s : List Char) :
    segments (fill hole new s) = (segments s).map (fill hole new) := by
  induction s with
  | nil => rfl
  | cons c s ih =>
      by_cases hend : c = '\n'
      · subst hend
        rw [fill_cons_of_ne (Ne.symm hhole), segments, if_pos rfl, ih, segments, if_pos rfl,
          List.map_cons, fill_cons_of_ne (Ne.symm hhole), fill_nil]
      · have hfront : fill hole new (c :: s) = fill hole new [c] ++ fill hole new s := by
          rw [← fill_append, List.singleton_append]
        have hone : '\n' ∉ fill hole new [c] := by
          by_cases he : c = hole
          · simpa [fill, he] using hnew
          · simpa [fill, he] using Ne.symm hend
        rw [hfront, segments_cons_of_ne hend]
        cases hs : segments s with
        | nil =>
            have hnone : fill hole new [c] ≠ [] := by
              by_cases he : c = hole
              · simpa [fill, he] using hne
              · simp [fill, he]
            have hempty : s = [] := by rw [← flatten_segments s, hs, List.flatten_nil]
            rw [hempty, fill_nil, List.append_nil, segments_of_notMem hone hnone]
            rfl
        | cons piece pieces =>
            rw [hs, List.map_cons] at ih
            rw [segments_append_of_notMem hone ih, ← fill_append]
            rfl

theorem head?_of_head?_fill {b : Char} (hb : b ∉ new) (hne : new ≠ [])
    (h : (fill hole new s).head? = some b) : s.head? = some b := by
  cases s with
  | nil => simp at h
  | cons c s =>
      by_cases he : c = hole
      · rw [he, fill_hole, List.head?_append_of_ne_nil _ hne] at h
        exact absurd (List.mem_of_head? h) hb
      · rw [fill_cons_of_ne he] at h
        simpa using h

/-- What fills a text does not bring together what the text keeps apart. -/
theorem apart_fill {a b : Char} (hb : b ∉ new) (hne : new ≠ []) (hapart : Apart a b s)
    (hhole : Apart hole b s) : Apart a b (fill hole new s) := by
  induction s with
  | nil => exact hapart
  | cons c s ih =>
      rw [← List.singleton_append, apart_append_iff] at hapart hhole
      rw [← List.singleton_append, fill_append, apart_append_iff]
      refine ⟨?_, ih hapart.2.1 hhole.2.1, ?_⟩
      · by_cases he : c = hole
        · rw [he, fill_hole]
          simpa using apart_of_notMem hb
        · rw [fill_cons_of_ne he, fill_nil]
          exact List.IsChain.singleton c
      · intro hlast hhead
        have hnext : s.head? = some b := head?_of_head?_fill hb hne hhead
        by_cases he : c = hole
        · exact hhole.2.2 (by simp [he]) hnext
        · rw [fill_cons_of_ne he, fill_nil] at hlast
          exact hapart.2.2 hlast hnext

end RibTree.Text
