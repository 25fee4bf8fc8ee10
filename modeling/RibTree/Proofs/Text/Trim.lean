import Mathlib.Data.List.TakeWhile
import RibTree.Proofs.Text.Line
import RibTree.Text.Blank

/-!
# Blanks around a line

Blanks at the ends of a text do not count when it is trimmed, and the indentation of a line that
has anything else on it stays within the line.
-/

namespace RibTree.Text

set_option autoImplicit false

variable {s t u : List Char}

theorem trimStart_eq_nil_iff : trimStart s = [] ↔ ∀ c ∈ s, isBlank c = true := by
  rw [trimStart, List.dropWhile_eq_nil_iff]

theorem trimStart_append_of_blank (hu : ∀ c ∈ u, isBlank c = true) (s : List Char) :
    trimStart (u ++ s) = trimStart s := List.dropWhile_append_of_pos hu

theorem trimEnd_append_of_blank (ht : ∀ c ∈ t, isBlank c = true) (s : List Char) :
    trimEnd (s ++ t) = trimEnd s := by
  have hreverse : ∀ c ∈ t.reverse, isBlank c = true := fun c hc => ht c (List.mem_reverse.mp hc)
  rw [trimEnd, List.reverse_append, List.dropWhile_append_of_pos hreverse, trimEnd]

theorem exists_trimEnd_append (s : List Char) : ∃ t, s = trimEnd s ++ t := by
  refine ⟨(s.reverse.takeWhile isBlank).reverse, ?_⟩
  rw [trimEnd, ← List.reverse_append, List.takeWhile_append_dropWhile, List.reverse_reverse]

theorem trim_eq_nil_of_blank (h : ∀ c ∈ s, isBlank c = true) : trim s = [] := by
  rw [trim, trimStart_eq_nil_iff.mpr h, trimEnd_nil]

theorem trim_eq_nil_iff : trim s = [] ↔ ∀ c ∈ s, isBlank c = true := by
  refine ⟨fun h => ?_, trim_eq_nil_of_blank⟩
  have hend : ∀ c ∈ trimStart s, isBlank c = true := by
    rw [trim, trimEnd, List.reverse_eq_nil_iff, List.dropWhile_eq_nil_iff] at h
    exact fun c hc => h c (List.mem_reverse.mpr hc)
  intro c hc
  rw [← indent_append_trimStart s] at hc
  rcases List.mem_append.mp hc with hc | hc
  · exact isBlank_of_mem_indent hc
  · exact hend c hc

/-- A text that is not blank is its indentation and then a character that is not blank. -/
theorem exists_eq_indent_append (h : trim s ≠ []) :
    ∃ c t, isBlank c = false ∧ s = indent s ++ c :: t := by
  cases hstart : trimStart s with
  | nil =>
      rw [trim, hstart] at h
      exact absurd trimEnd_nil h
  | cons c t =>
      refine ⟨c, t, ?_, ?_⟩
      · have hhead := List.head?_dropWhile_not isBlank s
        rw [trimStart] at hstart
        rw [hstart] at hhead
        simpa using hhead
      · rw [← hstart, indent_append_trimStart]

theorem trim_between (hu : ∀ c ∈ u, isBlank c = true) (ht : ∀ c ∈ t, isBlank c = true)
    (s : List Char) : trim (u ++ s ++ t) = trim s := by
  rw [List.append_assoc, trim, trimStart_append_of_blank hu]
  by_cases hs : ∀ c ∈ s, isBlank c = true
  · rw [trimStart_append_of_blank hs, trimStart_eq_nil_iff.mpr ht, trim_eq_nil_of_blank hs,
      trimEnd_nil]
  · have hne : trimStart s ≠ [] := fun h => hs (trimStart_eq_nil_iff.mp h)
    have hstart : trimStart (s ++ t) = trimStart s ++ t := by
      rw [trimStart, List.dropWhile_append, if_neg (by simpa [trimStart] using hne), trimStart]
    rw [hstart, trimEnd_append_of_blank ht, trim]

theorem exists_of_mem_segments {piece : List Char} (h : piece ∈ segments s) :
    ∃ line, '\n' ∉ line ∧ (piece = line ∨ piece = line ++ ['\n']) := by
  induction s generalizing piece with
  | nil => simp at h
  | cons c s ih =>
      by_cases hc : c = '\n'
      · rw [segments, if_pos hc] at h
        rcases List.mem_cons.mp h with rfl | h
        · exact ⟨[], by simp, Or.inr (by rw [hc]; rfl)⟩
        · exact ih h
      · have hcons : ∀ {line : List Char}, '\n' ∉ line → '\n' ∉ c :: line := fun hl hm =>
          (List.mem_cons.mp hm).elim (fun he => hc he.symm) hl
        rw [segments_cons_of_ne hc] at h
        cases hs : segments s with
        | nil =>
            rw [hs] at h
            obtain rfl := List.mem_singleton.mp h
            exact ⟨[c], hcons (by simp), Or.inl rfl⟩
        | cons first rest =>
            rw [hs] at h ih
            rcases List.mem_cons.mp h with rfl | h
            · obtain ⟨line, hline, hfirst⟩ := ih List.mem_cons_self
              refine ⟨c :: line, hcons hline, ?_⟩
              rcases hfirst with rfl | rfl
              · exact Or.inl rfl
              · exact Or.inr rfl
            · exact ih (List.mem_cons_of_mem first h)

theorem newline_notMem_indent {piece : List Char} (h : piece ∈ segments s)
    (htrim : trim piece ≠ []) : '\n' ∉ indent piece := by
  intro hm
  obtain ⟨line, hline, rfl | rfl⟩ := exists_of_mem_segments h
  · exact hline ((List.takeWhile_prefix _).subset hm)
  · by_cases hblank : ∀ c ∈ line, isBlank c = true
    · apply htrim
      apply trim_eq_nil_of_blank
      intro c hc
      rcases List.mem_append.mp hc with hc | hc
      · exact hblank c hc
      · rw [List.mem_singleton.mp hc]
        decide
    · have hshort : ¬ (line.takeWhile isBlank).length = line.length := by
        intro hlen
        have hall := (List.takeWhile_prefix isBlank (l := line)).eq_of_length hlen
        exact hblank fun c hc => isBlank_of_mem_indent (by rw [indent, hall]; exact hc)
      have hindent : indent (line ++ ['\n']) = indent line := by
        rw [indent, List.takeWhile_append, if_neg hshort, indent]
      rw [hindent] at hm
      exact hline ((List.takeWhile_prefix _).subset hm)

end RibTree.Text
