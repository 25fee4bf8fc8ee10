import RibTree.Proofs.Template.Fill
import RibTree.Proofs.Text.Trim

/-!
# Rewriting a text segment by segment

A piece that cannot be cut is a segment. When every segment of a text is rewritten into a segment
again, and whole lines into whole lines, the new text is cut just where the old one was.
-/

namespace RibTree.Text

set_option autoImplicit false

/-- A piece that is not cut: it is not empty, and only its last character can be a line feed. -/
def IsSegment (piece : List Char) : Prop := segments piece = [piece]

variable {s t u piece : List Char} {change : List Char → List Char}

theorem IsSegment.exists_line (h : IsSegment piece) :
    ∃ line, '\n' ∉ line ∧ (piece = line ∨ piece = line ++ ['\n']) :=
  exists_of_mem_segments (s := piece) (by rw [h]; exact List.mem_cons_self)

theorem isSegment_of_notMem (h : '\n' ∉ piece) (hne : piece ≠ []) : IsSegment piece :=
  segments_of_notMem h hne

theorem isSegment_of_mem (h : piece ∈ segments s) : IsSegment piece := by
  obtain ⟨line, hline, rfl | rfl⟩ := exists_of_mem_segments h
  · exact isSegment_of_notMem hline (ne_nil_of_mem_segments h)
  · exact segments_concat hline

theorem IsSegment.append_left (h : IsSegment t) (hu : '\n' ∉ u) : IsSegment (u ++ t) :=
  segments_append_of_notMem hu h

theorem isSegment_append_iff (ht : t ≠ []) : IsSegment (u ++ t) ↔ '\n' ∉ u ∧ IsSegment t := by
  refine ⟨fun h => ?_, fun h => h.2.append_left h.1⟩
  obtain ⟨line, hline, hpiece | hpiece⟩ := h.exists_line
  · have hall : '\n' ∉ u ++ t := by rwa [hpiece]
    obtain ⟨hu, hnew⟩ := not_or.mp (mt List.mem_append.mpr hall)
    exact ⟨hu, isSegment_of_notMem hnew ht⟩
  · obtain ⟨front, last, rfl⟩ := (List.eq_nil_or_concat' t).resolve_left ht
    rw [← List.append_assoc] at hpiece
    obtain ⟨rfl, hlast⟩ := List.append_inj' hpiece rfl
    obtain ⟨hu, hfront⟩ := not_or.mp (mt List.mem_append.mpr hline)
    rw [hlast]
    exact ⟨hu, segments_concat hfront⟩

/-- Segments become segments, and those that end a line still do. -/
structure KeepsSegments (change : List Char → List Char) : Prop where
  isSegment : ∀ piece, IsSegment piece → IsSegment (change piece)
  wholeLines : ∀ piece, IsSegment piece → WholeLines piece → WholeLines (change piece)

theorem KeepsSegments.segments_flatMap (h : KeepsSegments change) (s : List Char) :
    segments ((segments s).flatMap change) = (segments s).map change := by
  generalize hs : segments s = pieces
  induction pieces generalizing s with
  | nil => rfl
  | cons piece pieces ih =>
      obtain ⟨hpiece, hpieces, hwhole⟩ := segments_tail hs
      have hnew : segments (change piece) = [change piece] := h.isSegment piece hpiece
      rw [List.flatMap_cons, List.map_cons]
      by_cases hlast : pieces = []
      · rw [hlast, List.flatMap_nil, List.append_nil, hnew, List.map_nil]
      · rw [segments_append (h.wholeLines piece hpiece (hwhole hlast)), hnew, ih _ hpieces,
          List.singleton_append]

/-- What a line loses are the characters of a line end. -/
theorem exists_chomp_append (s : List Char) :
    ∃ ending, s = chomp s ++ ending ∧ ∀ c ∈ ending, c = '\r' ∨ c = '\n' := by
  fun_induction chomp s with
  | case1 => exact ⟨[], rfl, by simp⟩
  | case2 => exact ⟨['\n'], rfl, by simp⟩
  | case3 => exact ⟨['\r', '\n'], rfl, by simp⟩
  | case4 c s _ _ ih =>
      obtain ⟨ending, hs, hending⟩ := ih
      exact ⟨ending, by rw [List.cons_append, ← hs], hending⟩

end RibTree.Text
