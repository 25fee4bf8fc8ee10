import Mathlib.Data.List.Basic
import RibTree.Text.Line

/-!
# Cutting a text into lines

A text whose last character is a line feed can be put in front of another one without a change to
the lines of either. Everything that edits a text line by line rests on that.
-/

namespace RibTree.Text

set_option autoImplicit false

/-- The text consists of whole lines, so that what follows it begins a line. -/
def WholeLines (s : List Char) : Prop := ∀ c ∈ s.getLast?, c = '\n'

theorem wholeLines_nil : WholeLines [] := by simp [WholeLines]

theorem wholeLines_concat (s : List Char) : WholeLines (s ++ ['\n']) := by
  intro c hc
  simpa [eq_comm] using hc

theorem WholeLines.append {s t : List Char} (hs : WholeLines s) (ht : WholeLines t) :
    WholeLines (s ++ t) := by
  intro c hc
  rw [List.getLast?_append] at hc
  cases h : t.getLast? with
  | none => exact hs c (by simpa [h] using hc)
  | some d =>
      obtain rfl : d = c := by simpa [h] using hc
      exact ht d h

theorem segments_ne_nil {s : List Char} (h : s ≠ []) : segments s ≠ [] := by
  intro hs
  apply h
  rw [← flatten_segments s, hs, List.flatten_nil]

theorem segments_cons_of_ne {c : Char} (h : c ≠ '\n') (s : List Char) :
    segments (c :: s) =
      match segments s with
      | [] => [[c]]
      | piece :: pieces => (c :: piece) :: pieces := by
  cases hs : segments s with
  | nil => simp [segments, h, hs]
  | cons piece pieces => simp [segments, h, hs]

theorem segments_append {s : List Char} (h : WholeLines s) (t : List Char) :
    segments (s ++ t) = segments s ++ segments t := by
  induction s with
  | nil => rfl
  | cons c s ih =>
      cases hs : s with
      | nil =>
          obtain rfl : c = '\n' := h c (by simp [hs])
          simp [segments]
      | cons d rest =>
          have hw : WholeLines s := fun e he => h e (by simpa [hs] using he)
          have hne : segments s ≠ [] := segments_ne_nil (by simp [hs])
          rw [← hs, List.cons_append]
          by_cases hc : c = '\n'
          · simp [segments, hc, ih hw]
          · rw [segments_cons_of_ne hc, segments_cons_of_ne hc, ih hw]
            cases hp : segments s with
            | nil => exact absurd hp hne
            | cons piece pieces => rfl

theorem segments_of_notMem {s : List Char} (h : '\n' ∉ s) (hne : s ≠ []) : segments s = [s] := by
  induction s with
  | nil => exact absurd rfl hne
  | cons c s ih =>
      have hc : c ≠ '\n' := fun he => h (by simp [he])
      rw [segments_cons_of_ne hc]
      by_cases hs : s = []
      · simp [hs]
      · rw [ih (fun hm => h (List.mem_cons_of_mem c hm)) hs]

theorem segments_concat {s : List Char} (h : '\n' ∉ s) : segments (s ++ ['\n']) = [s ++ ['\n']] := by
  induction s with
  | nil => rfl
  | cons c s ih =>
      have hc : c ≠ '\n' := fun he => h (by simp [he])
      rw [List.cons_append, segments_cons_of_ne hc,
        ih (fun hm => h (List.mem_cons_of_mem c hm))]

/-- A segment is not cut again, what follows it is cut as before, and only the last segment can lack
its line feed. -/
theorem segments_tail {s piece : List Char} {pieces : List (List Char)}
    (h : segments s = piece :: pieces) :
    segments piece = [piece] ∧ segments pieces.flatten = pieces ∧
      (pieces ≠ [] → WholeLines piece) := by
  induction s generalizing piece with
  | nil => simp at h
  | cons c s ih =>
      by_cases hc : c = '\n'
      · simp only [segments, hc, if_true, List.cons.injEq] at h
        obtain ⟨rfl, rfl⟩ := h
        exact ⟨rfl, by rw [flatten_segments], fun _ => wholeLines_concat []⟩
      · rw [segments_cons_of_ne hc] at h
        cases hs : segments s with
        | nil =>
            simp only [hs, List.cons.injEq] at h
            obtain ⟨rfl, rfl⟩ := h
            exact ⟨by simp [segments_cons_of_ne hc], rfl, fun hne => absurd rfl hne⟩
        | cons first rest =>
            simp only [hs, List.cons.injEq] at h
            obtain ⟨rfl, rfl⟩ := h
            obtain ⟨hone, hseg, hw⟩ := ih hs
            refine ⟨by simp [segments_cons_of_ne hc, hone], hseg, fun hne d hd => hw hne d ?_⟩
            have hf : first ≠ [] := ne_nil_of_mem_segments (s := s) (by simp [hs])
            obtain ⟨e, tail, rfl⟩ := List.exists_cons_of_ne_nil hf
            simpa using hd

theorem segments_split {s : List Char} {before after : List (List Char)}
    (h : segments s = before ++ after) :
    segments before.flatten = before ∧ segments after.flatten = after ∧
      (after ≠ [] → WholeLines before.flatten) := by
  induction before generalizing s with
  | nil =>
      rw [List.nil_append] at h
      refine ⟨rfl, ?_, fun _ => wholeLines_nil⟩
      rw [← h, flatten_segments]
  | cons piece before ih =>
      obtain ⟨hone, hseg, hw⟩ := segments_tail h
      obtain ⟨hb, ha, hn⟩ := ih hseg
      refine ⟨?_, ha, ?_⟩
      · rw [List.flatten_cons]
        by_cases he : before = []
        · simpa [he] using hone
        · rw [segments_append (hw (by simp [he])), hone, hb]
          rfl
      · intro hne
        rw [List.flatten_cons]
        exact (hw (by simp [hne])).append (hn hne)

theorem chomp_cons_of_ne_nil {s : List Char} (h : s ≠ []) (c : Char)
    (hc : c = '\r' → s ≠ ['\n']) : chomp (c :: s) = c :: chomp s := by
  rw [chomp]
  · rintro - rfl
    exact h rfl
  · intro hr hs
    exact hc hr hs

theorem chomp_concat {s : List Char} (h : s.getLast? ≠ some '\r') : chomp (s ++ ['\n']) = s := by
  induction s with
  | nil => rfl
  | cons c s ih =>
      rw [List.cons_append, chomp_cons_of_ne_nil (by simp)]
      · cases s with
        | nil => rfl
        | cons d s => rw [ih (by simpa using h)]
      · rintro rfl hs
        obtain rfl : s = [] := by simpa using hs
        exact h rfl

theorem chomp_of_notMem {s : List Char} (h : '\n' ∉ s) : chomp s = s := by
  induction s with
  | nil => rfl
  | cons c s ih =>
      have hs : '\n' ∉ s := fun hm => h (List.mem_cons_of_mem c hm)
      by_cases hn : s = []
      · subst hn
        rw [chomp]
        · rfl
        · rintro rfl -
          exact h (by simp)
        · simp
      · rw [chomp_cons_of_ne_nil hn c (fun _ he => hs (by simp [he])), ih hs]

theorem lines_append {s : List Char} (h : WholeLines s) (t : List Char) :
    lines (s ++ t) = lines s ++ lines t := by
  rw [lines, segments_append h, List.map_append]
  rfl

theorem lines_of_notMem {s : List Char} (h : '\n' ∉ s) (hne : s ≠ []) : lines s = [s] := by
  rw [lines, segments_of_notMem h hne, List.map_singleton, chomp_of_notMem h]

theorem lines_concat {s : List Char} (h : '\n' ∉ s) (hr : s.getLast? ≠ some '\r') :
    lines (s ++ ['\n']) = [s] := by
  rw [lines, segments_concat h, List.map_singleton, chomp_concat hr]

end RibTree.Text
