import Mathlib.Data.List.TakeWhile
import RibTree.Proofs.Declaration.Recognition

/-!
# Lines above the anchor

Lines that are put above the anchor one after the other stand there in that order, and everything
else stays. An insertion declares what its line declares and keeps whatever was declared.
-/

namespace RibTree.Declaration

set_option autoImplicit false

open Text

/-- Some line of the source reads like the anchor. -/
def HasAnchor (anchor source : List Char) : Prop :=
  ∃ segment ∈ segments source, trim segment = anchor

instance (anchor source : List Char) : Decidable (HasAnchor anchor source) :=
  inferInstanceAs (Decidable (∃ segment ∈ segments source, _))

/-- The line as it is written beside a segment. -/
def placed (segment line : List Char) : List Char :=
  indent segment ++ line ++ lineEnd segment

/-- The source with lines above its first anchor line. -/
def withLines (anchor : List Char) (lines : List (List Char)) (source : List Char) : List Char :=
  let before := (segments source).takeWhile (trim · ≠ anchor)
  match (segments source).dropWhile (trim · ≠ anchor) with
  | [] => source
  | segment :: rest =>
      before.flatten ++ (lines.map (placed segment)).flatten ++ (segment :: rest).flatten

/-- A source is cut at its first anchor line. -/
structure Cut (anchor source : List Char) (before : List (List Char)) (segment : List Char)
    (rest : List (List Char)) : Prop where
  segments_eq : segments source = before ++ segment :: rest
  notBefore : ∀ piece ∈ before, trim piece ≠ anchor
  trim_eq : trim segment = anchor

section

variable {anchor source segment : List Char} {before rest : List (List Char)}

theorem exists_cut (h : HasAnchor anchor source) :
    ∃ before segment rest, Cut anchor source before segment rest := by
  have hfind : ((segments source).find? fun s => trim s = anchor).isSome = true := by
    obtain ⟨segment, hmem, ht⟩ := h
    rw [List.find?_isSome]
    exact ⟨segment, hmem, by simpa using ht⟩
  obtain ⟨segment, hs⟩ := Option.isSome_iff_exists.mp hfind
  obtain ⟨ht, before, rest, heq, hbefore⟩ := List.find?_eq_some_iff_append.mp hs
  exact ⟨before, segment, rest, heq, by simpa using hbefore, by simpa using ht⟩

theorem insertInto_eq_none {line : List Char} {pieces : List (List Char)}
    (h : ∀ piece ∈ pieces, trim piece ≠ anchor) : insertInto anchor line pieces = none := by
  induction pieces with
  | nil => rfl
  | cons piece pieces ih =>
      rw [insertInto, if_neg (h piece List.mem_cons_self),
        ih fun p hp => h p (List.mem_cons_of_mem piece hp)]
      rfl

theorem insertInto_append {line : List Char} (hbefore : ∀ piece ∈ before, trim piece ≠ anchor)
    (hsegment : trim segment = anchor) :
    insertInto anchor line (before ++ segment :: rest) =
      some (before.flatten ++ placed segment line ++ (segment :: rest).flatten) := by
  induction before with
  | nil => simp [insertInto, hsegment, placed]
  | cons piece before ih =>
      rw [List.cons_append, insertInto, if_neg (hbefore piece List.mem_cons_self),
        ih fun p hp => hbefore p (List.mem_cons_of_mem piece hp)]
      simp

theorem hasAnchor_of_insertInto {line updated : List Char}
    (h : insertInto anchor line (segments source) = some updated) : HasAnchor anchor source := by
  by_contra hno
  have hnone : ∀ piece ∈ segments source, trim piece ≠ anchor := fun piece hp he =>
    hno ⟨piece, hp, he⟩
  rw [insertInto_eq_none hnone] at h
  exact absurd h (by simp)

namespace Cut

theorem source_eq (h : Cut anchor source before segment rest) :
    source = before.flatten ++ (segment :: rest).flatten := by
  rw [← flatten_segments source, h.segments_eq, List.flatten_append]

theorem insertInto_eq (h : Cut anchor source before segment rest) (line : List Char) :
    insertInto anchor line (segments source) =
      some (before.flatten ++ placed segment line ++ (segment :: rest).flatten) := by
  rw [h.segments_eq, insertInto_append h.notBefore h.trim_eq]

theorem withLines_eq (h : Cut anchor source before segment rest) (lines : List (List Char)) :
    withLines anchor lines source =
      before.flatten ++ (lines.map (placed segment)).flatten ++ (segment :: rest).flatten := by
  have hall : ∀ piece ∈ before, decide (trim piece ≠ anchor) = true := by simpa using h.notBefore
  have htake : (segment :: rest).takeWhile (trim · ≠ anchor) = [] := by
    rw [List.takeWhile_cons]
    simp [h.trim_eq]
  have hdrop : (segment :: rest).dropWhile (trim · ≠ anchor) = segment :: rest := by
    rw [List.dropWhile_cons]
    simp [h.trim_eq]
  rw [withLines, h.segments_eq, List.takeWhile_append_of_pos hall,
    List.dropWhile_append_of_pos hall, htake, hdrop, List.append_nil]

theorem wholeLines_before (h : Cut anchor source before segment rest) :
    WholeLines before.flatten :=
  (segments_split h.segments_eq).2.2 (by simp)

end Cut

theorem withLines_nil (anchor source : List Char) : withLines anchor [] source = source := by
  by_cases h : HasAnchor anchor source
  · obtain ⟨before, segment, rest, hcut⟩ := exists_cut h
    rw [hcut.withLines_eq]
    simpa using hcut.source_eq.symm
  · have hnone : (segments source).dropWhile (trim · ≠ anchor) = [] := by
      rw [List.dropWhile_eq_nil_iff]
      intro piece hp
      simpa using fun he => h ⟨piece, hp, he⟩
    rw [withLines, hnone]

theorem wholeLines_placed (segment line : List Char) : WholeLines (placed segment line) := by
  rw [placed, lineEnd]
  split
  · simpa using wholeLines_concat (indent segment ++ line ++ ['\r'])
  · exact wholeLines_concat _

end

section

variable {anchor source : List Char} {child : String}

/-- What an insertion adds is declared by the line that it adds. -/
theorem occursAfter_insertInto (hchild : '\n' ∉ child.toList) {line updated : List Char}
    (h : insertInto anchor line (segments source) = some updated) :
    ∃ segment, occursAfter (construction child).toList canPrecede updated =
      (occursAfter (construction child).toList canPrecede source ||
        occursAfter (construction child).toList canPrecede (placed segment line)) := by
  obtain ⟨before, segment, rest, hcut⟩ := exists_cut (hasAnchor_of_insertInto h)
  rw [hcut.insertInto_eq, Option.some.injEq] at h
  have hcat : ∀ s t, WholeLines s → occursAfter (construction child).toList canPrecede (s ++ t) =
      (occursAfter (construction child).toList canPrecede s ||
        occursAfter (construction child).toList canPrecede t) := fun s t hs =>
    occursAfter_append (newline_notMem_construction hchild) (construction_ne_nil child)
      (by decide) hs t
  refine ⟨segment, ?_⟩
  rw [← h, List.append_assoc, hcat _ _ hcut.wholeLines_before,
    hcat _ _ (wholeLines_placed segment line), hcut.source_eq, hcat _ _ hcut.wholeLines_before,
    Bool.or_assoc, Bool.or_comm (occursAfter _ _ (placed segment line))]

/-- A declaration outlives every insertion. -/
theorem isDeclared_insertAbove_of_isDeclared {anchor line source updated : String}
    (hchild : '\n' ∉ child.toList) (h : insertAbove anchor line source = some updated)
    (hdeclared : isDeclared child source = true) : isDeclared child updated = true := by
  obtain ⟨text, htext, rfl⟩ := Option.map_eq_some_iff.mp h
  obtain ⟨segment, hor⟩ := occursAfter_insertInto hchild htext
  rw [isDeclared, String.toList_ofList, hor]
  rw [isDeclared] at hdeclared
  rw [hdeclared, Bool.true_or]

theorem isDeclared_insertAbove {anchor source updated : String}
    (hnewline : '\n' ∉ child.toList) (hspace : ' ' ∉ child.toList)
    (h : insertAbove anchor (statement child) source = some updated) :
    isDeclared child updated = true := by
  obtain ⟨text, htext, rfl⟩ := Option.map_eq_some_iff.mp h
  obtain ⟨segment, hor⟩ := occursAfter_insertInto hnewline htext
  have hline := occursAfter_statement (fun c hc => isBlank_of_mem_indent (s := segment) hc)
    hspace (lineEnd segment)
  rw [isDeclared, String.toList_ofList, hor, placed, hline, Bool.or_true]

/-- Between words, an inserted statement declares no other child. -/
theorem isDeclared_insertAbove_of_ne {other anchor source updated : String}
    (hchild : IsWord child) (hother : IsWord other) (hne : child ≠ other)
    (h : insertAbove anchor (statement other) source = some updated) :
    isDeclared child updated = isDeclared child source := by
  obtain ⟨text, htext, rfl⟩ := Option.map_eq_some_iff.mp h
  obtain ⟨segment, hor⟩ := occursAfter_insertInto (hchild.notMem (by decide)) htext
  have hspace : ' ' ∉ lineEnd segment := by
    rw [lineEnd]
    split <;> decide
  have hline : occursAfter (construction child).toList canPrecede
      (placed segment (statement other).toList) = false := by
    by_contra ho
    rw [Bool.not_eq_false, placed] at ho
    exact hne (eq_of_occursAfter_statement (fun c hc => isBlank_of_mem_indent (s := segment) hc)
      hspace hchild hother ho)
  rw [isDeclared, String.toList_ofList, hor, hline, Bool.or_false, isDeclared]

end

end RibTree.Declaration
