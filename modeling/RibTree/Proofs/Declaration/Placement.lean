import RibTree.Proofs.Declaration.Series

/-!
# Where an inserted line stands

The line goes above the first segment that reads like the anchor. It begins with what that segment
begins with and ends as that segment ends, so it is a segment of its own, and without it the source
is back.
-/

namespace RibTree.Declaration

set_option autoImplicit false

open Text

/-- In the result the line stands above the segment at which the source is cut, between a margin
and an ending that it takes from that segment. -/
structure StandsAbove (anchor line source result : List Char) (before : List (List Char))
    (segment : List Char) (rest : List (List Char)) (margin ending : List Char) : Prop
    extends Cut anchor source before segment rest where
  source_eq : source = before.flatten ++ (segment :: rest).flatten
  result_eq : result = before.flatten ++ (margin ++ line ++ ending) ++ (segment :: rest).flatten
  wholeLines : WholeLines before.flatten
  margin_blank : ∀ c ∈ margin, isBlank c = true
  margin_whole : ∃ c tail, isBlank c = false ∧ segment = margin ++ c :: tail
  newline_notMem_margin : '\n' ∉ margin
  ending_of_return : ['\r', '\n'] <:+ segment → ending = ['\r', '\n']
  ending_of_not : ¬ ['\r', '\n'] <:+ segment → ending = ['\n']
  segments_result : segments result = before ++ (margin ++ line ++ ending) :: segment :: rest

namespace StandsAbove

variable {anchor line source result segment margin ending : List Char}
  {before rest : List (List Char)}

theorem length_segments
    (h : StandsAbove anchor line source result before segment rest margin ending) :
    (segments result).length = (segments source).length + 1 := by
  rw [h.segments_result, h.segments_eq]
  simp only [List.length_append, List.length_cons]
  omega

theorem flatten_eraseIdx
    (h : StandsAbove anchor line source result before segment rest margin ending) :
    ((segments result).eraseIdx before.length).flatten = source := by
  rw [h.segments_result, List.eraseIdx_append_of_length_le (Nat.le_refl _), Nat.sub_self,
    List.eraseIdx_cons_zero, List.flatten_append, ← h.source_eq]

end StandsAbove

theorem Cut.standsAbove {anchor line source segment : List Char} {before rest : List (List Char)}
    (h : Cut anchor source before segment rest) (hanchor : anchor ≠ []) (hline : '\n' ∉ line) :
    StandsAbove anchor line source
      (before.flatten ++ placed segment line ++ (segment :: rest).flatten)
      before segment rest (indent segment) (lineEnd segment) := by
  have hne : trim segment ≠ [] := by
    rw [h.trim_eq]
    exact hanchor
  have hsegments := h.segments_withLines hanchor (List.forall_mem_singleton.mpr hline)
  rw [h.withLines_eq, List.map_singleton, List.flatten_singleton] at hsegments
  exact {
    toCut := h
    source_eq := h.source_eq
    result_eq := rfl
    wholeLines := h.wholeLines_before
    margin_blank := fun c hc => isBlank_of_mem_indent hc
    margin_whole := exists_eq_indent_append hne
    newline_notMem_margin := h.newline_notMem_indent hanchor
    ending_of_return := fun hr => if_pos (List.isSuffixOf_iff_suffix.mpr hr)
    ending_of_not := fun hr => if_neg fun hs => hr (List.isSuffixOf_iff_suffix.mp hs)
    segments_result := by rw [hsegments, List.append_assoc]; rfl }

theorem insertAbove_eq_none_iff {anchor line source : String} :
    insertAbove anchor line source = none ↔
      ∀ segment ∈ segments source.toList, trim segment ≠ trim anchor.toList := by
  rw [insertAbove, Option.map_eq_none_iff]
  refine ⟨fun h segment hmem htrim => ?_, insertInto_eq_none⟩
  obtain ⟨before, first, rest, hcut⟩ := exists_cut ⟨segment, hmem, htrim⟩
  rw [hcut.insertInto_eq] at h
  exact absurd h (by simp)

/-- Nothing is inserted exactly if no line reads like the anchor. Otherwise the line stands above
the first one that does, and it is the one line more. -/
theorem insertAbove_exact {anchor line : String} (source : String)
    (hanchor : ∃ c ∈ anchor.toList, isBlank c = false) (hline : '\n' ∉ line.toList) :
    (insertAbove anchor line source = none ↔
      ∀ segment ∈ segments source.toList, trim segment ≠ trim anchor.toList) ∧
    ∀ result, insertAbove anchor line source = some result →
      ∃ before segment rest margin ending,
        StandsAbove (trim anchor.toList) line.toList source.toList result.toList
          before segment rest margin ending ∧
        (segments result.toList).length = (segments source.toList).length + 1 ∧
        ((segments result.toList).eraseIdx before.length).flatten = source.toList := by
  have hne : trim anchor.toList ≠ [] := by
    obtain ⟨c, hmem, hc⟩ := hanchor
    intro hnil
    have hblank := trim_eq_nil_iff.mp hnil c hmem
    rw [hc] at hblank
    exact absurd hblank (by decide)
  refine ⟨insertAbove_eq_none_iff, fun result h => ?_⟩
  obtain ⟨text, htext, rfl⟩ := Option.map_eq_some_iff.mp h
  obtain ⟨before, segment, rest, hcut⟩ := exists_cut (hasAnchor_of_insertInto htext)
  rw [hcut.insertInto_eq, Option.some.injEq] at htext
  have hstands := hcut.standsAbove hne hline
  rw [htext] at hstands
  rw [String.toList_ofList]
  exact ⟨before, segment, rest, indent segment, lineEnd segment, hstands,
    hstands.length_segments, hstands.flatten_eraseIdx⟩

/-- The first anchor line stands behind a wide blank and ends with a carriage return, and another
one below it is the last line of the source. -/
theorem insertAbove_exact_of_two_anchors :
    let source := "é\n\u3000// here \r\n\n// here"
    let result := "é\n\u3000let x = 1\r\n\u3000// here \r\n\n// here"
    insertAbove "  // here\t" "let x = 1" source = some result ∧
    ∃ before segment rest margin ending,
      StandsAbove (trim "  // here\t".toList) "let x = 1".toList source.toList result.toList
        before segment rest margin ending ∧
      (segments result.toList).length = (segments source.toList).length + 1 ∧
      ((segments result.toList).eraseIdx before.length).flatten = source.toList := by
  intro source result
  have hanchor : ∃ c ∈ "  // here\t".toList, isBlank c = false :=
    ⟨'h', by decide +kernel, by decide⟩
  have hline : '\n' ∉ "let x = 1".toList := by decide +kernel
  have hresult : insertAbove "  // here\t" "let x = 1" source = some result := by decide +kernel
  exact ⟨hresult, (insertAbove_exact source hanchor hline).2 result hresult⟩

end RibTree.Declaration
