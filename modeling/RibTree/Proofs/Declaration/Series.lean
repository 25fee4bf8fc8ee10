import RibTree.Proofs.Declaration.Insertion
import RibTree.Proofs.Text.Trim

/-!
# Declarations one after the other

A parent's builder that gets its children one by one is its source with a block of statements
above the first anchor line. The block is in the order of the insertions, and of the children it
declares exactly those that were inserted and those that the source declares.
-/

namespace RibTree.Declaration

set_option autoImplicit false

open Text

/-- The source with a statement for every child above its first anchor line, in this order. -/
def declaring (anchor : String) (children : List String) (source : String) : String :=
  String.ofList (withLines (trim anchor.toList)
    (children.map fun child => (statement child).toList) source.toList)

@[simp] theorem declaring_nil (anchor source : String) : declaring anchor [] source = source := by
  rw [declaring, List.map_nil, withLines_nil, String.ofList_toList]

theorem declaring_ofList (anchor : String) (children : List String) (source : List Char) :
    declaring anchor children (String.ofList source) =
      String.ofList (withLines (trim anchor.toList)
        (children.map fun child => (statement child).toList) source) := by
  rw [declaring, String.toList_ofList]

section Lines

variable {anchor source segment : List Char} {before rest lines : List (List Char)}

theorem segments_placed (hsegment : '\n' ∉ indent segment) {line : List Char}
    (hline : '\n' ∉ line) : segments (placed segment line) = [placed segment line] := by
  have hfront : '\n' ∉ indent segment ++ line := fun hm =>
    (List.mem_append.mp hm).elim hsegment hline
  rw [placed, lineEnd]
  split
  · have hreturn : '\n' ∉ indent segment ++ line ++ ['\r'] := fun hm =>
      (List.mem_append.mp hm).elim hfront (by decide)
    simpa using segments_concat hreturn
  · exact segments_concat hfront

theorem trim_placed (segment line : List Char) : trim (placed segment line) = trim line := by
  refine trim_between (fun c hc => isBlank_of_mem_indent hc) ?_ line
  rw [lineEnd]
  have hnewline : ∀ c ∈ ['\n'], isBlank c = true := List.forall_mem_singleton.mpr (by decide)
  split
  · exact List.forall_mem_cons.mpr ⟨by decide, hnewline⟩
  · exact hnewline

theorem segments_flatten_placed (hsegment : '\n' ∉ indent segment)
    (hlines : ∀ line ∈ lines, '\n' ∉ line) (t : List Char) :
    segments ((lines.map (placed segment)).flatten ++ t) =
      lines.map (placed segment) ++ segments t := by
  induction lines with
  | nil => rfl
  | cons line lines ih =>
      obtain ⟨hline, hrest⟩ := List.forall_mem_cons.mp hlines
      rw [List.map_cons, List.flatten_cons, List.append_assoc,
        segments_append (wholeLines_placed segment line), segments_placed hsegment hline, ih hrest]
      rfl

namespace Cut

theorem newline_notMem_indent (h : Cut anchor source before segment rest) (hanchor : anchor ≠ []) :
    '\n' ∉ indent segment := by
  have hmem : segment ∈ segments source := by simp [h.segments_eq]
  apply Text.newline_notMem_indent hmem
  rw [h.trim_eq]
  exact hanchor

theorem segments_withLines (h : Cut anchor source before segment rest) (hanchor : anchor ≠ [])
    (hlines : ∀ line ∈ lines, '\n' ∉ line) :
    segments (Declaration.withLines anchor lines source) =
      before ++ lines.map (placed segment) ++ segment :: rest := by
  obtain ⟨hbefore, hafter, -⟩ := segments_split h.segments_eq
  rw [h.withLines_eq, List.append_assoc, segments_append h.wholeLines_before, hbefore,
    segments_flatten_placed (h.newline_notMem_indent hanchor) hlines, hafter, List.append_assoc]

/-- Lines that do not read like the anchor leave its first line where it is. -/
theorem withLines (h : Cut anchor source before segment rest) (hanchor : anchor ≠ [])
    (hlines : ∀ line ∈ lines, '\n' ∉ line ∧ trim line ≠ anchor) :
    Cut anchor (withLines anchor lines source) (before ++ lines.map (placed segment)) segment
      rest := by
  refine ⟨h.segments_withLines hanchor fun line hl => (hlines line hl).1, ?_, h.trim_eq⟩
  intro piece hp
  rcases List.mem_append.mp hp with hp | hp
  · exact h.notBefore piece hp
  · obtain ⟨line, hl, rfl⟩ := List.mem_map.mp hp
    rw [trim_placed]
    exact (hlines line hl).2

end Cut

theorem insertInto_withLines (hsource : HasAnchor anchor source) (hanchor : anchor ≠ [])
    (hlines : ∀ line ∈ lines, '\n' ∉ line ∧ trim line ≠ anchor) (line : List Char) :
    insertInto anchor line (segments (withLines anchor lines source)) =
      some (withLines anchor (lines ++ [line]) source) := by
  obtain ⟨before, segment, rest, hcut⟩ := exists_cut hsource
  rw [(hcut.withLines hanchor hlines).insertInto_eq, hcut.withLines_eq]
  simp

end Lines

/-- No run of letters has a control character as its lower case. -/
theorem toNat_caseRuns {run : CaseRun} (h : run ∈ caseRuns) : ' '.toNat < run.first + run.shift := by
  have hall : ∀ run ∈ caseRuns, ' '.toNat < run.first + run.shift := by decide +kernel
  exact hall run h

theorem ofNat_ne_newline {n : Nat} (h : ' '.toNat < n) : Char.ofNat n ≠ '\n' := by
  by_cases hvalid : n.isValidChar
  · have hnat : (Char.ofNat n).toNat = n := by
      rw [Char.ofNat, dif_pos hvalid]
      rfl
    intro he
    rw [he] at hnat
    rw [← hnat] at h
    exact absurd h (by decide)
  · rw [Char.ofNat, dif_neg hvalid]
    decide

theorem newline_notMem_lowercase {c : Char} (h : c ≠ '\n') : '\n' ∉ lowercase c := by
  rw [lowercase]
  split
  · decide
  split
  · rename_i run hrun
    obtain ⟨hfirst, -, -⟩ : run.Covers c.toNat := by simpa using List.find?_some hrun
    have hshift := toNat_caseRuns (List.mem_of_find?_eq_some hrun)
    have hlarge : ' '.toNat < (c.toNat + run.shift).toNat := by omega
    rw [List.mem_singleton]
    exact Ne.symm (ofNat_ne_newline hlarge)
  · exact fun hm => h (List.mem_singleton.mp hm).symm

theorem newline_notMem_statement {child : String} (h : '\n' ∉ child.toList) :
    '\n' ∉ (statement child).toList := by
  have hlower : '\n' ∉ (lowerCamel child).toList := by
    rw [lowerCamel]
    split
    · decide
    · rename_i c rest hchild
      rw [hchild, List.mem_cons, not_or] at h
      rw [String.toList_ofList, List.mem_append, not_or]
      exact ⟨newline_notMem_lowercase (Ne.symm h.1), h.2⟩
  have hconstruction := newline_notMem_construction h
  simp [statement, hlower, hconstruction]

theorem trim_statement (child : String) :
    trim (statement child).toList = (statement child).toList := by
  obtain ⟨middle, hmiddle⟩ : ∃ middle, (statement child).toList = 'l' :: middle ++ [')'] := by
    refine ⟨"et ".toList ++ (lowerCamel child).toList ++ "Builder = ".toList ++
      constructionHead child ++ ": component".toList, ?_⟩
    simp [statement, construction_toList]
  have hl : isBlank 'l' = false := by decide
  have hr : isBlank ')' = false := by decide
  simp [hmiddle, trim, trimStart, trimEnd, hl, hr]

/-- A line that reads like the statement of a child declares the child. -/
theorem isDeclared_of_hasAnchor {source child : String} (hspace : ' ' ∉ child.toList)
    (hnewline : '\n' ∉ child.toList)
    (h : HasAnchor (statement child).toList source.toList) : isDeclared child source = true := by
  obtain ⟨before, segment, rest, hcut⟩ := exists_cut h
  obtain ⟨ending, hending⟩ := exists_trimEnd_append (trimStart segment)
  have hsegment : segment = indent segment ++ (statement child).toList ++ ending := by
    have htrim : trimEnd (trimStart segment) = (statement child).toList := hcut.trim_eq
    rw [htrim] at hending
    rw [List.append_assoc, ← hending, indent_append_trimStart]
  have hline := occursAfter_statement (fun c hc => isBlank_of_mem_indent (s := segment) hc) hspace
    (ending ++ rest.flatten)
  rw [← List.append_assoc, ← hsegment] at hline
  unfold isDeclared
  rw [hcut.source_eq, List.flatten_cons,
    occursAfter_append (newline_notMem_construction hnewline) (construction_ne_nil child)
      (by decide) hcut.wholeLines_before, hline, Bool.or_true]

variable {anchor source : String} {children : List String}

/-- The next child is declared below those that are there. -/
theorem insertAbove_declaring (hsource : HasAnchor (trim anchor.toList) source.toList)
    (hanchor : trim anchor.toList ≠ [])
    (hchildren : ∀ child ∈ children, IsWord child ∧
      (statement child).toList ≠ trim anchor.toList) (child : String) :
    insertAbove anchor (statement child) (declaring anchor children source) =
      some (declaring anchor (children ++ [child]) source) := by
  have hlines : ∀ line ∈ children.map fun child => (statement child).toList,
      '\n' ∉ line ∧ trim line ≠ trim anchor.toList := by
    intro line hl
    obtain ⟨c, hc, rfl⟩ := List.mem_map.mp hl
    rw [trim_statement]
    exact ⟨newline_notMem_statement ((hchildren c hc).1.notMem (by decide)), (hchildren c hc).2⟩
  rw [insertAbove, declaring, String.toList_ofList,
    insertInto_withLines hsource hanchor hlines, declaring, List.map_append]
  rfl

/-- Between words, a builder declares the inserted children and those of its source. -/
theorem isDeclared_declaring (hsource : HasAnchor (trim anchor.toList) source.toList)
    (hanchor : trim anchor.toList ≠ [])
    (hchildren : ∀ child ∈ children, IsWord child ∧
      (statement child).toList ≠ trim anchor.toList) {child : String} (hchild : IsWord child) :
    isDeclared child (declaring anchor children source) = true ↔
      isDeclared child source = true ∨ child ∈ children := by
  induction children using List.reverseRecOn with
  | nil => simp
  | append_singleton children last ih =>
      have hfront : ∀ c ∈ children, IsWord c ∧ (statement c).toList ≠ trim anchor.toList :=
        fun c hc => hchildren c (List.mem_append_left _ hc)
      have hlast : IsWord last := (hchildren last (by simp)).1
      have hinsert := insertAbove_declaring hsource hanchor hfront last
      by_cases he : child = last
      · subst he
        have hdeclared := isDeclared_insertAbove (hlast.notMem (by decide))
          (hlast.notMem (by decide)) hinsert
        simp [hdeclared]
      · rw [isDeclared_insertAbove_of_ne hchild hlast he hinsert, ih hfront]
        simp [he]

theorem isDeclared_declaring_eq_false (hsource : HasAnchor (trim anchor.toList) source.toList)
    (hanchor : trim anchor.toList ≠ [])
    (hchildren : ∀ child ∈ children, IsWord child ∧
      (statement child).toList ≠ trim anchor.toList) {child : String} (hchild : IsWord child)
    (hfree : isDeclared child source = false) (hnew : child ∉ children) :
    isDeclared child (declaring anchor children source) = false := by
  rw [Bool.eq_false_iff]
  intro hdeclared
  rcases (isDeclared_declaring hsource hanchor hchildren hchild).mp hdeclared with hold | hmem
  · rw [hfree] at hold
    exact absurd hold (by decide)
  · exact hnew hmem

end RibTree.Declaration
