import RibTree.Proofs.Outline.Grammar
import RibTree.Proofs.Text.Segment

/-!
# Outlines that read alike

A line end does not change what a line declares, so an outline can be read off its segments. When
every line of an outline is written anew so that it declares what it declared, apart from a change
that keeps names, the new outline has the old components with that change, or fails as the old one.
-/

namespace RibTree

set_option autoImplicit false

namespace Text

/-- A character that the mark does not have ends no mark. -/
theorem splitFirst_concat {mark : List Char} {c : Char} (hmark : mark ≠ []) (hc : c ∉ mark)
    (s : List Char) :
    splitFirst mark (s ++ [c]) =
      (splitFirst mark s).map fun (before, after) => (before, after ++ [c]) := by
  have hprefix : ∀ t : List Char, mark.isPrefixOf (t ++ [c]) = mark.isPrefixOf t := by
    intro t
    rw [Bool.eq_iff_iff, List.isPrefixOf_iff_prefix, List.isPrefixOf_iff_prefix,
      List.prefix_concat_iff]
    refine or_iff_right fun he => hc ?_
    rw [he]
    exact List.mem_append_right t List.mem_cons_self
  induction s with
  | nil =>
      have hnone : mark.isPrefixOf [c] = false := by
        rw [← List.nil_append [c], hprefix, Bool.eq_false_iff, Ne, List.isPrefixOf_iff_prefix,
          List.prefix_nil]
        exact hmark
      simp [splitFirst, hnone]
  | cons d s ih =>
      rw [List.cons_append, splitFirst, splitFirst, ← List.cons_append, hprefix]
      split
      · rename_i hp
        have hlength := (List.isPrefixOf_iff_prefix.mp hp).length_le
        rw [List.drop_append_of_le_length hlength]
        rfl
      · rw [ih, Option.map_map, Option.map_map]
        rfl

end Text

namespace Node

theorem ofLine?_concat {c : Char} (hblank : Text.isBlank c = true) (hspace : c ≠ ' ')
    (number : Nat) (line : List Char) :
    ofLine? number (line ++ [c]) = ofLine? number line := by
  have hc : c ∉ bulletMark := by
    intro hm
    rcases List.mem_cons.mp hm with rfl | hm
    · exact absurd hblank (by decide)
    · exact hspace (List.mem_singleton.mp hm)
  have hdrop : ∀ rest : List Char, Text.dropBlanks (rest ++ [c]) = Text.dropBlanks rest := by
    intro rest
    simp [Text.dropBlanks, hblank]
  rw [ofLine?, ofLine?, Text.splitFirst_concat (by decide) hc]
  cases Text.splitFirst bulletMark line with
  | none => rfl
  | some parts => simp only [Option.map_some, hdrop]

/-- Neither the return nor the feed of a line end is part of a bullet. -/
theorem ofLine?_append {ending : List Char} (hending : ∀ c ∈ ending, c = '\r' ∨ c = '\n')
    (number : Nat) (line : List Char) :
    ofLine? number (line ++ ending) = ofLine? number line := by
  induction ending generalizing line with
  | nil => rw [List.append_nil]
  | cons c ending ih =>
      rw [List.append_cons, ih fun d hd => hending d (List.mem_cons_of_mem c hd)]
      rcases hending c List.mem_cons_self with rfl | rfl
      · exact ofLine?_concat (by decide) (by decide) number line
      · exact ofLine?_concat (by decide) (by decide) number line

/-- A line declares the same with its end and without it. -/
theorem ofLine?_chomp (number : Nat) (line : List Char) :
    ofLine? number (Text.chomp line) = ofLine? number line := by
  obtain ⟨ending, hline, hending⟩ := Text.exists_chomp_append line
  conv_rhs => rw [hline, ofLine?_append hending]

/-- The second line declares what the first does, with a change made to the component. -/
def Follows (change : Node → Node) (line line' : List Char) : Prop :=
  ∀ number, ofLine? number line' = (ofLine? number line).map (Option.map change)

theorem follows_chomp_iff {change : Node → Node} {line line' : List Char} :
    Follows change (Text.chomp line) (Text.chomp line') ↔ Follows change line line' := by
  simp only [Follows, ofLine?_chomp]

end Node

namespace Outline

variable {change : Node → Node}

theorem readFrom_of_follows (hname : ∀ n, (change n).name = n.name)
    {lines lines' : List (List Char)} (h : List.Forall₂ (Node.Follows change) lines lines')
    (seen : List String) (number : Nat) :
    readFrom seen number lines' = (readFrom seen number lines).map (List.map change) := by
  induction h generalizing seen number with
  | nil => rfl
  | @cons line line' lines lines' hline _ ih =>
      rw [readFrom, readFrom, hline]
      cases Node.ofLine? number line with
      | error e => rfl
      | ok declared =>
          cases declared with
          | none => exact ih seen (number + 1)
          | some n =>
              simp only [Except.map, Option.map_some, hname]
              split
              · rfl
              · rw [ih]
                cases readFrom (n.name :: seen) (number + 1) lines <;> rfl

/-- The outline with every segment of its text written anew. -/
def rewritten (write : List Char → List Char) (text : String) : String :=
  String.ofList ((Text.segments text.toList).flatMap write)

theorem parse_rewritten {write : List Char → List Char} (hwrite : Text.KeepsSegments write)
    (hfollows : ∀ piece, Text.IsSegment piece → Node.Follows change piece (write piece))
    (hname : ∀ n, (change n).name = n.name) (text : String) :
    parse (rewritten write text) = (parse text).map fun o => ⟨o.nodes.map change⟩ := by
  have hlines : List.Forall₂ (Node.Follows change) (Text.lines text.toList)
      (Text.lines (rewritten write text).toList) := by
    rw [rewritten, String.toList_ofList, Text.lines, Text.lines, hwrite.segments_flatMap,
      List.map_map, List.forall₂_map_left_iff, List.forall₂_map_right_iff, List.forall₂_same]
    intro piece hpiece
    exact Node.follows_chomp_iff.mpr (hfollows piece (Text.isSegment_of_mem hpiece))
  rw [parse, parse, readFrom_of_follows hname hlines]
  cases readFrom [] 1 (Text.lines text.toList) <;> rfl

end Outline

end RibTree
