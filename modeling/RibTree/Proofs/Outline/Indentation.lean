import Mathlib.Order.Monotone.Basic
import RibTree.Proofs.Outline.Parent
import RibTree.Proofs.Outline.Reading

/-!
# Indentation as an order

Outlines with the same components, in which of any two lines the same one is indented less, have
the same edges: a look upward asks nothing else of the widths. So the margins of an outline can all
be widened together, as long as a smaller one stays smaller.
-/

namespace RibTree

set_option autoImplicit false

/-- A look upward only asks which of the lines above are shallower. -/
theorem scanUp_congr {widths widths' : List Nat} {bound bound' index : Nat}
    (h : ∀ j < index, (∃ w ∈ widths[j]?, w < bound) ↔ ∃ w ∈ widths'[j]?, w < bound') :
    scanUp widths bound index = scanUp widths' bound' index := by
  induction index with
  | zero => rfl
  | succ index ih =>
      have hat := h index (Nat.lt_succ_self index)
      have habove := ih fun j hj => h j (Nat.lt_succ_of_lt hj)
      simp only [scanUp, hat, habove]

namespace Node

/-- What a line says about its component, apart from the place of it. -/
def label (n : Node) : String × Bool := (n.name, n.ownsView)

def stretched (stretch : Nat → Nat) (n : Node) : Node := { n with width := stretch n.width }

end Node

namespace Outline

/-- The lines have the same labels, and of any two lines the same one is indented less. -/
structure Alike (nodes nodes' : List Node) : Prop where
  labels : nodes.map Node.label = nodes'.map Node.label
  order : ∀ (i j : Nat) (a b a' b' : Node), nodes[i]? = some a → nodes[j]? = some b →
    nodes'[i]? = some a' → nodes'[j]? = some b' → (a.width < b.width ↔ a'.width < b'.width)

theorem Alike.parents_eq {nodes nodes' : List Node} (h : Alike nodes nodes') :
    parents ⟨nodes⟩ = parents ⟨nodes'⟩ := by
  have hlength : nodes.length = nodes'.length := by simpa using congrArg List.length h.labels
  rw [parents_eq_mapIdx, parents_eq_mapIdx]
  apply List.ext_getElem (by simpa using hlength)
  intro i hi hi'
  rw [List.length_mapIdx] at hi hi'
  rw [List.getElem_mapIdx, List.getElem_mapIdx]
  apply scanUp_congr
  intro j hj
  have hj' : j < nodes.length := by omega
  have hget : ∀ (ns : List Node) (k : Nat) (hk : k < ns.length), ns[k]? = some ns[k] :=
    fun _ _ hk => List.getElem?_eq_getElem hk
  have horder := h.order j i _ _ _ _ (hget nodes j hj') (hget nodes i hi)
    (hget nodes' j (by omega)) (hget nodes' i hi')
  simpa [List.getElem?_map, hget nodes j hj', hget nodes' j (by omega)] using horder

/-- Edges are made of the labels and of the places of the parents. -/
theorem edges_eq_labels (o : Outline) (root : String) :
    o.edges root = ((o.nodes.map Node.label).zip o.parents).map fun (label, parent) =>
      ⟨((parent.bind ((o.nodes.map Node.label)[·]?)).map Prod.fst).getD root,
        label.1, label.2⟩ := by
  rw [edges, List.zip_map_left, List.map_map]
  apply List.map_congr_left
  rintro ⟨node, parent⟩ -
  cases parent with
  | none => rfl
  | some index => simp [Node.label, Function.comp_def]

theorem Alike.edges_eq {nodes nodes' : List Node} (h : Alike nodes nodes') (root : String) :
    edges ⟨nodes⟩ root = edges ⟨nodes'⟩ root := by
  rw [edges_eq_labels, edges_eq_labels, h.parents_eq, h.labels]

theorem alike_map_stretched {stretch : Nat → Nat} (h : StrictMono stretch) (nodes : List Node) :
    Alike (nodes.map (Node.stretched stretch)) nodes where
  labels := by
    rw [List.map_map]
    rfl
  order := by
    intro i j a b a' b' ha hb ha' hb'
    rw [List.getElem?_map, ha'] at ha
    rw [List.getElem?_map, hb'] at hb
    obtain rfl : Node.stretched stretch a' = a := by simpa using ha
    obtain rfl : Node.stretched stretch b' = b := by simpa using hb
    exact h.lt_iff_lt

theorem edges_of_components {text root : String} {edges : List Edge} {nodes : List Node}
    (h : compile text root = .ok edges) (hnodes : Components (Text.lines text.toList) nodes) :
    edges = Outline.edges ⟨nodes⟩ root := by
  rw [compile] at h
  cases hparse : parse text with
  | error e =>
      rw [hparse] at h
      cases h
  | ok o =>
      rw [hparse] at h
      rw [← (components_of_parse hparse).unique hnodes]
      exact (Except.ok.inj h).symm

/-- Margins stay blank, on their line and with their tabs; without tabs they get the width that
`stretch` gives them. -/
structure Stretches (stretch : Nat → Nat) (margin : List Char → List Char) : Prop where
  blank : ∀ indent, (∀ c ∈ indent, Text.isBlank c = true) → ∀ c ∈ margin indent,
    Text.isBlank c = true
  newline : ∀ indent, '\n' ∉ indent → '\n' ∉ margin indent
  tab : ∀ indent, '\t' ∈ margin indent ↔ '\t' ∈ indent
  length : ∀ indent, '\t' ∉ indent → (margin indent).length = stretch indent.length

/-- A bullet with its margin written anew. Other lines stay. -/
def withMargin (margin : List Char → List Char) (line : List Char) : List Char :=
  match Text.splitFirst bulletMark line with
  | none => line
  | some (indent, rest) =>
      if indent.all Text.isBlank then margin indent ++ bulletMark ++ rest else line

/-- The outline with all its margins written anew. -/
def reindented (margin : List Char → List Char) (text : String) : String :=
  rewritten (withMargin margin) text

/-- As many spaces as the margin gets. A margin with a tab, which is refused, stays. -/
def spaced (stretch : Nat → Nat) (indent : List Char) : List Char :=
  if '\t' ∈ indent then indent else List.replicate (stretch indent.length) ' '

theorem stretches_spaced (stretch : Nat → Nat) : Stretches stretch (spaced stretch) where
  blank := by
    intro indent hblank c hc
    rw [spaced] at hc
    split at hc
    · exact hblank c hc
    · rw [List.eq_of_mem_replicate hc]
      decide
  newline := by
    intro indent hnew hm
    rw [spaced] at hm
    split at hm
    · exact hnew hm
    · exact absurd (List.eq_of_mem_replicate hm) (by decide)
  tab := by
    intro indent
    rw [spaced]
    split
    · rfl
    · rename_i htab
      exact ⟨fun hm => absurd (List.eq_of_mem_replicate hm) (by decide), fun hm => absurd hm htab⟩
  length := by
    intro indent htab
    rw [spaced, if_neg htab, List.length_replicate]

theorem stretches_append {pad : List Char}
    (hpad : ∀ c ∈ pad, Text.isBlank c = true ∧ c ≠ '\t' ∧ c ≠ '\n') :
    Stretches (pad.length + ·) (pad ++ ·) where
  blank := by
    intro indent hblank c hc
    rcases List.mem_append.mp hc with hc | hc
    · exact (hpad c hc).1
    · exact hblank c hc
  newline := by
    intro indent hnew hm
    rcases List.mem_append.mp hm with hm | hm
    · exact (hpad _ hm).2.2 rfl
    · exact hnew hm
  tab := by
    intro indent
    rw [List.mem_append]
    exact or_iff_right fun hm => (hpad _ hm).2.1 rfl
  length := fun indent _ => List.length_append

namespace Stretches

variable {stretch : Nat → Nat} {margin : List Char → List Char}

theorem keepsSegments (h : Stretches stretch margin) : Text.KeepsSegments (withMargin margin) := by
  have hwrite : ∀ piece, withMargin margin piece = piece ∨ ∃ indent rest,
      piece = indent ++ (bulletMark ++ rest) ∧
        withMargin margin piece = margin indent ++ (bulletMark ++ rest) := by
    intro piece
    rw [withMargin]
    split
    · exact Or.inl rfl
    · rename_i indent rest hsplit
      split
      · refine Or.inr ⟨indent, rest, ?_, List.append_assoc _ _ _⟩
        rw [← List.append_assoc]
        exact Text.append_of_splitFirst hsplit
      · exact Or.inl rfl
  constructor
  · intro piece hpiece
    rcases hwrite piece with he | ⟨indent, rest, rfl, he⟩
    · rwa [he]
    · obtain ⟨hindent, hrest⟩ := (Text.isSegment_append_iff (by simp [bulletMark])).mp hpiece
      rw [he]
      exact hrest.append_left (h.newline indent hindent)
  · intro piece _ hwhole c hc
    rcases hwrite piece with he | ⟨indent, rest, rfl, he⟩
    · rw [he] at hc
      exact hwhole c hc
    · have hne : bulletMark ++ rest ≠ [] := by simp [bulletMark]
      rw [he, List.getLast?_append_of_ne_nil _ hne] at hc
      exact hwhole c (by rwa [List.getLast?_append_of_ne_nil _ hne])

theorem follows (h : Stretches stretch margin) (line : List Char) :
    Node.Follows (Node.stretched stretch) line (withMargin margin line) := by
  intro number
  cases hsplit : Text.splitFirst bulletMark line with
  | none => simp [withMargin, Node.ofLine?, hsplit, Except.map]
  | some parts =>
      obtain ⟨indent, rest⟩ := parts
      have hcut := bulletCut_iff.mpr hsplit
      by_cases hblank : indent.all Text.isBlank = true
      · have hnew := h.blank indent (List.all_eq_true.mp hblank)
        have hdash : '-' ∉ margin indent := fun hm => absurd (hnew _ hm) (by decide)
        have hwrite : withMargin margin line = margin indent ++ bulletMark ++ rest := by
          simp [withMargin, hsplit, hblank]
        rw [hwrite, ofLine?_of_cut hcut, ofLine?_of_cut (bulletCut_of_notMem hdash rest),
          List.all_eq_true.mpr hnew, hblank]
        simp only [Bool.not_true, Bool.false_eq_true, if_false]
        by_cases htab : '\t' ∈ indent
        · rw [if_pos htab, if_pos ((h.tab indent).mpr htab)]
          rfl
        · rw [if_neg htab, if_neg (mt (h.tab indent).mp htab), h.length indent htab]
          split <;> rfl
      · have hwrite : withMargin margin line = line := by simp [withMargin, hsplit, hblank]
        rw [hwrite, ofLine?_of_cut hcut, if_pos (by simpa using hblank)]
        rfl

theorem compile_reindented (h : Stretches stretch margin) (hmono : StrictMono stretch)
    (text root : String) : compile (reindented margin text) root = compile text root := by
  rw [compile, compile, reindented,
    parse_rewritten h.keepsSegments (fun piece _ => h.follows piece) fun _ => rfl]
  cases parse text with
  | error e => rfl
  | ok o => exact congrArg Except.ok ((alike_map_stretched hmono o.nodes).edges_eq root)

end Stretches

/-- Two outlines that compile have the same edges if they declare the same components and of any
two lines the same one is indented less. So a margin for all bullets, or one that widens with the
old one, leaves the result as it is, a failure included. -/
theorem compile_compares_widths (root : String) :
    (∀ text text' nodes nodes' edges edges',
      compile text root = .ok edges → compile text' root = .ok edges' →
      Components (Text.lines text.toList) nodes → Components (Text.lines text'.toList) nodes' →
      Alike nodes nodes' → edges = edges') ∧
    (∀ stretch margin, StrictMono stretch → Stretches stretch margin → ∀ text,
      compile (reindented margin text) root = compile text root) ∧
    ∀ pad, (∀ c ∈ pad, Text.isBlank c = true ∧ c ≠ '\t' ∧ c ≠ '\n') → ∀ text,
      compile (reindented (pad ++ ·) text) root = compile text root := by
  refine ⟨?_, fun stretch margin hmono h text => h.compile_reindented hmono text root, ?_⟩
  · intro text text' nodes nodes' edges edges' hedges hedges' hnodes hnodes' halike
    rw [edges_of_components hedges hnodes, edges_of_components hedges' hnodes']
    exact halike.edges_eq root
  · intro pad hpad text
    have hmono : StrictMono (pad.length + ·) := fun _ _ h => Nat.add_lt_add_left h pad.length
    exact (stretches_append hpad).compile_reindented hmono text root

/-- A wide margin, prose and a blank before the star on one side, narrow margins on the other. -/
theorem compile_compares_widths_of_jagged :
    let text := " - A\n\u3000        - B\nto do\n     - C *"
    let text' := "- A\n    - B\n  - C*\n"
    let nodes' : List Node := [⟨0, "A", true⟩, ⟨4, "B", true⟩, ⟨2, "C", false⟩]
    let nodes := nodes'.map (Node.stretched (2 * · + 1))
    let edges : List Edge := [⟨"App", "A", true⟩, ⟨"A", "B", true⟩, ⟨"A", "C", false⟩]
    Components (Text.lines text.toList) nodes ∧ Components (Text.lines text'.toList) nodes' ∧
      Alike nodes nodes' ∧ compile text' "App" = .ok edges ∧ compile text "App" = .ok edges ∧
      compile (reindented (spaced (3 * · + 1)) text') "App" = .ok edges ∧
      compile (reindented (['\u3000'] ++ ·) text') "App" = .ok edges := by
  intro text text' nodes' nodes edges
  have hmono : ∀ k, StrictMono (fun w => (k + 1) * w + 1) := fun k v w h =>
    Nat.succ_lt_succ (Nat.mul_lt_mul_of_pos_left h k.succ_pos)
  have hparse : parse text = .ok ⟨nodes⟩ := by decide +kernel
  have hparse' : parse text' = .ok ⟨nodes'⟩ := by decide +kernel
  have hnodes : Components (Text.lines text.toList) nodes := components_of_parse hparse
  have hnodes' : Components (Text.lines text'.toList) nodes' := components_of_parse hparse'
  have halike : Alike nodes nodes' := alike_map_stretched (hmono 1) nodes'
  have hnarrow : compile text' "App" = .ok edges := by decide +kernel
  have hwide : compile text "App" = .ok (Outline.edges ⟨nodes⟩ "App") := by
    rw [compile, hparse]
    rfl
  obtain ⟨hsame, hstretch, hpad⟩ := compile_compares_widths "App"
  refine ⟨hnodes, hnodes', halike, hnarrow, ?_, ?_, ?_⟩
  · rw [hwide, hsame text text' nodes nodes' _ edges hwide hnarrow hnodes hnodes' halike]
  · rw [hstretch _ _ (hmono 2) (stretches_spaced _), hnarrow]
  · rw [hpad _ (List.forall_mem_singleton.mpr (by decide)), hnarrow]

end Outline

end RibTree
