import Mathlib.Data.List.Nodup
import RibTree.Proofs.Outline.Order

/-!
# The tree of an outline

Edges whose targets are new and whose parents are known lead from the root to every target in one
way. Only a component with the name of the root can close a cycle, and such a component always
does. The argument ranks the names by the places of their edges.
-/

namespace RibTree

set_option autoImplicit false

/-- A chain of edges from one component to another, with the last edge at its end. -/
inductive Chain (edges : List Edge) (start : String) : List Edge → String → Prop
  | nil : Chain edges start [] start
  | concat {way : List Edge} {e : Edge} :
      Chain edges start way e.parent → e ∈ edges → Chain edges start (way ++ [e]) e.target

theorem Chain.cases_last {edges way : List Edge} {start name : String}
    (h : Chain edges start way name) :
    (way = [] ∧ name = start) ∨ ∃ front e, way = front ++ [e] ∧ name = e.target ∧ e ∈ edges ∧
      Chain edges start front e.parent := by
  cases h with
  | nil => exact Or.inl ⟨rfl, rfl⟩
  | concat hfront he => exact Or.inr ⟨_, _, rfl, rfl, he, hfront⟩

/-- No chain comes back to where it started, and every target hangs from the root by one chain. -/
structure IsTree (root : String) (edges : List Edge) : Prop where
  acyclic : ∀ name way, Chain edges name way name → way = []
  reached : ∀ e ∈ edges, ∃! way, Chain edges root way e.target

/-- Targets are distinct, and a parent is the root or the target of an earlier edge. -/
structure Rooted (root : String) (edges : List Edge) : Prop where
  nodup : (edges.map Edge.target).Nodup
  parent : ∀ before e after, edges = before ++ e :: after →
    e.parent = root ∨ e.parent ∈ before.map Edge.target

theorem rooted_of_compile {text root : String} {edges : List Edge}
    (h : compile text root = .ok edges) : Rooted root edges where
  nodup := nodup_target_of_compile h
  parent := fun _ _ _ he => parent_of_compile h he

/-- The place of a name: the root comes first, then the targets in order. -/
def place (root : String) (edges : List Edge) (name : String) : Nat :=
  if name = root then 0 else (edges.map Edge.target).idxOf name + 1

variable {root start name : String} {edges way : List Edge}

namespace Rooted

theorem place_target (h : Rooted root edges) {before after : List Edge} {e : Edge}
    (he : edges = before ++ e :: after) (hroot : e.target ≠ root) :
    place root edges e.target = before.length + 1 := by
  have hnodup := h.nodup
  rw [he, List.map_append, List.map_cons] at hnodup
  have hfresh : e.target ∉ before.map Edge.target := by
    intro hm
    exact (List.nodup_append.mp hnodup).2.2 _ hm _ List.mem_cons_self rfl
  unfold place
  rw [if_neg hroot, he, List.map_append, List.map_cons, List.idxOf_append_of_notMem hfresh,
    List.idxOf_cons_self, Nat.add_zero, List.length_map]

theorem place_parent_le (h : Rooted root edges) {before after : List Edge} {e : Edge}
    (he : edges = before ++ e :: after) : place root edges e.parent ≤ before.length := by
  unfold place
  split
  · exact Nat.zero_le _
  · rename_i hroot
    rcases h.parent before e after he with hparent | hparent
    · exact absurd hparent hroot
    · have hlt : (before.map Edge.target).idxOf e.parent < before.length := by
        simpa using List.idxOf_lt_length_of_mem hparent
      rw [he, List.map_append, List.idxOf_append_of_mem hparent]
      exact hlt

/-- An edge leads to a later place, unless it leads to the root. -/
theorem place_lt (h : Rooted root edges) {e : Edge} (he : e ∈ edges) (hroot : e.target ≠ root) :
    place root edges e.parent < place root edges e.target := by
  obtain ⟨before, after, hsplit⟩ := List.append_of_mem he
  rw [h.place_target hsplit hroot]
  exact Nat.lt_succ_of_le (h.place_parent_le hsplit)

theorem exists_chain (h : Rooted root edges) {before after : List Edge} {e : Edge}
    (he : edges = before ++ e :: after) : ∃ way, Chain edges root way e.parent := by
  induction hlength : before.length using Nat.strongRecOn generalizing before after e with
  | ind count ih =>
      rcases h.parent before e after he with hparent | hparent
      · rw [hparent]
        exact ⟨[], .nil⟩
      · obtain ⟨f, hf, hparent⟩ := List.mem_map.mp hparent
        obtain ⟨front, back, hbefore⟩ := List.append_of_mem hf
        have hsplit : edges = front ++ f :: (back ++ e :: after) := by simp [he, hbefore]
        have hlt : front.length < count := by
          rw [← hlength, hbefore, List.length_append, List.length_cons]
          omega
        obtain ⟨way, hway⟩ := ih front.length hlt hsplit rfl
        have hmem : f ∈ edges := by simp [hsplit]
        rw [← hparent]
        exact ⟨way ++ [f], .concat hway hmem⟩

theorem chain_to_parent (h : Rooted root edges) {e : Edge} (he : e ∈ edges) :
    ∃ way, Chain edges root way e.parent := by
  obtain ⟨before, after, hsplit⟩ := List.append_of_mem he
  exact h.exists_chain hsplit

theorem eq_of_target_eq (h : Rooted root edges) {e f : Edge} (he : e ∈ edges) (hf : f ∈ edges)
    (hsame : e.target = f.target) : e = f :=
  List.inj_on_of_nodup_map h.nodup he hf hsame

section NoCycle

variable (hother : ∀ e ∈ edges, e.target ≠ root)
include hother

theorem place_le_of_chain (h : Rooted root edges) (hchain : Chain edges start way name) :
    place root edges start + way.length ≤ place root edges name := by
  induction hchain with
  | nil => exact Nat.le_refl _
  | @concat way e _ he ih =>
      have hlt := h.place_lt he (hother e he)
      rw [List.length_append, List.length_singleton]
      omega

theorem acyclic (h : Rooted root edges) (hchain : Chain edges name way name) : way = [] := by
  have hle := h.place_le_of_chain hother hchain
  rw [← List.length_eq_zero_iff]
  omega

/-- The last edge of a chain is the only one with its target, and so on back to the root. -/
theorem chain_unique (h : Rooted root edges) (hchain : Chain edges root way name)
    {way' : List Edge} (hchain' : Chain edges root way' name) : way = way' := by
  induction hchain generalizing way' with
  | nil => exact (h.acyclic hother hchain').symm
  | @concat way e _ he ih =>
      rcases hchain'.cases_last with ⟨-, hroot⟩ | ⟨front, f, rfl, hsame, hf, hfront⟩
      · exact absurd hroot (hother e he)
      · obtain rfl := h.eq_of_target_eq he hf hsame
        rw [ih hfront]

theorem isTree (h : Rooted root edges) : IsTree root edges where
  acyclic := fun _ _ hchain => h.acyclic hother hchain
  reached := by
    intro e he
    obtain ⟨way, hway⟩ := h.chain_to_parent he
    refine ⟨way ++ [e], .concat hway he, ?_⟩
    intro way' hway'
    exact h.chain_unique hother hway' (.concat hway he)

end NoCycle

/-- A target with the name of the root closes the chain that leads to its parent. -/
theorem exists_cycle (h : Rooted root edges) (hroot : ∃ e ∈ edges, e.target = root) :
    ∃ way, way ≠ [] ∧ Chain edges root way root := by
  obtain ⟨e, he, hroot⟩ := hroot
  obtain ⟨way, hway⟩ := h.chain_to_parent he
  have hcycle : Chain edges root (way ++ [e]) e.target := .concat hway he
  rw [hroot] at hcycle
  exact ⟨way ++ [e], by simp, hcycle⟩

theorem isTree_iff (h : Rooted root edges) :
    IsTree root edges ↔ ∀ e ∈ edges, e.target ≠ root := by
  constructor
  · intro htree e he hroot
    obtain ⟨way, hne, hcycle⟩ := h.exists_cycle ⟨e, he, hroot⟩
    exact hne (htree.acyclic root way hcycle)
  · intro hother
    exact h.isTree hother

end Rooted

/-- The edges of an outline can be worked off from the root. They are a tree under it exactly when
no component has the name of the root; such a component closes a cycle through the root. -/
theorem compile_tree {text root : String} {edges : List Edge} (h : compile text root = .ok edges) :
    ((edges.map Edge.target).Nodup ∧ ∀ before e after, edges = before ++ e :: after →
      e.parent = root ∨ e.parent ∈ before.map Edge.target) ∧
    ((∀ e ∈ edges, e.target ≠ root) → IsTree root edges) ∧
    ((∃ e ∈ edges, e.target = root) → ∃ way, way ≠ [] ∧ Chain edges root way root) ∧
    (IsTree root edges ↔ ∀ e ∈ edges, e.target ≠ root) := by
  have hrooted := rooted_of_compile h
  exact ⟨⟨hrooted.nodup, hrooted.parent⟩, fun hother => hrooted.isTree hother,
    fun hroot => hrooted.exists_cycle hroot, hrooted.isTree_iff⟩

/-- An outline whose root comes back two levels down, and the cycle that it closes. -/
theorem compile_tree_with_root_below :
    let edges : List Edge := [⟨"App", "A", true⟩, ⟨"A", "App", true⟩, ⟨"App", "B", false⟩]
    compile "- A\n  - App\n    - B*" "App" = .ok edges ∧ (∃ e ∈ edges, e.target = "App") ∧
      (∃ way, way ≠ [] ∧ Chain edges "App" way "App") ∧ ¬ IsTree "App" edges := by
  intro edges
  have hcompile : compile "- A\n  - App\n    - B*" "App" = .ok edges := by decide +kernel
  have hroot : ∃ e ∈ edges, e.target = "App" := by decide
  obtain ⟨-, -, hcycle, htree⟩ := compile_tree hcompile
  refine ⟨hcompile, hroot, hcycle hroot, ?_⟩
  intro h
  obtain ⟨e, he, htarget⟩ := hroot
  exact htree.mp h e he htarget

end RibTree
