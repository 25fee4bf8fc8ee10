import RibTree.Proofs.Outline.Parent

/-!
# The order of edges

An outline that compiles names every component once, and every edge hangs from the root or from
the target of an edge before it. So edges can be worked off in order.
-/

namespace RibTree

set_option autoImplicit false

namespace Outline

theorem nodup_readFrom {seen : List String} {number : Nat} {lines : List (List Char)}
    {nodes : List Node} (h : readFrom seen number lines = .ok nodes) :
    (nodes.map Node.name).Nodup ∧ ∀ name ∈ nodes.map Node.name, name ∉ seen := by
  induction lines generalizing seen number nodes with
  | nil =>
      obtain rfl : [] = nodes := Except.ok.inj h
      simp
  | cons line lines ih =>
      rw [readFrom] at h
      split at h
      · simp at h
      · exact ih h
      · rename_i node _
        split at h
        · simp at h
        · rename_i hseen
          cases hrest : readFrom (node.name :: seen) (number + 1) lines with
          | error e => simp [hrest, Except.map] at h
          | ok rest =>
              obtain rfl : node :: rest = nodes := by simpa [hrest, Except.map] using h
              obtain ⟨hnodup, hfresh⟩ := ih hrest
              have hnew : node.name ∉ rest.map Node.name := by
                intro hm
                exact hfresh node.name hm List.mem_cons_self
              constructor
              · exact List.nodup_cons.mpr ⟨hnew, hnodup⟩
              · intro name hname hm
                rcases List.mem_cons.mp hname with rfl | hname
                · exact hseen hm
                · exact hfresh name hname (List.mem_cons_of_mem _ hm)

theorem map_target_edgesUnder (root : String) (above nodes : List Node) :
    (edgesUnder root above nodes).map Edge.target = nodes.map Node.name := by
  induction nodes generalizing above with
  | nil => rfl
  | cons node rest ih => rw [edgesUnder, List.map_cons, ih, List.map_cons]

theorem ownerName_eq_or_mem (root : String) (above : List Node) (width : Nat) :
    ownerName root above width = root ∨ ownerName root above width ∈ above.map Node.name := by
  rw [ownerName]
  cases h : above.find? (·.width < width) with
  | none => exact Or.inl rfl
  | some node => exact Or.inr (List.mem_map_of_mem (List.mem_of_find?_eq_some h))

theorem parent_edgesUnder {root : String} {above nodes : List Node} {before after : List Edge}
    {edge : Edge} (h : edgesUnder root above nodes = before ++ edge :: after) :
    edge.parent = root ∨ edge.parent ∈ above.map Node.name ∨
      edge.parent ∈ before.map Edge.target := by
  induction before generalizing above nodes with
  | nil =>
      cases nodes with
      | nil => simp [edgesUnder] at h
      | cons node rest =>
          obtain ⟨rfl, -⟩ := List.cons.inj h
          exact (ownerName_eq_or_mem root above node.width).imp_right Or.inl
  | cons first before ih =>
      cases nodes with
      | nil => simp [edgesUnder] at h
      | cons node rest =>
          obtain ⟨rfl, hrest⟩ := List.cons.inj h
          rcases ih hrest with hroot | habove | hbefore
          · exact Or.inl hroot
          · rcases List.mem_cons.mp habove with he | habove
            · exact Or.inr (Or.inr (by rw [he]; exact List.mem_cons_self))
            · exact Or.inr (Or.inl habove)
          · exact Or.inr (Or.inr (List.mem_cons_of_mem _ hbefore))

end Outline

variable {text root : String} {edges : List Edge}

theorem exists_of_compile (h : compile text root = .ok edges) :
    ∃ nodes, (nodes.map Node.name).Nodup ∧ edges = Outline.edgesUnder root [] nodes := by
  rw [compile, Outline.parse] at h
  cases hread : Outline.readFrom [] 1 (Text.lines text.toList) with
  | error e => simp [hread, Except.map] at h
  | ok nodes =>
      refine ⟨nodes, (Outline.nodup_readFrom hread).1, ?_⟩
      rw [hread] at h
      rw [← Except.ok.inj h]
      exact Outline.edges_eq_edgesUnder ⟨nodes⟩ root

theorem nodup_target_of_compile (h : compile text root = .ok edges) :
    (edges.map Edge.target).Nodup := by
  obtain ⟨nodes, hnodup, rfl⟩ := exists_of_compile h
  rw [Outline.map_target_edgesUnder]
  exact hnodup

theorem parent_of_compile (h : compile text root = .ok edges) {before after : List Edge}
    {edge : Edge} (he : edges = before ++ edge :: after) :
    edge.parent = root ∨ edge.parent ∈ before.map Edge.target := by
  obtain ⟨nodes, -, rfl⟩ := exists_of_compile h
  simpa using Outline.parent_edgesUnder he

end RibTree
