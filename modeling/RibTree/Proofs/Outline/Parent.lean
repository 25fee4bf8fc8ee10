import RibTree.Proofs.Outline.NearestSmaller

/-!
# Parents and edges

The parent of a line is the greatest index above it with a smaller indentation, and the edges of
an outline can be read off a plain look upward. The second form, which carries the lines read so
far, is the one to argue about by induction on an outline.
-/

namespace RibTree.Outline

set_option autoImplicit false

/-- The lines above the line at `index` that are indented less. -/
def shallowerAbove (nodes : List Node) (index : Nat) : Set Nat :=
  {j | j < index ∧ ∃ above line, nodes[j]? = some above ∧ nodes[index]? = some line ∧
    above.width < line.width}

/-- A plain look upward from the line at `index`. -/
def scanParent? (nodes : List Node) (index : Nat) : Option Nat :=
  nodes[index]?.bind fun line => scanUp (nodes.map Node.width) line.width index

theorem shallowerAbove_eq {nodes : List Node} {index : Nat} {line : Node}
    (h : nodes[index]? = some line) :
    shallowerAbove nodes index =
      {j | j < index ∧ ∃ w ∈ (nodes.map Node.width)[j]?, w < line.width} := by
  ext j
  simp only [shallowerAbove, Set.mem_ofPred_eq, h, List.getElem?_map, Option.mem_def,
    Option.map_eq_some_iff]
  constructor
  · rintro ⟨hj, above, own, ha, he, hw⟩
    obtain rfl : line = own := by simpa using he
    exact ⟨hj, above.width, ⟨above, ha, rfl⟩, hw⟩
  · rintro ⟨hj, w, ⟨above, ha, rfl⟩, hw⟩
    exact ⟨hj, above, line, ha, rfl, hw⟩

theorem shallowerAbove_of_length_le {nodes : List Node} {index : Nat}
    (h : nodes.length ≤ index) : shallowerAbove nodes index = ∅ := by
  rw [Set.eq_empty_iff_forall_notMem]
  rintro j ⟨_, _, line, _, hl, _⟩
  have := (List.getElem?_eq_some_iff.mp hl).1
  omega

theorem scanParent?_eq_some_iff (nodes : List Node) (index j : Nat) :
    scanParent? nodes index = some j ↔ IsGreatest (shallowerAbove nodes index) j := by
  cases h : nodes[index]? with
  | none =>
      rw [shallowerAbove_of_length_le (List.getElem?_eq_none_iff.mp h)]
      simp [scanParent?, h, IsGreatest]
  | some line =>
      rw [shallowerAbove_eq h, ← scanUp_eq_some_iff]
      simp [scanParent?, h]

theorem scanParent?_eq_none_iff (nodes : List Node) (index : Nat) :
    scanParent? nodes index = none ↔ shallowerAbove nodes index = ∅ := by
  cases h : nodes[index]? with
  | none =>
      simp [scanParent?, h, shallowerAbove_of_length_le (List.getElem?_eq_none_iff.mp h)]
  | some line =>
      rw [shallowerAbove_eq h, ← scanUp_eq_none_iff]
      simp [scanParent?, h]

theorem parents_eq_mapIdx (nodes : List Node) :
    parents ⟨nodes⟩ =
      nodes.mapIdx fun i line => scanUp (nodes.map Node.width) line.width i := by
  simp only [parents, nearestSmaller_eq_scanUp]
  rw [List.mapIdx_eq_iff]
  intro i
  simp only [List.getElem?_mapIdx, List.getElem?_map, Option.map_map]
  rfl

/-- The index that a look upward finds stands for the first shallower line of those above, listed
upward. -/
theorem scanUp_bind_getElem? (nodes : List Node) (bound index : Nat) (h : index ≤ nodes.length) :
    (scanUp (nodes.map Node.width) bound index).bind (nodes[·]?) =
      (nodes.take index).reverse.find? (·.width < bound) := by
  induction index with
  | zero => simp [scanUp]
  | succ index ih =>
      have hlt : index < nodes.length := h
      have hget : nodes[index]? = some nodes[index] := List.getElem?_eq_getElem hlt
      rw [List.take_succ_eq_append_getElem hlt, List.reverse_append, List.reverse_singleton,
        List.singleton_append, List.find?_cons, ← ih (by omega), scanUp]
      simp only [List.getElem?_map, hget, Option.map_some, Option.mem_def, Option.some.injEq,
        exists_eq_left']
      by_cases hw : nodes[index].width < bound
      · simp [hw, hget]
      · simp [hw]

/-- The name of the nearest shallower line of `above`, which lists lines upward. -/
def ownerName (root : String) (above : List Node) (width : Nat) : String :=
  ((above.find? (·.width < width)).map Node.name).getD root

/-- The edges of further lines under the lines `above`, which are listed upward. -/
def edgesUnder (root : String) (above : List Node) : List Node → List Edge
  | [] => []
  | node :: rest =>
      ⟨ownerName root above node.width, node.name, node.ownsView⟩ ::
        edgesUnder root (node :: above) rest

theorem edgesUnder_eq_mapIdx (root : String) (above nodes : List Node) :
    edgesUnder root above nodes = nodes.mapIdx fun i node =>
      ⟨ownerName root ((nodes.take i).reverse ++ above) node.width, node.name, node.ownsView⟩ := by
  induction nodes generalizing above with
  | nil => rfl
  | cons node rest ih =>
      rw [edgesUnder, ih, List.mapIdx_cons]
      simp

theorem edges_eq_mapIdx (o : Outline) (root : String) :
    o.edges root = o.nodes.mapIdx fun i node =>
      ⟨ownerName root (o.nodes.take i).reverse node.width, node.name, node.ownsView⟩ := by
  have hp := parents_eq_mapIdx o.nodes
  apply List.ext_getElem?
  intro i
  simp only [edges, List.getElem?_map, List.getElem?_mapIdx]
  cases hn : o.nodes[i]? with
  | none =>
      have hlen := List.getElem?_eq_none_iff.mp hn
      simp [List.getElem?_eq_none_iff.mpr (show (o.nodes.zip o.parents).length ≤ i by simp; omega)]
  | some node =>
      have hlen := (List.getElem?_eq_some_iff.mp hn).1
      have hi : o.parents[i]? = some (scanUp (o.nodes.map Node.width) node.width i) := by
        rw [show o.parents = _ from hp, List.getElem?_mapIdx, hn, Option.map_some]
      have hz : (o.nodes.zip o.parents)[i]? =
          some (node, scanUp (o.nodes.map Node.width) node.width i) := by
        rw [List.getElem?_zip_eq_some]
        exact ⟨hn, hi⟩
      rw [hz, Option.map_some, Option.map_some, ownerName,
        ← scanUp_bind_getElem? o.nodes node.width i (by omega)]

theorem edges_eq_edgesUnder (o : Outline) (root : String) :
    o.edges root = edgesUnder root [] o.nodes := by
  rw [edges_eq_mapIdx, edgesUnder_eq_mapIdx]
  simp

theorem parents_eq_scanParent? (nodes : List Node) :
    parents ⟨nodes⟩ = (List.range nodes.length).map (scanParent? nodes) := by
  rw [parents_eq_mapIdx]
  apply List.ext_getElem?
  intro i
  rw [List.getElem?_mapIdx, List.getElem?_map]
  by_cases hi : i < nodes.length
  · rw [List.getElem?_range hi, Option.map_some, scanParent?, List.getElem?_eq_getElem hi]
    rfl
  · have hn : nodes[i]? = none := List.getElem?_eq_none (by omega)
    have hr : (List.range nodes.length)[i]? = none := List.getElem?_eq_none (by simp; omega)
    rw [hn, hr]
    rfl

theorem scanParent?_bind_getElem? {nodes : List Node} {index : Nat} {line : Node}
    (h : nodes[index]? = some line) :
    (scanParent? nodes index).bind (nodes[·]?) =
      (nodes.take index).reverse.find? (·.width < line.width) := by
  have hlt := (List.getElem?_eq_some_iff.mp h).1
  rw [← scanUp_bind_getElem? nodes line.width index (by omega), scanParent?, h, Option.bind_some]

theorem edges_eq_scanParent? (o : Outline) (root : String) :
    o.edges root = o.nodes.mapIdx fun i node =>
      ⟨(((scanParent? o.nodes i).bind (o.nodes[·]?)).map Node.name).getD root, node.name,
        node.ownsView⟩ := by
  rw [edges_eq_mapIdx, List.mapIdx_eq_mapIdx_iff]
  intro i hi
  rw [scanParent?_bind_getElem? (List.getElem?_eq_getElem hi)]
  rfl

/-- The parents found in one pass are those of a plain look upward, which finds the greatest index
above a line with a smaller indentation, and the edges name them. -/
theorem parents_eq_backward_scan (nodes : List Node) (text root : String) :
    parents ⟨nodes⟩ = (List.range nodes.length).map (scanParent? nodes) ∧
    (∀ i, (∀ j, scanParent? nodes i = some j ↔ IsGreatest (shallowerAbove nodes i) j) ∧
      (scanParent? nodes i = none ↔ shallowerAbove nodes i = ∅)) ∧
    compile text root = (parse text).map fun o => o.nodes.mapIdx fun i node =>
      ⟨(((scanParent? o.nodes i).bind (o.nodes[·]?)).map Node.name).getD root, node.name,
        node.ownsView⟩ := by
  refine ⟨parents_eq_scanParent? nodes, fun i => ⟨scanParent?_eq_some_iff nodes i,
    scanParent?_eq_none_iff nodes i⟩, ?_⟩
  simp only [compile, edges_eq_scanParent?]

end RibTree.Outline
