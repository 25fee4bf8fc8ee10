import RibTree.Proofs.Outline.Grammar
import RibTree.Proofs.Outline.Parent
import RibTree.Proofs.Text.Line

/-!
# Written forests

A forest whose nodes are indented more than their parents and no more than the siblings before
them, written with one bullet on a line, is read back from the outline edge by edge. The widths
themselves do not matter.
-/

namespace RibTree

set_option autoImplicit false

namespace Node

/-- The name has characters, and none of them is a blank or says something about the view. -/
def HasPlainName (n : Node) : Prop :=
  n.name ≠ "" ∧ ∀ c ∈ n.name.toList, Text.isBlank c = false ∧ c ≠ noViewMark

instance (n : Node) : Decidable n.HasPlainName :=
  @instDecidableAnd _ _ _ (List.decidableBAll _ n.name.toList)

def bullet (n : Node) : List Char :=
  List.replicate n.width ' ' ++ bulletMark ++ n.name.toList ++
    if n.ownsView then [] else [noViewMark]

theorem ofLine?_bullet {n : Node} (h : n.HasPlainName) (number : Nat) :
    ofLine? number n.bullet = .ok (some n) := by
  obtain ⟨width, name, ownsView⟩ := n
  obtain ⟨hne, hchars⟩ := h
  simp only at hne hchars
  have hblank : ∀ c ∈ name.toList, Text.isBlank c = false := fun c hc => (hchars c hc).1
  have hstar : noViewMark ∉ name.toList := fun hm => (hchars _ hm).2 rfl
  have hdrop : Text.dropBlanks name.toList = name.toList := by
    rw [Text.dropBlanks, List.filter_eq_self]
    intro c hc
    simp [hblank c hc]
  have hfilter : name.toList.filter (· != noViewMark) = name.toList := by
    rw [List.filter_eq_self]
    intro c hc
    simp [(hchars c hc).2]
  have hindent : (List.replicate width ' ').all Text.isBlank = true := by
    rw [List.all_replicate]
    simp [show Text.isBlank ' ' = true from rfl]
  have hspaces : ∀ {c : Char}, c ≠ ' ' → c ∉ List.replicate width ' ' := fun hc hm =>
    hc (List.eq_of_mem_replicate hm)
  have hnil : name.toList ≠ [] := by simpa using hne
  have hmark : Text.dropBlanks [noViewMark] = [noViewMark] := rfl
  have hcut := bulletCut_of_notMem (hspaces (c := '-') (by decide))
  have htab : '\t' ∉ List.replicate width ' ' := hspaces (by decide)
  rw [bullet, ofLine?, List.append_assoc, bulletCut_iff.mp (hcut _)]
  simp only [hindent, htab, Text.dropBlanks_append, hdrop]
  cases ownsView
  · simp [hmark, hfilter, hnil]
  · simp [hfilter, hnil, hstar, Text.dropBlanks]

theorem newline_notMem_bullet {n : Node} (h : n.HasPlainName) : '\n' ∉ n.bullet := by
  have hname : '\n' ∉ n.name.toList := fun hm => absurd (h.2 _ hm).1 (by decide)
  have hindent : '\n' ∉ List.replicate n.width ' ' := fun hm =>
    absurd (List.eq_of_mem_replicate hm) (by decide)
  cases hv : n.ownsView <;> simp [bullet, bulletMark, noViewMark, hname, hindent, hv]

theorem getLast?_bullet_ne {n : Node} (h : n.HasPlainName) : n.bullet.getLast? ≠ some '\r' := by
  cases hv : n.ownsView
  · simp [bullet, noViewMark, hv]
  · obtain ⟨hne, hchars⟩ := h
    have hnil : n.name.toList ≠ [] := by simpa using hne
    rw [bullet, hv, if_pos rfl, List.append_nil, List.getLast?_append_of_ne_nil _ hnil]
    intro hl
    exact absurd (hchars _ (List.mem_of_getLast? hl)).1 (by decide)

theorem bullet_ne_nil (n : Node) : n.bullet ≠ [] := by simp [bullet, bulletMark]

end Node

/-- A finite ordered forest: none, or a tree, given by its root and what is under it, with the
trees beside it. -/
inductive Forest
  | empty
  | tree (root : Node) (under beside : Forest)
  deriving DecidableEq, Repr

namespace Forest

def nodes : Forest → List Node
  | empty => []
  | tree root under beside => root :: (under.nodes ++ beside.nodes)

/-- The edges from `parent` to the roots and from every node to its children, in document order. -/
def edges : Forest → String → List Edge
  | empty, _ => []
  | tree root under beside, parent =>
      ⟨parent, root.name, root.ownsView⟩ :: (under.edges root.name ++ beside.edges parent)

/-- Every node is indented more than its parent and no more than the sibling before it. `outer` is
the width above the roots and `left` the width before the first of them. -/
def Indented : Forest → (outer left : Option Nat) → Prop
  | empty, _, _ => True
  | tree root under beside, outer, left =>
      (∀ w ∈ outer, w < root.width) ∧ (∀ w ∈ left, root.width ≤ w) ∧
        under.Indented (some root.width) none ∧ beside.Indented outer (some root.width)

instance decidableIndented : (f : Forest) → (outer left : Option Nat) →
    Decidable (f.Indented outer left)
  | empty, _, _ => isTrue trivial
  | tree root under beside, outer, _ =>
      have := decidableIndented under (some root.width) none
      have := decidableIndented beside outer (some root.width)
      inferInstanceAs (Decidable (_ ∧ _ ∧ _ ∧ _))

/-- The forest with a line for every node. The last line has an end if `closed`. -/
def text (f : Forest) (closed : Bool) : String :=
  String.ofList (List.intercalate ['\n'] (f.nodes.map Node.bullet) ++ if closed then ['\n'] else [])

theorem Indented.lt_width {f : Forest} {outer : Nat} {left : Option Nat}
    (h : f.Indented (some outer) left) : ∀ n ∈ f.nodes, outer < n.width := by
  induction f generalizing outer left with
  | empty => simp [nodes]
  | tree root under beside ihUnder ihBeside =>
      obtain ⟨hroot, -, hunder, hbeside⟩ := h
      have hlt : outer < root.width := hroot outer rfl
      intro n hn
      rcases List.mem_cons.mp hn with rfl | hn
      · exact hlt
      rcases List.mem_append.mp hn with hn | hn
      · exact hlt.trans (ihUnder hunder n hn)
      · exact ihBeside hbeside n hn

/-- While a forest is read, the look upward from any width that can still come beside it passes
over what was read and finds the parent. -/
theorem edgesUnder_nodes {root parent : String} {f : Forest} {outer left : Option Nat}
    (h : f.Indented outer left) (above : List Node)
    (hparent : ∀ w, (∀ o ∈ outer, o < w) → (∀ l ∈ left, w ≤ l) →
      Outline.ownerName root above w = parent) (rest : List Node) :
    Outline.edgesUnder root above (f.nodes ++ rest) =
      f.edges parent ++ Outline.edgesUnder root (f.nodes.reverse ++ above) rest := by
  induction f generalizing outer left above rest parent with
  | empty => rfl
  | tree node under beside ihUnder ihBeside =>
      obtain ⟨houter, hleft, hunder, hbeside⟩ := h
      have hown : ∀ w, (∀ o ∈ some node.width, o < w) → (∀ l ∈ (none : Option Nat), w ≤ l) →
          Outline.ownerName root (node :: above) w = node.name := by
        intro w hw _
        have hlt : node.width < w := hw _ rfl
        simp [Outline.ownerName, hlt]
      have hpast : ∀ w, (∀ o ∈ outer, o < w) → (∀ l ∈ some node.width, w ≤ l) →
          Outline.ownerName root (under.nodes.reverse ++ node :: above) w = parent := by
        intro w hw hl
        have hle : w ≤ node.width := hl _ rfl
        have hnone : under.nodes.reverse.find? (·.width < w) = none := by
          rw [List.find?_eq_none]
          intro m hm
          have := hunder.lt_width m (List.mem_reverse.mp hm)
          simp only [decide_eq_true_eq]
          omega
        have hnode : ¬ node.width < w := by omega
        rw [← hparent w hw (fun l h => hle.trans (hleft l h)), Outline.ownerName,
          Outline.ownerName, List.find?_append, hnone, List.find?_cons_of_neg (by simpa using hnode),
          Option.none_or]
      rw [nodes, edges, List.cons_append, Outline.edgesUnder, hparent _ houter hleft,
        List.append_assoc, ihUnder hunder _ hown, ihBeside hbeside _ hpast]
      simp

theorem lines_intercalate {ls : List (List Char)} (hne : ls ≠ [])
    (h : ∀ l ∈ ls, '\n' ∉ l ∧ l.getLast? ≠ some '\r' ∧ l ≠ []) (closed : Bool) :
    Text.lines (List.intercalate ['\n'] ls ++ if closed then ['\n'] else []) = ls := by
  induction ls with
  | nil => exact absurd rfl hne
  | cons l ls ih =>
      obtain ⟨hl, hr, hn⟩ := h l List.mem_cons_self
      cases hls : ls with
      | nil =>
          cases closed
          · simpa using Text.lines_of_notMem hl hn
          · simpa using Text.lines_concat hl hr
      | cons m ms =>
          have ht := ih (by simp [hls]) fun k hk => h k (List.mem_cons_of_mem l hk)
          rw [hls] at ht
          rw [List.intercalate_cons_cons, List.append_assoc,
            Text.lines_append (Text.wholeLines_concat l), Text.lines_concat hl hr, ht]
          rfl

theorem readFrom_bullets {nodes : List Node} (hplain : ∀ n ∈ nodes, n.HasPlainName)
    (hnodup : (nodes.map Node.name).Nodup) {seen : List String}
    (hseen : ∀ n ∈ nodes, n.name ∉ seen) (number : Nat) :
    Outline.readFrom seen number (nodes.map Node.bullet) = .ok nodes := by
  induction nodes generalizing seen number with
  | nil => rfl
  | cons n nodes ih =>
      rw [List.map_cons, List.nodup_cons] at hnodup
      have ht : Outline.readFrom (n.name :: seen) (number + 1) (nodes.map Node.bullet) =
          .ok nodes := by
        apply ih (fun m hm => hplain m (List.mem_cons_of_mem n hm)) hnodup.2
        intro m hm hmem
        rcases List.mem_cons.mp hmem with he | hmem
        · exact hnodup.1 (he ▸ List.mem_map_of_mem hm)
        · exact hseen m (List.mem_cons_of_mem n hm) hmem
      rw [List.map_cons, Outline.readFrom,
        Node.ofLine?_bullet (hplain n List.mem_cons_self)]
      simp only [hseen n List.mem_cons_self, if_false, ht]
      rfl

theorem parse_text {f : Forest} (hplain : ∀ n ∈ f.nodes, n.HasPlainName)
    (hnodup : (f.nodes.map Node.name).Nodup) (closed : Bool) :
    Outline.parse (f.text closed) = .ok ⟨f.nodes⟩ := by
  by_cases hnil : f.nodes = []
  · cases closed <;> simp [Outline.parse, text, hnil] <;> rfl
  · have hlines : Text.lines (f.text closed).toList = f.nodes.map Node.bullet := by
      rw [text, String.toList_ofList, lines_intercalate (by simpa using hnil)]
      intro l hl
      obtain ⟨n, hn, rfl⟩ := List.mem_map.mp hl
      exact ⟨Node.newline_notMem_bullet (hplain n hn), Node.getLast?_bullet_ne (hplain n hn),
        n.bullet_ne_nil⟩
    rw [Outline.parse, hlines, readFrom_bullets hplain hnodup (by simp)]
    rfl

/-- Compiling a written forest gives back its edges. -/
theorem compile_text (f : Forest) (hindent : f.Indented none none)
    (hplain : ∀ n ∈ f.nodes, n.HasPlainName) (hnodup : (f.nodes.map Node.name).Nodup)
    (closed : Bool) (root : String) : compile (f.text closed) root = .ok (f.edges root) := by
  have hroot : ∀ w, (∀ o ∈ (none : Option Nat), o < w) → (∀ l ∈ (none : Option Nat), w ≤ l) →
      Outline.ownerName root [] w = root := fun _ _ _ => rfl
  have hedges := edgesUnder_nodes hindent [] hroot []
  rw [List.append_nil] at hedges
  rw [compile, parse_text hplain hnodup]
  simp only [Except.map, Outline.edges_eq_edgesUnder, hedges]
  simp [Outline.edgesUnder]

/-- Siblings may be indented less and less, and trees may begin left of those before them. -/
theorem compile_text_jagged :
    let f : Forest := .tree ⟨2, "A", true⟩
      (.tree ⟨7, "B", false⟩ .empty (.tree ⟨5, "C", true⟩ (.tree ⟨6, "D", true⟩ .empty .empty) .empty))
      (.tree ⟨0, "E", false⟩ .empty .empty)
    f.Indented none none ∧ (∀ n ∈ f.nodes, n.HasPlainName) ∧ (f.nodes.map Node.name).Nodup ∧
      compile (f.text false) "App" = .ok [⟨"App", "A", true⟩, ⟨"A", "B", false⟩, ⟨"A", "C", true⟩,
        ⟨"C", "D", true⟩, ⟨"App", "E", false⟩] := by
  refine ⟨by decide, by decide, by decide, ?_⟩
  exact compile_text _ (by decide) (by decide) (by decide) false "App"

end Forest

end RibTree
