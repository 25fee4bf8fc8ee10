import RibTree.Outline.Line
import RibTree.Text.Line

/-!
# Outlines

The components of an indented list, in document order, and the edges between them. The parent of
a component is the nearest component above it with a smaller indentation. Indentations are only
compared with one another, so only their order matters.
-/

namespace RibTree

set_option autoImplicit false

/-- `parent` owns `target`. -/
structure Edge where
  parent : String
  target : String
  ownsView : Bool
  deriving DecidableEq, Repr

/-- For every width the index of the nearest width before it that is smaller. `seen` lists the
earlier indices that can still be an answer, the nearest first; widths fall along it, so what a
new width hides stands at its front. -/
def nearestSmallerFrom (seen : List (Nat × Nat)) (index : Nat) : List Nat → List (Option Nat)
  | [] => []
  | width :: rest =>
      let left := seen.dropWhile fun entry => width ≤ entry.2
      left.head?.map (·.1) :: nearestSmallerFrom ((index, width) :: left) (index + 1) rest

def nearestSmaller (widths : List Nat) : List (Option Nat) :=
  nearestSmallerFrom [] 0 widths

structure Outline where
  nodes : List Node
  deriving DecidableEq, Repr

namespace Outline

/-- Reads numbered lines. `seen` holds the names declared above them. -/
def readFrom (seen : List String) (number : Nat) :
    List (List Char) → Except OutlineFailure (List Node)
  | [] => .ok []
  | line :: rest =>
      match Node.ofLine? number line with
      | .error e => .error e
      | .ok none => readFrom seen (number + 1) rest
      | .ok (some node) =>
          if node.name ∈ seen then .error (.duplicate number node.name)
          else (readFrom (node.name :: seen) (number + 1) rest).map (node :: ·)

/-- The first line that breaks a rule decides the failure; lines count from one. -/
def parse (text : String) : Except OutlineFailure Outline :=
  (readFrom [] 1 (Text.lines text.toList)).map Outline.mk

/-- For every node the index of its parent; `none` stands for the root. -/
def parents (o : Outline) : List (Option Nat) :=
  nearestSmaller (o.nodes.map Node.width)

def parentOf? (o : Outline) (index : Nat) : Option Node :=
  (o.parents[index]?.join).bind (o.nodes[·]?)

/-- Edges in document order. Components without a parent hang from `root`. -/
def edges (o : Outline) (root : String) : List Edge :=
  (o.nodes.zip o.parents).map fun (node, parent) =>
    ⟨((parent.bind (o.nodes[·]?)).map Node.name).getD root, node.name, node.ownsView⟩

end Outline

/-- The edges that an outline declares under `root`. -/
def compile (text root : String) : Except OutlineFailure (List Edge) :=
  (Outline.parse text).map (·.edges root)

@[simp] theorem length_nearestSmallerFrom (widths : List Nat) (seen : List (Nat × Nat))
    (index : Nat) : (nearestSmallerFrom seen index widths).length = widths.length := by
  induction widths generalizing seen index with
  | nil => rfl
  | cons width rest ih => simp [nearestSmallerFrom, ih]

@[simp] theorem Outline.length_parents (o : Outline) : o.parents.length = o.nodes.length := by
  simp [Outline.parents, nearestSmaller]

@[simp] theorem Outline.length_edges (o : Outline) (root : String) :
    (o.edges root).length = o.nodes.length := by
  simp [Outline.edges]

end RibTree
