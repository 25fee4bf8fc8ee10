import Mathlib.Data.List.Infix
import RibTree.Proofs.Template.Fill

/-!
# Templates in pieces

A template of plain pieces and marks is rendered as if the names took the places of all marks at
once, although the marks are replaced one kind after the other. Marks begin and end in underscores,
so the argument is about those: the first underscores of what follows a piece are three or more, and
no mark that begins at the end of another one can go on like that.
-/

namespace RibTree

set_option autoImplicit false

open Text

namespace Template

/-- A piece of a template, with no underscore outside the marks. -/
inductive Piece
  | plain (text : List Char) (noUnderscore : '_' ∉ text)
  | product
  | child

def Piece.text (product child : List Char) : Piece → List Char
  | plain text _ => text
  | .product => product
  | .child => child

/-- The text of the pieces with these texts in the places of the marks. -/
def filled (product child : List Char) (pieces : List Piece) : List Char :=
  pieces.flatMap (Piece.text product child)

def ofPieces (pieces : List Piece) : String :=
  String.ofList (filled productMark childMark pieces)

variable {product child t : List Char} {pieces : List Piece}

theorem filled_cons (product child : List Char) (piece : Piece) (pieces : List Piece) :
    filled product child (piece :: pieces) =
      piece.text product child ++ filled product child pieces := List.flatMap_cons

/-- The underscores that begin first in the text are three or more. -/
def BeginsInThree (t : List Char) : Prop :=
  t.dropWhile (· ≠ '_') = [] ∨ ['_', '_', '_'] <+: t.dropWhile (· ≠ '_')

theorem dropWhile_underscore_append {u : List Char} (hu : '_' ∉ u) (t : List Char) :
    (u ++ t).dropWhile (· ≠ '_') = t.dropWhile (· ≠ '_') := by
  apply List.dropWhile_append_of_pos
  intro c hc
  exact decide_eq_true fun he => hu (he ▸ hc)

theorem beginsInThree_filled (pieces : List Piece) :
    BeginsInThree (filled productMark childMark pieces) := by
  induction pieces with
  | nil => exact Or.inl rfl
  | cons piece pieces ih =>
      rw [filled_cons]
      cases piece with
      | plain text hunderscore =>
          rw [Piece.text, BeginsInThree, dropWhile_underscore_append hunderscore]
          exact ih
      | product => exact Or.inr ⟨_, rfl⟩
      | child => exact Or.inr ⟨_, rfl⟩

/-- A text whose first underscores are fewer than three, with more behind them, does not begin one
in which they are three. -/
theorem BeginsInThree.not_prefix (ht : BeginsInThree t) {r : List Char}
    (hlength : 3 ≤ (r.dropWhile (· ≠ '_')).length)
    (hfewer : ¬ ['_', '_', '_'] <+: r.dropWhile (· ≠ '_')) : ¬ r <+: t := by
  rintro ⟨u, rfl⟩
  have hne : r.dropWhile (· ≠ '_') ≠ [] := by
    intro hnil
    rw [hnil] at hlength
    exact absurd hlength (by decide)
  have hsplit : (r ++ u).dropWhile (· ≠ '_') = r.dropWhile (· ≠ '_') ++ u := by
    rw [List.dropWhile_append, if_neg fun h => hne (List.isEmpty_iff.mp h)]
  rw [BeginsInThree, hsplit] at ht
  rcases ht with hnil | hthree
  · exact hne (List.append_eq_nil_iff.mp hnil).1
  · exact hfewer (List.prefix_of_prefix_length_le hthree (List.prefix_append _ u) hlength)

/-- A text that ends one mark and begins the other is made of underscores, too few of them for what
is left of the other. -/
theorem few_underscores : ∀ y ∈ childMark.tails, y ≠ [] → y <+: productMark →
    3 ≤ ((productMark.drop y.length).dropWhile (· ≠ '_')).length ∧
      ¬ ['_', '_', '_'] <+: (productMark.drop y.length).dropWhile (· ≠ '_') := by
  decide

theorem productMark_not_prefix_child (ht : BeginsInThree t) {x y : List Char}
    (hxy : childMark = x ++ y) (hy : y ≠ []) : ¬ productMark <+: y ++ t := by
  intro hprefix
  have htails : y ∈ childMark.tails := (List.mem_tails _ _).mpr ⟨x, hxy.symm⟩
  have hlength : y.length ≤ productMark.length := by
    have hle : y.length ≤ childMark.length := by
      rw [hxy, List.length_append]
      omega
    exact hle.trans (by decide)
  have hbegins : y <+: productMark :=
    List.prefix_of_prefix_length_le (List.prefix_append y t) hprefix hlength
  obtain ⟨hlong, hfewer⟩ := few_underscores y htails hy hbegins
  obtain ⟨r, hr⟩ := hbegins
  have hrest : productMark.drop y.length = r := by rw [← hr, List.drop_left]
  rw [hrest] at hlong hfewer
  rw [← hr, List.prefix_append_right_inj] at hprefix
  exact ht.not_prefix hlong hfewer hprefix

theorem mark_not_prefix_plain {mark text : List Char} (hmark : mark.head? = some '_')
    (htext : '_' ∉ text) (t : List Char) {x y : List Char} (hxy : text = x ++ y) (hy : y ≠ []) :
    ¬ mark <+: y ++ t := by
  rintro ⟨u, hu⟩
  obtain ⟨c, y, rfl⟩ := List.exists_cons_of_ne_nil hy
  obtain ⟨rest, rfl⟩ := List.head?_eq_some_iff.mp hmark
  obtain ⟨rfl, -⟩ := List.cons.inj hu
  exact htext (by simp [hxy])

theorem replaceAll_productMark (product : List Char) (pieces : List Piece) :
    replaceAll productMark product (filled productMark childMark pieces) =
      filled product childMark pieces := by
  induction pieces with
  | nil => rfl
  | cons piece pieces ih =>
      rw [filled_cons, filled_cons, ← ih]
      cases piece with
      | plain text hunderscore =>
          exact replaceAll_append_of_not_prefix fun x y hxy hy =>
            mark_not_prefix_plain rfl hunderscore _ hxy hy
      | product => exact replaceAll_mark_append (by decide) _
      | child =>
          exact replaceAll_append_of_not_prefix fun x y hxy hy =>
            productMark_not_prefix_child (beginsInThree_filled pieces) hxy hy

/-- A name without underscores is like a plain piece, so that only the other marks are left. -/
theorem replaceAll_childMark (hproduct : '_' ∉ product) (child : List Char) (pieces : List Piece) :
    replaceAll childMark child (filled product childMark pieces) =
      filled product child pieces := by
  induction pieces with
  | nil => rfl
  | cons piece pieces ih =>
      rw [filled_cons, filled_cons, ← ih]
      cases piece with
      | plain text hunderscore =>
          exact replaceAll_append_of_not_prefix fun x y hxy hy =>
            mark_not_prefix_plain rfl hunderscore _ hxy hy
      | product =>
          exact replaceAll_append_of_not_prefix fun x y hxy hy =>
            mark_not_prefix_plain rfl hproduct _ hxy hy
      | child => exact replaceAll_mark_append (by decide) _

/-- Rendering puts the names in the places of the marks. Without a child its marks stay; with one,
its name may be any text, and the name of the component any without an underscore. -/
theorem render_ofPieces (pieces : List Piece) (product : String) :
    ({ product } : Placeholders).render (ofPieces pieces) =
        String.ofList (filled product.toList childMark pieces) ∧
      ∀ child : String, '_' ∉ product.toList →
        ({ product, child := some child } : Placeholders).render (ofPieces pieces) =
          String.ofList (filled product.toList child.toList pieces) := by
  have hproduct := replaceAll_productMark product.toList pieces
  constructor
  · rw [Placeholders.render, ofPieces, String.toList_ofList, hproduct]
  · intro child hunderscore
    rw [Placeholders.render, ofPieces, String.toList_ofList, hproduct]
    exact congrArg String.ofList (replaceAll_childMark hunderscore child.toList pieces)

/-- Marks side by side, a plain piece that reads like the inside of a mark, and a child whose name is
the other mark. -/
theorem render_ofPieces_adjacent :
    let pieces := [.child, .product, .plain "VARIABLE".toList (by decide), .child]
    let child := "___VARIABLE_productName___"
    '_' ∉ "App".toList ∧
      ({ product := "App", child := some child } : Placeholders).render (ofPieces pieces) =
        child ++ "App" ++ "VARIABLE" ++ child := by
  intro pieces child
  have hproduct : '_' ∉ "App".toList := by decide
  refine ⟨hproduct, ?_⟩
  rw [(render_ofPieces pieces "App").2 child hproduct]
  decide +kernel

end Template

end RibTree
