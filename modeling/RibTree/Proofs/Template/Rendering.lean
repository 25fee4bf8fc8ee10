import RibTree.Proofs.Template.Fill

/-!
# Rendered templates

What a template and the names for it come to, said without a search: the places of a mark are taken
from the left, each one gets the name, and all that lies between them stays. Rendering gives such a
text, and there is no other.
-/

namespace RibTree

set_option autoImplicit false

namespace Text

/-- The second text is the first one with `new` in the places of `mark`, taken from the left. -/
inductive Replaced (mark new : List Char) : List Char → List Char → Prop
  | nil : Replaced mark new [] []
  | place {s t : List Char} : Replaced mark new s t → Replaced mark new (mark ++ s) (new ++ t)
  | other {c : Char} {s t : List Char} :
      ¬ mark <+: c :: s → Replaced mark new s t → Replaced mark new (c :: s) (c :: t)

variable {mark new s t : List Char} (hmark : mark ≠ [])
include hmark

theorem replaced_replaceAll (new s : List Char) : Replaced mark new s (replaceAll mark new s) := by
  -- a place takes the whole mark from the text, so that the induction is on the length
  induction hlength : s.length using Nat.strong_induction_on generalizing s with
  | _ n ih =>
      by_cases hplace : mark <+: s
      · obtain ⟨t, rfl⟩ := hplace
        have hshorter : t.length < n := by
          have := List.length_pos_iff.mpr hmark
          rw [List.length_append] at hlength
          omega
        rw [replaceAll_mark_append hmark]
        exact .place (ih t.length hshorter t rfl)
      · cases s with
        | nil => exact .nil
        | cons c s =>
            have hnone : ¬ mark.isPrefixOf (c :: s) = true := by
              rwa [List.isPrefixOf_iff_prefix]
            rw [replaceAll, replaceFrom, if_neg hnone]
            exact .other hplace (ih s.length (by rw [← hlength]; exact Nat.lt_succ_self _) s rfl)

theorem Replaced.eq_replaceAll (h : Replaced mark new s t) : t = replaceAll mark new s := by
  induction h with
  | nil => rfl
  | place _ ih => rw [replaceAll_mark_append hmark, ih]
  | other hplace _ ih =>
      rw [← List.isPrefixOf_iff_prefix] at hplace
      rw [replaceAll, replaceFrom, if_neg hplace, ih, replaceAll]

end Text

namespace Placeholders

/-- The text is the template with the product in the places of the product marks and then, if there
is a child, with the child in those of the child marks. -/
inductive Rendered : Placeholders → String → String → Prop
  | own {product template text : String} :
      Text.Replaced productMark product.toList template.toList text.toList →
      Rendered { product } template text
  | ofChild {product child template text : String} {named : List Char} :
      Text.Replaced productMark product.toList template.toList named →
      Text.Replaced childMark child.toList named text.toList →
      Rendered { product, child := some child } template text

theorem rendered_render (names : Placeholders) (template : String) :
    names.Rendered template (names.render template) := by
  have hmark : productMark ≠ [] := by decide
  have hproduct := Text.replaced_replaceAll hmark names.product.toList template.toList
  obtain ⟨product, child⟩ := names
  cases child with
  | none =>
      refine .own ?_
      rw [render, String.toList_ofList]
      exact hproduct
  | some child =>
      refine .ofChild hproduct ?_
      rw [render, String.toList_ofList]
      exact Text.replaced_replaceAll (by decide) child.toList _

theorem Rendered.eq_render {names : Placeholders} {template text : String}
    (h : names.Rendered template text) : text = names.render template := by
  cases h with
  | own hproduct =>
      have htext := congrArg String.ofList (hproduct.eq_replaceAll (by decide))
      rw [String.ofList_toList] at htext
      exact htext
  | ofChild hproduct hchild =>
      have htext := congrArg String.ofList (hchild.eq_replaceAll (by decide))
      rw [String.ofList_toList, hproduct.eq_replaceAll (by decide)] at htext
      exact htext

end Placeholders

end RibTree
