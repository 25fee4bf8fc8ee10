import RibTree.Proofs.Declaration.Series
import RibTree.Proofs.Template.Fill
import RibTree.Settings
import RibTree.Template.Standard

/-!
# Standard builders

A builder that is rendered from a standard template has the line above which children are declared,
and declares none. Both can be seen before the name of the component is put in.
-/

namespace RibTree.Standard

set_option autoImplicit false

open Text Declaration

def anchor : List Char := trim "// ribgen:child-builders".toList

/-- The short form of a builder: it has the anchor line, and no construction can end in it,
however its holes are filled. -/
def IsBuilderText (short : List Char) : Prop :=
  '_' ∉ short ∧ '&' ∉ short ∧ (∃ segment ∈ segments short, trim segment = anchor ∧ '@' ∉ segment) ∧
    Apart 't' ')' short ∧ Apart '@' ')' short

instance (short : List Char) : Decidable (IsBuilderText short) :=
  inferInstanceAs (Decidable (_ ∧ _ ∧ (∃ segment ∈ segments short, _) ∧ _ ∧ _))

theorem exists_short_viewBuilder : ∃ short : List Char,
    viewBuilder = file ["RIBs"] (String.ofList short) ∧ IsBuilderText short := by
  refine ⟨_, by rw [viewBuilder], ?_⟩
  decide +kernel

theorem exists_short_plainBuilder : ∃ short : List Char,
    plainBuilder = file ["RIBs"] (String.ofList short) ∧ IsBuilderText short := by
  refine ⟨_, by rw [plainBuilder], ?_⟩
  decide +kernel

def builder (ownsView : Bool) : String := if ownsView then viewBuilder else plainBuilder

theorem get?_builder (ownsView : Bool) :
    templates.get? (.component .builder ownsView "swift") = some (builder ownsView) := by
  cases ownsView with
  | true => rfl
  | false => rfl

theorem isSome_get?_component (ownsView : Bool) :
    ∀ role ∈ Role.all ownsView,
      (templates.get? (.component role ownsView "swift")).isSome = true := by
  cases ownsView with
  | true => decide +kernel
  | false => decide +kernel

theorem get?_extension : templates.get? (.extension "swift") = some extension := rfl

def heading : List Char := "import RIBs\n\n".toList

/-- A short form with the marks in the places of its holes. -/
def marked (short : List Char) : List Char :=
  short.flatMap fun c => if c = '@' then productMark else if c = '&' then childMark else [c]

theorem toList_file (short : List Char) :
    (file ["RIBs"] (String.ofList short)).toList = heading ++ marked short := by
  rw [file, expand, String.toList_ofList, String.toList_append, String.toList_ofList,
    String.toList_append]
  rfl

/-- A file without child marks, rendered, is its short form filled with the name. -/
theorem render_file {short : List Char} (hunderscore : '_' ∉ heading ++ short)
    (hchild : '&' ∉ short) (name : String) :
    ({ product := name } : Placeholders).render (file ["RIBs"] (String.ofList short)) =
      String.ofList (fill '@' name.toList (heading ++ short)) := by
  have hmarked : marked short = fill '@' productMark short := by
    apply List.flatMap_congr
    intro c hc
    have hne : c ≠ '&' := fun he => hchild (he ▸ hc)
    simp [hne]
  have hheading : fill '@' productMark heading = heading := fill_of_notMem (by decide)
  have hmark : productMark = '_' :: productMark.tail := rfl
  rw [Placeholders.render, toList_file, hmarked, ← hheading, ← fill_append, hheading, hmark,
    replaceAll_fill hunderscore]

theorem isBuilderText_heading_append {short : List Char} (h : IsBuilderText short) :
    IsBuilderText (heading ++ short) := by
  obtain ⟨hunderscore, hchild, ⟨segment, hsegment, hanchor⟩, hletter, hhole⟩ := h
  have hnot : ∀ {c : Char}, c ∉ heading → c ∉ short → c ∉ heading ++ short := fun hh hs hm =>
    (List.mem_append.mp hm).elim hh hs
  have hlines : WholeLines heading := wholeLines_concat "import RIBs\n".toList
  have hend : heading.getLast? = some '\n' := by decide
  refine ⟨hnot (by decide) hunderscore, hnot (by decide) hchild, ⟨segment, ?_, hanchor⟩, ?_, ?_⟩
  · rw [segments_append hlines]
    exact List.mem_append_right _ hsegment
  · exact apart_append_iff.mpr ⟨by decide, hletter, by simp [hend]⟩
  · exact apart_append_iff.mpr ⟨by decide, hhole, by simp [hend]⟩

/-- A rendered builder is its short form filled with the name of the component. -/
theorem exists_short_render (ownsView : Bool) (name : String) : ∃ short, IsBuilderText short ∧
    (({ product := name } : Placeholders).render (builder ownsView)).toList =
      fill '@' name.toList short := by
  have hshort : ∃ short : List Char,
      builder ownsView = file ["RIBs"] (String.ofList short) ∧ IsBuilderText short := by
    cases ownsView with
    | true => exact exists_short_viewBuilder
    | false => exact exists_short_plainBuilder
  obtain ⟨short, hbuilder, h⟩ := hshort
  have hfull := isBuilderText_heading_append h
  refine ⟨heading ++ short, hfull, ?_⟩
  rw [hbuilder, render_file hfull.1 h.2.1, String.toList_ofList]

theorem hasAnchor_render (ownsView : Bool) {name : String} (hname : IsWord name) (hne : name ≠ "") :
    HasAnchor anchor (({ product := name } : Placeholders).render (builder ownsView)).toList := by
  obtain ⟨short, ⟨-, -, ⟨segment, hsegment, htrim, hhole⟩, -, -⟩, hrender⟩ :=
    exists_short_render ownsView name
  rw [hrender]
  refine ⟨segment, ?_, htrim⟩
  rw [segments_fill (by decide) (hname.notMem (by decide)) (by simpa using hne)]
  exact List.mem_map.mpr ⟨segment, hsegment, fill_of_notMem hhole⟩

theorem isDeclared_render (ownsView : Bool) {name : String} (hname : IsWord name) (hne : name ≠ "")
    (child : String) :
    isDeclared child (({ product := name } : Placeholders).render (builder ownsView)) = false := by
  obtain ⟨short, ⟨-, -, -, hletter, hhole⟩, hrender⟩ := exists_short_render ownsView name
  have hapart : Apart 't' ')' (fill '@' name.toList short) :=
    apart_fill (hname.notMem (by decide)) (by simpa using hne) hletter hhole
  by_contra hdeclared
  rw [Bool.not_eq_false, isDeclared, hrender] at hdeclared
  obtain ⟨x, y, hxy, -⟩ := exists_of_occursAfter hdeclared
  refine hapart.not_pair (x := x ++ constructionHead child ++ ": componen".toList) (y := y) ?_
  rw [hxy, construction_toList]
  simp

end RibTree.Standard
