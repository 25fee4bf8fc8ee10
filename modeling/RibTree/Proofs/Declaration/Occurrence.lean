import RibTree.Proofs.Declaration.Insertion

/-!
# Declarations as occurrences

A mark whose last character stands nowhere else in it cannot overlap itself, so a search that
passes over what it has found misses no occurrence. The construction of a child is such a mark if
the name has no closing bracket: the child is declared exactly where its construction stands and no
name goes on into it.
-/

namespace RibTree

set_option autoImplicit false

namespace Text

variable {body x y z t : List Char} {final : Char} {before : Option Char → Bool}

/-- After an occurrence at the start, the next one begins behind it. -/
theorem exists_append_of_overlap (hfinal : final ∉ body) (hx : x ≠ [])
    (h : (body ++ [final]) ++ t = x ++ ((body ++ [final]) ++ y)) :
    ∃ z, x = (body ++ [final]) ++ z := by
  rcases List.append_eq_append_iff.mp h with ⟨z, hz, -⟩ | ⟨z, hmark, hz⟩
  · exact ⟨z, hz⟩
  · rcases List.eq_nil_or_concat' z with rfl | ⟨front, last, rfl⟩
    · exact ⟨[], by rw [hmark, List.append_nil, List.append_nil]⟩
    · -- The second occurrence would begin inside the first and have the end of it in its body.
      rw [← List.append_assoc] at hmark
      obtain ⟨hbody, hlast⟩ := List.append_inj' hmark rfl
      obtain rfl : final = last := by simpa using hlast
      have hends : body ++ final :: y = front ++ final :: t := by simpa using hz
      have hlt : front.length < body.length := by
        rw [hbody, List.length_append]
        exact Nat.lt_add_of_pos_left (List.length_pos_of_ne_nil hx)
      have hat : (body ++ final :: y)[front.length]? = some final := by simp [hends]
      rw [List.getElem?_append_left hlt] at hat
      exact absurd (List.mem_of_getElem? hat) hfinal

/-- What is left of an occurrence is passed over. -/
theorem occursFrom_length_append (mark p t : List Char) (last : Option Char) :
    occursFrom mark before last p.length (p ++ t) =
      occursFrom mark before (p.getLast?.or last) 0 t := by
  induction p generalizing last with
  | nil => rfl
  | cons c p ih =>
      rw [List.cons_append, List.length_cons, occursFrom, ih, getLast?_cons_or]

theorem occursFrom_of_append (hfinal : final ∉ body) (last : Option Char)
    (hbefore : before (x.getLast?.or last) = true) :
    occursFrom (body ++ [final]) before last 0 (x ++ ((body ++ [final]) ++ y)) = true := by
  induction hlength : x.length using Nat.strong_induction_on generalizing x last with
  | _ n ih =>
    subst hlength
    cases x with
    | nil => exact occursFrom_self (by simp) hbefore y
    | cons c x =>
        rw [List.cons_append, occursFrom]
        split
        · -- Another occurrence is found here and passed over; the one in question is behind it.
          rename_i hprefix
          obtain ⟨t, ht⟩ := List.isPrefixOf_iff_prefix.mp hprefix
          rw [Bool.or_eq_true]
          right
          obtain ⟨z, hz⟩ := exists_append_of_overlap hfinal (List.cons_ne_nil c x) ht
          obtain ⟨d, rest, hmark⟩ := List.exists_cons_of_ne_nil (l := body ++ [final]) (by simp)
          rw [hmark, List.cons_append, List.cons.injEq] at hz
          obtain ⟨rfl, rfl⟩ := hz
          rw [getLast?_cons_or, List.getLast?_append, Option.or_assoc] at hbefore
          rw [hmark, List.length_cons, Nat.add_sub_cancel, ← hmark, List.append_assoc,
            occursFrom_length_append]
          have hshorter : z.length < (c :: (rest ++ z)).length := by
            rw [List.length_cons, List.length_append]
            omega
          exact ih z.length hshorter _ hbefore rfl
        · rw [getLast?_cons_or] at hbefore
          exact ih x.length (by simp) (some c) hbefore rfl

theorem occursAfter_concat_iff (hfinal : final ∉ body) (s : List Char) :
    occursAfter (body ++ [final]) before s = true ↔
      ∃ x y, s = x ++ (body ++ [final]) ++ y ∧ before x.getLast? = true := by
  refine ⟨exists_of_occursAfter, ?_⟩
  rintro ⟨x, y, rfl, hbefore⟩
  rw [List.append_assoc]
  exact occursFrom_of_append hfinal none (by rwa [Option.or_none])

end Text

namespace Declaration

open Text

theorem construction_eq_concat (child : String) :
    (construction child).toList = (constructionHead child ++ ": component".toList) ++ [')'] := by
  simp [construction_toList]

theorem canPrecede_eq_true_iff {last : Option Char} :
    canPrecede last = true ↔ ∀ c ∈ last, isWordChar c = false := by
  cases last <;> simp [canPrecede]

/-- The child is declared exactly where its construction stands at the start of a word. -/
theorem isDeclared_iff {child source : String} (hchild : ')' ∉ child.toList) :
    isDeclared child source = true ↔ ∃ front rest : String,
      source = front ++ construction child ++ rest ∧
        ∀ c ∈ front.toList.getLast?, isWordChar c = false := by
  have hfinal : ')' ∉ constructionHead child ++ ": component".toList := by
    simp [constructionHead, hchild]
  rw [isDeclared, construction_eq_concat, occursAfter_concat_iff hfinal, ← construction_eq_concat]
  constructor
  · rintro ⟨x, y, hsource, hx⟩
    refine ⟨String.ofList x, String.ofList y, ?_, ?_⟩
    · apply String.toList_injective
      simpa using hsource
    · rw [String.toList_ofList]
      exact canPrecede_eq_true_iff.mp hx
  · rintro ⟨front, rest, rfl, hfront⟩
    exact ⟨front.toList, rest.toList, by simp, canPrecede_eq_true_iff.mpr hfront⟩

/-- A child is declared exactly if its construction stands somewhere in the source and no longer
name runs into it. An insertion declares its child and keeps every child that was declared. -/
theorem isDeclared_exact (source : String) :
    (∀ child : String, ')' ∉ child.toList →
      (isDeclared child source = true ↔ ∃ front rest : String,
        source = front ++ construction child ++ rest ∧
          ∀ c ∈ front.toList.getLast?, isWordChar c = false)) ∧
    ∀ anchor child updated : String, IsUnbroken child →
      insertAbove anchor (statement child) source = some updated →
      isDeclared child updated = true ∧ ∀ other : String, IsUnbroken other →
        isDeclared other source = true → isDeclared other updated = true := by
  refine ⟨fun child hchild => isDeclared_iff hchild, ?_⟩
  intro anchor child updated hchild hupdated
  have hnewline : ∀ {name : String}, IsUnbroken name → '\n' ∉ name.toList := fun hname =>
    hname.notMem (by decide)
  have hspace : ' ' ∉ child.toList := hchild.notMem (by decide)
  refine ⟨isDeclared_insertAbove (hnewline hchild) hspace hupdated, ?_⟩
  intro other hother hdeclared
  exact isDeclared_insertAbove_of_isDeclared (hnewline hother) hupdated hdeclared

/-- A longer name hides the first construction of the profile and not the second, which begins
right behind it; both stay above the line that is put in. -/
theorem isDeclared_exact_of_adjacent :
    let line := "UserProfileBuilder(dependency: component)ProfileBuilder(dependency: component)\n"
    let source := line ++ "#"
    let updated := line ++ "let cartBuilder = CartBuilder(dependency: component)\n#"
    insertAbove "#" (statement "Cart") source = some updated ∧
      (∃ front rest : String, source = front ++ construction "Profile" ++ rest ∧
        ∀ c ∈ front.toList.getLast?, isWordChar c = false) ∧
      isDeclared "Cart" updated = true ∧ isDeclared "Profile" updated = true := by
  intro line source updated
  have hupdated : insertAbove "#" (statement "Cart") source = some updated := by decide +kernel
  have hprofile : isDeclared "Profile" source = true := by decide +kernel
  obtain ⟨hexact, hkept⟩ := isDeclared_exact source
  obtain ⟨hcart, hothers⟩ := hkept "#" "Cart" updated (by decide +kernel) hupdated
  exact ⟨hupdated, (hexact "Profile" (by decide +kernel)).mp hprofile, hcart,
    hothers "Profile" (by decide +kernel) hprofile⟩

end Declaration

end RibTree
