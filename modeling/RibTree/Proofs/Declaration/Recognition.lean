import RibTree.Declaration
import RibTree.Proofs.Text.Occurrence

/-!
# Recognising a declaration

The statement that declares a child is recognised wherever it stands on a line of its own, and
between names of letters, digits and underscores it is not taken for the declaration of another
child. The colon with the blank after it, which a name cannot contain, fixes where in the
statement the construction of a child can stand.
-/

namespace RibTree

set_option autoImplicit false

/-- A name without blanks. -/
def IsUnbroken (name : String) : Prop := ∀ c ∈ name.toList, Text.isBlank c = false

instance (name : String) : Decidable (IsUnbroken name) :=
  List.decidableBAll (fun c => Text.isBlank c = false) name.toList

theorem IsUnbroken.notMem {name : String} (h : IsUnbroken name) {c : Char}
    (hc : Text.isBlank c = true) : c ∉ name.toList := by
  intro hm
  rw [h c hm] at hc
  exact absurd hc (by decide)

namespace Declaration

open Text

def constructionHead (child : String) : List Char :=
  child.toList ++ "Builder(dependency".toList

theorem construction_toList (child : String) :
    (construction child).toList =
      constructionHead child ++ ':' :: ' ' :: "component)".toList := by
  simp [construction, constructionHead, Role.stem, Role.text]

theorem construction_ne_nil (child : String) : (construction child).toList ≠ [] := by
  simp [construction_toList]

theorem newline_notMem_construction {child : String} (h : '\n' ∉ child.toList) :
    '\n' ∉ (construction child).toList := by
  simp [construction_toList, constructionHead, h]

theorem space_notMem_constructionHead {child : String} (h : ' ' ∉ child.toList) :
    ' ' ∉ constructionHead child := by
  simp [constructionHead, h]

/-- An indentation and a statement up to the construction. -/
def statementLead (indent : List Char) (child : String) : List Char :=
  indent ++ "let ".toList ++ (lowerCamel child).toList ++ "Builder = ".toList

theorem append_statement (indent : List Char) (child : String) :
    indent ++ (statement child).toList =
      statementLead indent child ++ (construction child).toList := by
  simp [statement, statementLead]

theorem getLast?_statementLead (indent : List Char) (child : String) :
    (statementLead indent child).getLast? = some ' ' := by
  rw [statementLead, List.getLast?_append_of_ne_nil _ (by simp)]
  decide

theorem lowercase_cases (c : Char) :
    (∃ d, lowercase c = [d]) ∨ lowercase c = ['i', '\u0307'] := by
  rw [lowercase]
  split
  · exact Or.inr rfl
  · split
    · exact Or.inl ⟨_, rfl⟩
    · exact Or.inl ⟨_, rfl⟩

/-- However the first letter is put in lower case, no blank comes to stand after a colon. -/
theorem apart_statementLead {indent : List Char} (hindent : ∀ c ∈ indent, isBlank c = true)
    {child : String} (hspace : ' ' ∉ child.toList) : Apart ':' ' ' (statementLead indent child) := by
  have hcolon : ':' ∉ indent := fun hm => absurd (hindent _ hm) (by decide)
  have hlet : Apart ':' ' ' (indent ++ "let ".toList) := by
    exact apart_append_iff.mpr ⟨apart_of_notMem_left hcolon, by decide, fun _ => by decide⟩
  have hend : ∀ rest : List Char, ' ' ∉ rest →
      Apart ':' ' ' (rest ++ "Builder = ".toList) ∧
        (rest ++ "Builder = ".toList).head? ≠ some ' ' := by
    intro rest hrest
    refine ⟨apart_append_iff.mpr ⟨apart_of_notMem hrest, by decide, fun _ => by decide⟩, ?_⟩
    cases rest with
    | nil => decide
    | cons c rest =>
        intro he
        exact hrest (by simp [show c = ' ' by simpa using he])
  rw [statementLead, List.append_assoc, apart_append_iff]
  refine ⟨hlet, ?_, by simp⟩
  cases hchild : child.toList with
  | nil => simpa [lowerCamel, hchild] using (hend [] (by simp)).1
  | cons c rest =>
      have hrest : ' ' ∉ rest := fun hm => hspace (by simp [hchild, hm])
      obtain ⟨hApart, hhead⟩ := hend rest hrest
      have hlower : Apart ':' ' ' (lowercase c) := by
        rcases lowercase_cases c with ⟨d, hd⟩ | hd
        · rw [hd]
          exact List.IsChain.singleton d
        · rw [hd]
          decide
      simp only [lowerCamel, hchild, String.toList_ofList, List.append_assoc]
      exact apart_append_iff.mpr ⟨hlower, hApart, fun _ => hhead⟩

theorem apart_lead_append_head {indent : List Char} (hindent : ∀ c ∈ indent, isBlank c = true)
    {child : String} (hspace : ' ' ∉ child.toList) :
    Apart ':' ' ' (statementLead indent child ++ (constructionHead child ++ [':'])) := by
  refine apart_append_iff.mpr ⟨apart_statementLead hindent hspace, ?_, ?_⟩
  · exact apart_of_notMem (by simp [space_notMem_constructionHead hspace])
  · simp [getLast?_statementLead]

/-- No construction of the child begins in front of the one that ends its statement. -/
theorem not_prefix_construction {indent : List Char} (hindent : ∀ c ∈ indent, isBlank c = true)
    {child : String} (hspace : ' ' ∉ child.toList) (t x y : List Char)
    (hxy : statementLead indent child = x ++ y) (hy : y ≠ []) :
    ¬ (construction child).toList <+: y ++ ((construction child).toList ++ t) := by
  intro hp
  have hApart : Apart ':' ' ' (y ++ (constructionHead child ++ [':'])) := by
    have h := apart_lead_append_head hindent hspace
    rw [hxy, List.append_assoc] at h
    exact (apart_append_iff.mp h).2.1
  have hshort : constructionHead child ++ [':', ' '] <+: (construction child).toList :=
    ⟨"component)".toList, by simp [construction_toList]⟩
  have hlong : y ++ (constructionHead child ++ [':']) <+:
      y ++ ((construction child).toList ++ t) :=
    ⟨' ' :: "component)".toList ++ t, by simp [construction_toList]⟩
  have hlen : 0 < y.length := List.length_pos_of_ne_nil hy
  obtain ⟨z, hz⟩ := List.prefix_of_prefix_length_le (hshort.trans hp) hlong (by simp; omega)
  exact hApart.not_pair (x := constructionHead child) (y := z) (by rw [← hz]; simp)

theorem occursAfter_statement {indent : List Char} (hindent : ∀ c ∈ indent, isBlank c = true)
    {child : String} (hspace : ' ' ∉ child.toList) (t : List Char) :
    occursAfter (construction child).toList canPrecede
      (indent ++ (statement child).toList ++ t) = true := by
  rw [append_statement, List.append_assoc, occursAfter,
    occursFrom_append_of_not_prefix (not_prefix_construction hindent hspace t),
    getLast?_statementLead]
  exact occursFrom_self (construction_ne_nil child) (by decide) t

/-- A name of letters, digits and underscores. -/
def IsWord (name : String) : Prop := ∀ c ∈ name.toList, isWordChar c = true

instance (name : String) : Decidable (IsWord name) :=
  List.decidableBAll (fun c => isWordChar c = true) name.toList

theorem IsWord.notMem {name : String} (h : IsWord name) {c : Char} (hc : isWordChar c = false) :
    c ∉ name.toList := by
  intro hm
  rw [h c hm] at hc
  exact absurd hc (by decide)

/-- The statement of one child does not declare another. -/
theorem eq_of_occursAfter_statement {indent ending : List Char}
    (hindent : ∀ c ∈ indent, isBlank c = true) (hending : ' ' ∉ ending) {child other : String}
    (hchild : IsWord child) (hother : IsWord other)
    (h : occursAfter (construction child).toList canPrecede
      (indent ++ (statement other).toList ++ ending) = true) : child = other := by
  have hspace : ' ' ∉ other.toList := hother.notMem (by decide)
  obtain ⟨x, y, hxy, hbefore⟩ := exists_of_occursAfter h
  have hfront := apart_lead_append_head hindent hspace
  have hback : Apart ':' ' ' (' ' :: ("component)".toList ++ ending)) := by
    rw [← List.singleton_append]
    refine apart_append_iff.mpr ⟨List.IsChain.singleton _, apart_of_notMem ?_, by simp⟩
    simp [hending]
  have heq : (statementLead indent other ++ constructionHead other) ++
        ':' :: ' ' :: ("component)".toList ++ ending) =
      (x ++ constructionHead child) ++ ':' :: ' ' :: ("component)".toList ++ y) := by
    rw [append_statement] at hxy
    simpa [construction_toList] using hxy
  have hcut := eq_of_pair_split heq (by simpa using hfront) hback
  rw [constructionHead, constructionHead, ← List.append_assoc, ← List.append_assoc] at hcut
  have hnames := List.append_cancel_right hcut
  apply String.toList_injective
  rcases List.append_eq_append_iff.mp hnames with ⟨c, hx, hc⟩ | ⟨c, hlead, hc⟩
  · -- The child's name ends the other's: the character in front of it belongs to a longer name.
    cases hl : c.getLast? with
    | none =>
        rw [List.getLast?_eq_none_iff.mp hl, List.nil_append] at hc
        exact hc.symm
    | some d =>
        have hd : isWordChar d = true :=
          hother d (hc ▸ List.mem_append_left _ (List.mem_of_getLast? hl))
        rw [hx, List.getLast?_append, hl, Option.some_or, canPrecede, hd] at hbefore
        exact absurd hbefore (by decide)
  · -- The other's name ends the child's: then the child's name has the blank before it.
    cases hl : c.getLast? with
    | none =>
        rw [List.getLast?_eq_none_iff.mp hl, List.nil_append] at hc
        exact hc
    | some d =>
        have hd : isWordChar d = true :=
          hchild d (hc ▸ List.mem_append_left _ (List.mem_of_getLast? hl))
        have hblank := getLast?_statementLead indent other
        rw [hlead, List.getLast?_append, hl, Option.some_or] at hblank
        rw [Option.some.inj hblank] at hd
        exact absurd hd (by decide)

end Declaration

end RibTree
