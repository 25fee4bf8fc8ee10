import Mathlib.Data.List.Basic
import Mathlib.Data.List.TakeWhile
import RibTree.Path.Basic

/-!
# Joined paths

Joining a text without a slash to a path keeps the parts of the path in front, and joining a file
name adds just that name. All that the program asks of the paths that it builds follows from their
parts.
-/

namespace RibTree

set_option autoImplicit false

namespace Text

theorem pieces_ne_nil (mark : Char) (s : List Char) : pieces mark s ≠ [] := by
  cases s with
  | nil => simp [pieces]
  | cons c s =>
      simp only [pieces]
      split
      · simp
      · split <;> simp

theorem pieces_of_notMem {mark : Char} {s : List Char} (h : mark ∉ s) : pieces mark s = [s] := by
  induction s with
  | nil => rfl
  | cons c s ih =>
      have hc : c ≠ mark := fun he => h (by simp [he])
      rw [pieces, if_neg hc, ih fun hm => h (List.mem_cons_of_mem c hm)]

theorem pieces_append (mark : Char) (s t : List Char) :
    pieces mark (s ++ mark :: t) = pieces mark s ++ pieces mark t := by
  induction s with
  | nil => simp [pieces]
  | cons c s ih =>
      by_cases hc : c = mark
      · simp [pieces, hc, ih]
      · rw [List.cons_append, pieces, if_neg hc, pieces, if_neg hc, ih]
        cases hs : pieces mark s with
        | nil => exact absurd hs (pieces_ne_nil mark s)
        | cons first rest => rfl

theorem notMem_of_mem_pieces {mark : Char} {s piece : List Char} (h : piece ∈ pieces mark s) :
    mark ∉ piece := by
  induction s generalizing piece with
  | nil =>
      rw [List.mem_singleton.mp h]
      exact List.not_mem_nil
  | cons c s ih =>
      unfold pieces at h
      split at h
      · rcases List.mem_cons.mp h with rfl | h
        · exact List.not_mem_nil
        · exact ih h
      · rename_i hc
        cases hs : pieces mark s with
        | nil => exact absurd hs (pieces_ne_nil mark s)
        | cons first rest =>
            rw [hs] at h ih
            rcases List.mem_cons.mp h with rfl | h
            · intro hm
              rcases List.mem_cons.mp hm with he | hm
              · exact hc he.symm
              · exact ih List.mem_cons_self hm
            · exact ih (List.mem_cons_of_mem first h)

end Text

namespace Path

/-- A text that is one part of a path and names something. -/
def IsName (text : String) : Prop :=
  text ≠ "" ∧ text ≠ "." ∧ text ≠ ".." ∧ '/' ∉ text.toList

instance (text : String) : Decidable (IsName text) := inferInstanceAs (Decidable (_ ∧ _))

theorem ofPiece?_of_isName {text : String} (h : IsName text) :
    Part.ofPiece? text.toList = some (.name text) := by
  obtain ⟨hEmpty, hHere, hUp, -⟩ := h
  have hEmpty : text.toList ≠ [] := by simpa using hEmpty
  have hHere : text.toList ≠ ['.'] := fun he => hHere (String.toList_injective he)
  have hUp : text.toList ≠ ['.', '.'] := fun he => hUp (String.toList_injective he)
  simp [Part.ofPiece?, hEmpty, hHere, hUp]

variable {p : Path} {q : String}

theorem join_of_text_eq_empty (h : p.text = "") : p.join ⟨q⟩ = ⟨q⟩ := by
  simp [join, h]

theorem parts_of_text_eq_empty (h : p.text = "") : p.parts = [] := by
  obtain ⟨text⟩ := p
  obtain rfl : text = "" := h
  rfl

theorem isAbsolute_eq_false (hq : '/' ∉ q.toList) : isAbsolute ⟨q⟩ = false := by
  cases h : q.toList with
  | nil => simp [isAbsolute, h]
  | cons c s =>
      have hc : c ≠ '/' := fun he => hq (by simp [h, he])
      simp [isAbsolute, h, hc]

/-- A name that is joined to a path is one more piece. A slash at the end of the path is not
doubled, so that an empty last piece makes room for the name. -/
theorem exists_pieces_join (hp : p.text ≠ "") (hq : '/' ∉ q.toList) :
    (p.join ⟨q⟩).isAbsolute = p.isAbsolute ∧
      ∃ front ≠ [], (p.join ⟨q⟩).pieces = front ++ [q.toList] ∧
        (p.pieces = front ∨ p.pieces = front ++ [[]]) := by
  have hne : p.text.toList ≠ [] := by simpa using hp
  by_cases hlast : p.text.toList.getLast? = some '/'
  · obtain ⟨s, hs⟩ := List.getLast?_eq_some_iff.mp hlast
    have htext : (p.join ⟨q⟩).text.toList = s ++ '/' :: q.toList := by
      simp [join, isAbsolute_eq_false hq, hs]
    refine ⟨?_, Text.pieces '/' s, Text.pieces_ne_nil '/' s, ?_, Or.inr ?_⟩
    · rw [isAbsolute, isAbsolute, htext, hs]
      cases s <;> rfl
    · rw [pieces, htext, Text.pieces_append, Text.pieces_of_notMem hq]
    · rw [pieces, hs, Text.pieces_append]
      rfl
  · have htext : (p.join ⟨q⟩).text.toList = p.text.toList ++ '/' :: q.toList := by
      simp [join, isAbsolute_eq_false hq, hlast, hp]
    refine ⟨?_, p.pieces, Text.pieces_ne_nil '/' _, ?_, Or.inl rfl⟩
    · rw [isAbsolute, htext, List.head?_append_of_ne_nil _ hne, isAbsolute]
    · rw [pieces, htext, Text.pieces_append, Text.pieces_of_notMem hq, pieces]

theorem filterMap_pieces_join {α : Type} {f : List Char → Option α} (hf : f [] = none)
    (hp : p.text ≠ "") (hq : '/' ∉ q.toList) :
    (p.join ⟨q⟩).pieces.filterMap f = p.pieces.filterMap f ++ (f q.toList).toList := by
  obtain ⟨-, front, -, hjoin, hpieces⟩ := exists_pieces_join hp hq
  have hfront : p.pieces.filterMap f = front.filterMap f := by
    rcases hpieces with h | h <;> simp [h, hf]
  rw [hjoin, hfront, List.filterMap_append]
  cases hlast : f q.toList <;> simp [hlast]

theorem parts_join_of_text_ne_empty (hp : p.text ≠ "") (hq : '/' ∉ q.toList) :
    (p.join ⟨q⟩).parts = p.parts ++ (Part.ofPiece? q.toList).toList := by
  obtain ⟨hAbsolute, front, hne, hjoin, hpieces⟩ := exists_pieces_join hp hq
  have hnamed : (p.join ⟨q⟩).pieces.filterMap Part.ofPiece? =
      p.pieces.filterMap Part.ofPiece? ++ (Part.ofPiece? q.toList).toList :=
    filterMap_pieces_join rfl hp hq
  have hfirst : (p.join ⟨q⟩).pieces.head? = p.pieces.head? := by
    rw [hjoin, List.head?_append_of_ne_nil _ hne]
    rcases hpieces with h | h
    · rw [h]
    · rw [h, List.head?_append_of_ne_nil _ hne]
  simp only [parts, hAbsolute, hfirst, hnamed]
  split
  · rfl
  · split <;> rfl

theorem contains_join (hq : '/' ∉ q.toList) : p.Contains (p.join ⟨q⟩) := by
  by_cases hp : p.text = ""
  · rw [Contains, parts_of_text_eq_empty hp]
    exact List.nil_prefix
  · rw [Contains, parts_join_of_text_ne_empty hp hq]
    exact List.prefix_append _ _

theorem parts_join (hq : IsName q) : (p.join ⟨q⟩).parts = p.parts ++ [.name q] := by
  by_cases hp : p.text = ""
  · have hpieces : Text.pieces '/' q.toList = [q.toList] := Text.pieces_of_notMem hq.2.2.2
    have hHere : q.toList ≠ ['.'] := fun he => hq.2.1 (String.toList_injective he)
    rw [join_of_text_eq_empty hp, parts_of_text_eq_empty hp, parts]
    simp [pieces, hpieces, isAbsolute_eq_false hq.2.2.2, ofPiece?_of_isName hq, hHere]
  · rw [parts_join_of_text_ne_empty hp hq.2.2.2, ofPiece?_of_isName hq]
    rfl

theorem Contains.trans {p q r : Path} (hpq : p.Contains q) (hqr : q.Contains r) : p.Contains r :=
  List.IsPrefix.trans hpq hqr

theorem fileName?_join (hq : IsName q) : (p.join ⟨q⟩).fileName? = some q := by
  rw [fileName?, parts_join hq, List.getLast?_concat]

theorem slash_notMem_of_fileName? (h : p.fileName? = some q) : '/' ∉ q.toList := by
  unfold fileName? at h
  split at h
  · rename_i text hlast
    obtain rfl := Option.some.inj h
    have hmem : Part.name text ∈ p.pieces.filterMap Part.ofPiece? := by
      have hparts := List.mem_of_getLast? hlast
      unfold parts at hparts
      split at hparts
      · simpa using hparts
      · split at hparts
        · simpa using hparts
        · exact hparts
    obtain ⟨piece, hpiece, hname⟩ := List.mem_filterMap.mp hmem
    unfold Part.ofPiece? at hname
    split at hname
    · cases hname
    · split at hname
      · cases hname
      · rw [← Part.name.inj (Option.some.inj hname), String.toList_ofList]
        exact Text.notMem_of_mem_pieces hpiece
  · cases h

theorem parent?_parts_join (hq : IsName q) : Part.parent? (p.join ⟨q⟩).parts = some p.parts := by
  rw [parts_join hq, Part.parent?, List.getLast?_concat]
  simp

theorem Same.fileName?_eq {p q : Path} (h : p.Same q) : p.fileName? = q.fileName? := by
  rw [fileName?, fileName?, show p.parts = q.parts from h]

theorem Same.extension?_eq {p q : Path} (h : p.Same q) : p.extension? = q.extension? := by
  rw [extension?, extension?, h.fileName?_eq]

theorem Same.symm {p q : Path} (h : p.Same q) : q.Same p := Eq.symm h

theorem Same.trans {p q r : Path} (hpq : p.Same q) (hqr : q.Same r) : p.Same r := Eq.trans hpq hqr

theorem Same.contains_iff {root p q : Path} (h : p.Same q) : root.Contains p ↔ root.Contains q := by
  rw [Contains, Contains, show p.parts = q.parts from h]

/-- What follows the last dot of a name is its extension, if something stands before the dot. -/
theorem extensionOf?_append {stem extension : List Char} (hstem : stem ≠ [])
    (hdot : '.' ∉ extension) : extensionOf? (stem ++ '.' :: extension) = some extension := by
  have hrev : (stem ++ '.' :: extension).reverse = extension.reverse ++ '.' :: stem.reverse := by
    simp
  have hall : ∀ c ∈ extension.reverse, (c != '.') = true := by
    intro c hc
    have hne : c ≠ '.' := fun he => hdot (he ▸ List.mem_reverse.mp hc)
    simpa using hne
  have hdrop : (extension.reverse ++ '.' :: stem.reverse).dropWhile (· != '.') =
      '.' :: stem.reverse := by
    rw [List.dropWhile_append_of_pos hall, List.dropWhile_cons_of_neg (by simp)]
  have htake : (extension.reverse ++ '.' :: stem.reverse).takeWhile (· != '.') =
      extension.reverse := by
    rw [List.takeWhile_append_of_pos hall, List.takeWhile_cons_of_neg (by simp), List.append_nil]
  obtain ⟨c, rest, hcons⟩ := List.exists_cons_of_ne_nil (show stem.reverse ≠ [] by simpa using hstem)
  rw [extensionOf?, hrev, hdrop, htake, hcons]
  simp

theorem dot_notMem_extensionOf? {name extension : List Char}
    (h : extensionOf? name = some extension) : '.' ∉ extension := by
  rw [extensionOf?] at h
  split at h
  · exact absurd h (by simp)
  · exact absurd h (by simp)
  · obtain rfl := Option.some.inj h
    intro hmem
    have hnot := List.mem_takeWhile_imp (List.mem_reverse.mp hmem)
    exact absurd hnot (by decide)

/-- The extension of a path is what follows the last dot, so it has none. -/
theorem dot_notMem_extension? {p : Path} {extension : String}
    (h : p.extension? = some extension) : '.' ∉ extension.toList := by
  rw [extension?, Option.bind_eq_some_iff] at h
  obtain ⟨name, -, h⟩ := h
  obtain ⟨found, hfound, rfl⟩ := Option.map_eq_some_iff.mp h
  rw [String.toList_ofList]
  exact dot_notMem_extensionOf? hfound

end Path

end RibTree
