/-!
# Occurrences of one text in another

Searching goes from the left, and occurrences that are replaced do not overlap. A mark is a
text to look for; it is never empty.
-/

namespace RibTree.Text

set_option autoImplicit false

/-- What stands before and after the first occurrence of `mark`. -/
def splitFirst (mark : List Char) : List Char → Option (List Char × List Char)
  | [] => none
  | c :: s =>
      if mark.isPrefixOf (c :: s) then some ([], (c :: s).drop mark.length)
      else (splitFirst mark s).map fun (before, after) => (c :: before, after)

/-- Replacement with `skip` characters of an occurrence still to be passed over. -/
def replaceFrom (mark new : List Char) : Nat → List Char → List Char
  | _, [] => []
  | skip + 1, _ :: s => replaceFrom mark new skip s
  | 0, c :: s =>
      if mark.isPrefixOf (c :: s) then new ++ replaceFrom mark new (mark.length - 1) s
      else c :: replaceFrom mark new 0 s

/-- Every occurrence of `mark` becomes `new`. The text put in is not searched again. -/
def replaceAll (mark new s : List Char) : List Char :=
  replaceFrom mark new 0 s

/-- Some occurrence of `mark` follows a character that `before` accepts; `none` stands for the
start of the text. `last` is the character in front of the remaining text. -/
def occursFrom (mark : List Char) (before : Option Char → Bool) :
    Option Char → Nat → List Char → Bool
  | _, _, [] => false
  | _, skip + 1, c :: s => occursFrom mark before (some c) skip s
  | last, 0, c :: s =>
      if mark.isPrefixOf (c :: s) then
        before last || occursFrom mark before (some c) (mark.length - 1) s
      else occursFrom mark before (some c) 0 s

def occursAfter (mark : List Char) (before : Option Char → Bool) (s : List Char) : Bool :=
  occursFrom mark before none 0 s

theorem append_of_splitFirst {mark s before after : List Char}
    (h : splitFirst mark s = some (before, after)) : s = before ++ mark ++ after := by
  induction s generalizing before with
  | nil => simp [splitFirst] at h
  | cons c s ih =>
      simp only [splitFirst] at h
      split at h
      · rename_i hp
        obtain ⟨t, ht⟩ := List.isPrefixOf_iff_prefix.mp hp
        simp only [Option.some.injEq, Prod.mk.injEq] at h
        obtain ⟨rfl, rfl⟩ := h
        simp [← ht]
      · obtain ⟨⟨b, a⟩, hs, hb⟩ := Option.map_eq_some_iff.mp h
        simp only [Prod.mk.injEq] at hb
        obtain ⟨rfl, rfl⟩ := hb
        simp [ih hs]

@[simp] theorem replaceFrom_nil (mark new : List Char) (skip : Nat) :
    replaceFrom mark new skip [] = [] := by
  cases skip <;> rfl

theorem replaceFrom_append (mark new s t : List Char) :
    replaceFrom mark new s.length (s ++ t) = replaceFrom mark new 0 t := by
  induction s with
  | nil => rfl
  | cons c s ih => simpa [replaceFrom] using ih

end RibTree.Text
