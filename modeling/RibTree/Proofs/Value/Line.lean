import Mathlib.Data.List.Basic
import RibTree.Value.Basic

/-!
# JSON text on one line

The JSON text of a value has no line feed, whatever texts stand in the value: inside quotes a line
feed is written as an escape, and nothing else that is written has one.
-/

namespace RibTree.Value

set_option autoImplicit false

theorem newline_notMem_nat (n : Nat) : '\n' ∉ (toString n).toList := by
  intro h
  have hdigit := Nat.isDigit_of_mem_toDigits (by decide) (by decide) (Nat.toList_repr ▸ h)
  exact absurd hdigit (by decide)

theorem newline_notMem_int (n : Int) : '\n' ∉ (toString n).toList := by
  cases n with
  | ofNat n => exact newline_notMem_nat n
  | negSucc n =>
      have htext : toString (Int.negSucc n) = "-" ++ toString (n + 1) := rfl
      rw [htext, String.toList_append, List.mem_append]
      rintro (hmem | hmem)
      · exact absurd hmem (by decide)
      · exact newline_notMem_nat (n + 1) hmem

theorem newline_notMem_positional (digits : Nat) (exponent : Int) {trailer : String}
    (h : '\n' ∉ trailer.toList) : '\n' ∉ (Decimal.positional digits exponent trailer).toList := by
  have hdigits := newline_notMem_nat digits
  have hzeros : ∀ count, '\n' ∉ List.replicate count '0' := by
    intro count hmem
    exact absurd (List.eq_of_mem_replicate hmem) (by decide)
  rw [Decimal.positional]
  split
  · simp only [String.toList_append, String.toList_ofList, List.mem_append]
    rintro ((hmem | hmem) | hmem)
    · exact hdigits hmem
    · exact hzeros _ hmem
    · exact h hmem
  · split
    · simp only [String.toList_ofList, List.mem_append, List.mem_cons]
      rintro (hmem | hmem | hmem)
      · exact hdigits (List.mem_of_mem_take hmem)
      · exact absurd hmem (by decide)
      · exact hdigits (List.mem_of_mem_drop hmem)
    · simp only [String.toList_append, String.toList_ofList, List.mem_append]
      rintro (hmem | hmem | hmem)
      · exact absurd hmem (by decide)
      · exact hzeros _ hmem
      · exact hdigits hmem

theorem newline_notMem_sign (negative : Bool) : '\n' ∉ (Double.signText negative).toList := by
  cases negative <;> decide

theorem newline_notMem_realText (x : Double) : '\n' ∉ (realText x).toList := by
  unfold realText
  split
  · decide
  · rename_i negative _
    rw [String.toList_append, List.mem_append]
    rintro (hmem | hmem)
    · exact newline_notMem_sign negative hmem
    · exact absurd hmem (by decide)
  · rename_i negative mantissa exponent _
    obtain ⟨digits, place⟩ := Double.shortest .even mantissa exponent
    have hdigits := newline_notMem_nat digits
    dsimp only
    rw [String.toList_append, List.mem_append]
    rintro (hmem | hmem)
    · exact newline_notMem_sign negative hmem
    · split at hmem
      · exact newline_notMem_positional digits place (by decide) hmem
      · have hfraction : '\n' ∉ (if (toString digits).toList.tail.isEmpty then []
            else '.' :: (toString digits).toList.tail) := by
          split
          · exact List.not_mem_nil
          · rw [List.mem_cons]
            rintro (hdot | hlater)
            · exact absurd hdot (by decide)
            · exact hdigits (List.mem_of_mem_tail hlater)
        simp only [String.toList_append, String.toList_ofList, List.mem_append] at hmem
        rcases hmem with ((hmem | hmem) | hmem) | hmem
        · exact hdigits (List.mem_of_mem_take hmem)
        · exact hfraction hmem
        · exact absurd hmem (by decide)
        · exact newline_notMem_int _ hmem

theorem newline_notMem_escape (c : Char) : '\n' ∉ escape c := by
  have hdigit : ∀ n, n < 16 → hexDigit n ≠ '\n' := by decide
  unfold escape
  split
  · rename_i hc
    rcases hc with rfl | rfl <;> decide
  split
  · decide
  split
  · decide
  split
  · decide
  split
  · decide
  split
  · decide
  split
  · rename_i hsmall
    have hfirst := hdigit (c.toNat / 16) (by omega)
    have hsecond := hdigit (c.toNat % 16) (by omega)
    simp [hfirst.symm, hsecond.symm]
  · rename_i hother _ _ _ _ _
    rw [List.mem_singleton]
    exact Ne.symm hother

theorem newline_notMem_quote (s : String) : '\n' ∉ quote s := by
  rw [quote, List.mem_append, List.mem_cons, List.mem_flatMap]
  rintro ((hmem | ⟨c, -, hmem⟩) | hmem)
  · exact absurd hmem (by decide)
  · exact newline_notMem_escape c hmem
  · exact absurd hmem (by decide)

mutual

theorem newline_notMem_json (v : Value) : '\n' ∉ v.json := by
  cases v with
  | null => decide
  | boolean b => cases b <;> decide
  | integer n => exact newline_notMem_int n
  | real x => exact newline_notMem_realText x
  | string s => exact newline_notMem_quote s
  | sequence items =>
      have := newline_notMem_jsonItems items
      simp [json, this]
  | mapping members =>
      have := newline_notMem_jsonMembers members
      simp [json, this]

theorem newline_notMem_jsonItems (items : List Value) : '\n' ∉ jsonItems items := by
  cases items with
  | nil => exact List.not_mem_nil
  | cons item rest =>
      have hitem := newline_notMem_json item
      have hrest := newline_notMem_jsonItems rest
      cases rest with
      | nil => exact hitem
      | cons next rest => simp [jsonItems, hitem, hrest]

theorem newline_notMem_jsonMembers (members : List (String × Value)) :
    '\n' ∉ jsonMembers members := by
  cases members with
  | nil => exact List.not_mem_nil
  | cons member rest =>
      obtain ⟨key, value⟩ := member
      have hkey := newline_notMem_quote key
      have hvalue := newline_notMem_json value
      have hrest := newline_notMem_jsonMembers rest
      cases rest with
      | nil => simp [jsonMembers, hkey, hvalue]
      | cons next rest => simp [jsonMembers, hkey, hvalue, hrest]

end

theorem newline_notMem_line (v : Value) : '\n' ∉ v.line.toList := by
  rw [line, String.toList_ofList]
  exact newline_notMem_json v

end RibTree.Value
