/-!
# Blank characters

The characters with the Unicode property White_Space, and the text that is left when blanks are
dropped from its ends. Texts are lists of characters here; nothing depends on their encoding.
-/

namespace RibTree.Text

set_option autoImplicit false

/-- The characters with the Unicode property White_Space. -/
def isBlank (c : Char) : Bool :=
  let n := c.toNat
  (0x9 ≤ n && n ≤ 0xd) || n == 0x20 || n == 0x85 || n == 0xa0 || n == 0x1680 ||
    (0x2000 ≤ n && n ≤ 0x200a) || n == 0x2028 || n == 0x2029 || n == 0x202f || n == 0x205f ||
    n == 0x3000

/-- The blanks that a text starts with. -/
def indent (s : List Char) : List Char :=
  s.takeWhile isBlank

def trimStart (s : List Char) : List Char :=
  s.dropWhile isBlank

def trimEnd (s : List Char) : List Char :=
  (s.reverse.dropWhile isBlank).reverse

/-- The text without the blanks at its ends. -/
def trim (s : List Char) : List Char :=
  trimEnd (trimStart s)

/-- The text without any blank. -/
def dropBlanks (s : List Char) : List Char :=
  s.filter (!isBlank ·)

@[simp] theorem indent_append_trimStart (s : List Char) : indent s ++ trimStart s = s := by
  simp [indent, trimStart]

@[simp] theorem trimEnd_nil : trimEnd [] = [] := rfl

@[simp] theorem trim_nil : trim [] = [] := rfl

theorem isBlank_of_mem_indent {s : List Char} {c : Char} (h : c ∈ indent s) :
    isBlank c = true := by
  induction s with
  | nil => simp [indent] at h
  | cons a s ih =>
      simp only [indent, List.takeWhile_cons] at h ih
      split at h
      · rename_i ha
        rcases List.mem_cons.mp h with rfl | h
        · exact ha
        · exact ih h
      · simp at h

@[simp] theorem mem_dropBlanks {s : List Char} {c : Char} :
    c ∈ dropBlanks s ↔ c ∈ s ∧ isBlank c = false := by
  simp [dropBlanks]

@[simp] theorem dropBlanks_append (s t : List Char) :
    dropBlanks (s ++ t) = dropBlanks s ++ dropBlanks t := by
  simp [dropBlanks]

end RibTree.Text
