/-!
# Lines of a text

Ways to cut a text at a character. `segments` keeps every character of it, so joining the pieces
gives the text back; `lines` drops the line ends, with the carriage return before a line feed;
`pieces` drops the character and keeps empty pieces.
-/

namespace RibTree.Text

set_option autoImplicit false

/-- The pieces of a text, each with the line feed that ends it. -/
def segments : List Char → List (List Char)
  | [] => []
  | c :: s =>
      if c = '\n' then [c] :: segments s
      else match segments s with
        | [] => [[c]]
        | piece :: pieces => (c :: piece) :: pieces

/-- A line without its end: a line feed, and the carriage return before it. A carriage return
that no line feed follows belongs to the line. -/
def chomp : List Char → List Char
  | [] => []
  | ['\n'] => []
  | ['\r', '\n'] => []
  | c :: s => c :: chomp s

def lines (s : List Char) : List (List Char) :=
  (segments s).map chomp

/-- The pieces of a text between the occurrences of a mark, at least one. -/
def pieces (mark : Char) : List Char → List (List Char)
  | [] => [[]]
  | c :: s =>
      if c = mark then [] :: pieces mark s
      else match pieces mark s with
        | [] => [[c]]
        | first :: rest => (c :: first) :: rest

/-- The line end to write beside a given line: the one it has, a plain line feed if it has none. -/
def lineEnd (segment : List Char) : List Char :=
  if ['\r', '\n'].isSuffixOf segment then ['\r', '\n'] else ['\n']

@[simp] theorem segments_nil : segments [] = [] := rfl

@[simp] theorem flatten_segments (s : List Char) : (segments s).flatten = s := by
  induction s with
  | nil => rfl
  | cons c s ih =>
      simp only [segments]
      split
      · simp [ih]
      · cases h : segments s with
        | nil => simpa [h] using ih
        | cons piece pieces => simpa [h] using ih

theorem ne_nil_of_mem_segments {s piece : List Char} (h : piece ∈ segments s) : piece ≠ [] := by
  induction s generalizing piece with
  | nil => simp [segments] at h
  | cons c s ih =>
      simp only [segments] at h
      split at h
      · rcases List.mem_cons.mp h with rfl | h
        · simp
        · exact ih h
      · cases hs : segments s with
        | nil => simp [hs] at h; simp [h]
        | cons first rest =>
            simp only [hs, List.mem_cons] at h
            rcases h with rfl | h
            · simp
            · exact ih (by simp [hs, h])

end RibTree.Text
