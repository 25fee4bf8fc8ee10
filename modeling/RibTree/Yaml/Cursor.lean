/-!
# Positions in a document

A document is read from a text whose line ends are line feeds. Indentation makes it necessary to
know the column of every character.
-/

namespace RibTree.Yaml

set_option autoImplicit false

/-- The text with a line feed for every line end, up to a null character, where the text ends. -/
def normalize : List Char → List Char
  | [] => []
  | '\x00' :: _ => []
  | '\r' :: '\n' :: rest => '\n' :: normalize rest
  | '\r' :: rest => '\n' :: normalize rest
  | c :: rest => c :: normalize rest

/-- A blank within a line. -/
def isSpace (c : Char) : Bool :=
  c == ' ' || c == '\t'

/-- Has a meaning of its own between brackets. -/
def isFlowMark (c : Char) : Bool :=
  [',', '[', ']', '\x7b', '\x7d'].contains c

/-- A blank, a line end or the end of the text comes next. -/
def endsWord : List Char → Bool
  | [] => true
  | c :: _ => isSpace c || c == '\n'

/-- A line begins here that consists of a mark of three equal characters and perhaps more words. -/
def isDocumentMark (c : Char) : List Char → Bool
  | x :: y :: z :: rest => x == c && y == c && z == c && endsWord rest
  | _ => false

/-- A line begins here that starts or ends a document. -/
def isBoundary (s : List Char) : Bool :=
  isDocumentMark '-' s || isDocumentMark '.' s

/-- The length of a comment up to the end of its line. -/
def commentLength (s : List Char) : Nat :=
  (s.takeWhile (· != '\n')).length

/-- The length of the blanks and the comment at the end of a line. A comment has a blank in front.
-/
def lineGap? (s : List Char) : Option Nat :=
  let blanks := (s.takeWhile isSpace).length
  match s.drop blanks with
  | '#' :: rest => if blanks = 0 then none else some (blanks + 1 + commentLength rest)
  | _ => some blanks

/-- The length of the blanks, comments and line ends in front of the next word, and whether there
is a line end among them. -/
def gap (inComment : Bool) : List Char → Nat × Bool
  | [] => (0, false)
  | c :: rest =>
      if c = '\n' then ((gap false rest).1 + 1, true)
      else if inComment || isSpace c || c = '#' then
        let (length, hasLineEnd) := gap (inComment || c = '#') rest
        (length + 1, hasLineEnd)
      else (0, false)

/-- What a number of line ends stands for where lines are folded: one is a space, and every further
one a line feed. -/
def foldedBreaks (count : Nat) : List Char :=
  if count = 1 then [' '] else List.replicate (count - 1) '\n'

/-- The number of characters up to an index of the normalized text. -/
def lengthBefore : Nat → List Char → Nat
  | 0, _ | _, [] => 0
  | index + 1, '\r' :: '\n' :: rest => lengthBefore index rest + 2
  | index + 1, _ :: rest => lengthBefore index rest + 1

/-- The numbers of lines in front, of characters in front on the line, and of all characters in
front. -/
structure Position where
  line : Nat := 0
  column : Nat := 0
  index : Nat := 0
  deriving DecidableEq, Repr

/-- What comes next, and where it stands. -/
structure Cursor extends Position where
  rest : List Char

namespace Cursor

def next (c : Cursor) : Cursor :=
  match c.rest with
  | [] => c
  | '\n' :: rest => ⟨⟨c.line + 1, 0, c.index + 1⟩, rest⟩
  | _ :: rest => ⟨⟨c.line, c.column + 1, c.index + 1⟩, rest⟩

def skip (c : Cursor) : Nat → Cursor
  | 0 => c
  | count + 1 => c.next.skip count

end Cursor

end RibTree.Yaml
