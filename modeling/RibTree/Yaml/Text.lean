import RibTree.Yaml.Cursor
import RibTree.Yaml.Scalar

/-!
# The texts of scalars

How the text of a scalar is read from quotes, from plain words and from a block of lines. Lines of
a text are folded: a single line end becomes a space, and blanks around line ends do not count. A
reader gives the text and the number of characters that it takes up.
-/

namespace RibTree.Yaml

set_option autoImplicit false

/-- What a reader gives for a text that begins with some characters more. -/
def prepend (text : List Char) (taken : Nat) (after : List Char × Nat) : List Char × Nat :=
  (text ++ after.1, taken + after.2)

/-! ## Quoted texts -/

/-- Blanks and line ends between two words of a quoted text. -/
structure QuotedGap where
  /-- The blanks in front of the first line end. -/
  blanks : List Char := []
  breaks : Nat := 0
  /-- A line end with a backslash stands in front; it and the blanks after it do not count. -/
  isJoined : Bool := false

namespace QuotedGap

def push (g : QuotedGap) (c : Char) : QuotedGap :=
  if c = '\n' then { g with breaks := g.breaks + 1 }
  else if g.breaks = 0 && !g.isJoined then { g with blanks := g.blanks ++ [c] }
  else g

def text (g : QuotedGap) : List Char :=
  if g.isJoined then List.replicate g.breaks '\n'
  else if g.breaks = 0 then g.blanks
  else foldedBreaks g.breaks

end QuotedGap

/-- A text up to the single quote that closes it. Two quotes are one. -/
def singleQuoted (gap : QuotedGap) : List Char → Option (List Char × Nat)
  | [] => none
  | '\'' :: '\'' :: rest => (singleQuoted {} rest).map (prepend (gap.text ++ ['\'']) 2)
  | c :: rest =>
      if c = '\'' then some (gap.text, 1)
      else if isSpace c || c = '\n' then (singleQuoted (gap.push c) rest).map (prepend [] 1)
      else (singleQuoted {} rest).map (prepend (gap.text ++ [c]) 1)

/-- The character that a backslash and another character stand for. -/
def escaped? : Char → Option Char
  | '0' => some '\x00'
  | 'a' => some '\x07'
  | 'b' => some '\x08'
  | 't' => some '\t'
  | '\t' => some '\t'
  | 'n' => some '\n'
  | 'v' => some '\x0b'
  | 'f' => some '\x0c'
  | 'r' => some '\r'
  | 'e' => some '\x1b'
  | 'N' => some '\u0085'
  | '_' => some '\u00a0'
  | 'L' => some '\u2028'
  | 'P' => some '\u2029'
  | c => if c ∈ [' ', '"', '/', '\\'] then some c else none

/-- The number of digits that follow the mark of a code point. -/
def codeLength? : Char → Option Nat
  | 'x' => some 2
  | 'u' => some 4
  | 'U' => some 8
  | _ => none

def charOfCode? (code : Nat) : Option Char :=
  if code.isValidChar then some (Char.ofNat code) else none

/-- Where a reader stands in a text between double quotes. -/
inductive DoubleState
  | text (gap : QuotedGap)
  | escape
  /-- Digits of a code point are missing. -/
  | code (missing value : Nat)

/-- A text up to the double quote that closes it. -/
def doubleQuoted (state : DoubleState) : List Char → Option (List Char × Nat)
  | [] => none
  | c :: rest =>
      match state with
      | .text gap =>
          if c = '"' then some (gap.text, 1)
          else if c = '\\' then (doubleQuoted .escape rest).map (prepend gap.text 1)
          else if isSpace c || c = '\n' then
            (doubleQuoted (.text (gap.push c)) rest).map (prepend [] 1)
          else (doubleQuoted (.text {}) rest).map (prepend (gap.text ++ [c]) 1)
      | .escape =>
          if c = '\n' then
            (doubleQuoted (.text { isJoined := true }) rest).map (prepend [] 1)
          else match codeLength? c with
            | some missing => (doubleQuoted (.code missing 0) rest).map (prepend [] 1)
            | none => do
                let meant ← escaped? c
                (doubleQuoted (.text {}) rest).map (prepend [meant] 1)
      | .code missing value => do
          let value := 16 * value + (← digitOf? 16 c)
          if 1 < missing then
            (doubleQuoted (.code (missing - 1) value) rest).map (prepend [] 1)
          else
            let meant ← charOfCode? value
            (doubleQuoted (.text {}) rest).map (prepend [meant] 1)

/-! ## Plain texts -/

/-- The length of a word of a plain text. A colon at its end belongs to a key, and between brackets
their marks end it. -/
def plainWordLength (inFlow : Bool) : List Char → Nat
  | [] => 0
  | c :: rest =>
      let isKeyEnd := c == ':' && (endsWord rest || (inFlow && rest.head?.any isFlowMark))
      if isSpace c || c = '\n' || isKeyEnd || (inFlow && isFlowMark c) then 0
      else plainWordLength inFlow rest + 1

/-- Where the blanks between two words of a plain text are. -/
inductive PlainGap
  /-- Still on the line of the first word. -/
  | sameLine
  | nextLine
  /-- On a line with a tab in front of the column `least`, which has no word but may have a
  comment. -/
  | tabbed
  | comment

/-- Blanks and line ends between two words of a plain text: their length, and the number of line
ends without those of comments. -/
def plainGap (least : Int) : PlainGap → Nat → List Char → Nat × Nat
  | _, _, [] => (0, 0)
  | state, column, c :: rest =>
      let skip (state : PlainGap) :=
        let (length, breaks) := plainGap least state (column + 1) rest
        (length + 1, breaks)
      let newLine (count : Nat) :=
        let (length, breaks) := plainGap least .nextLine 0 rest
        (length + 1, breaks + count)
      match state, c with
      | .comment, '\n' => newLine 0
      | .comment, _ => skip .comment
      | _, '\n' => newLine 1
      | state, ' ' => skip state
      | .nextLine, '\t' => skip (if (column : Int) < least then .tabbed else .nextLine)
      | state, '\t' => skip state
      | .tabbed, '#' => skip .comment
      | _, _ => (0, 0)

/-- The column at the end of a text that begins in a column. -/
def columnAfter (column : Nat) (s : List Char) : Nat :=
  s.foldl (fun column c => if c = '\n' then 0 else column + 1) column

/-- A plain text whose lines stand in the column `least` or further right, the number of characters
that it takes up with the blanks and line ends behind it, and whether there is a line end among
these. `between` is what stands for the blanks in front. Every word takes from the fuel. -/
def plainText (inFlow : Bool) (least : Int) :
    Nat → Nat → List Char → List Char → List Char × Nat × Bool
  | 0, _, _, _ => ([], 0, false)
  | fuel + 1, column, between, s =>
      if (column = 0 && isBoundary s) || s.head? = some '#' then ([], 0, false)
      else
        let length := plainWordLength inFlow s
        let after := s.drop length
        let (blankLength, breaks) := plainGap least .sameLine (column + length) after
        let blanks := after.take blankLength
        let text := if length = 0 then [] else between ++ s.take length
        let taken := length + blanks.length
        if blanks.isEmpty then (text, taken, false)
        else
          let column := columnAfter (column + length) blanks
          if !inFlow && (column : Int) < least then (text, taken, blanks.contains '\n')
          else
            let rest := after.drop blanks.length
            let between := if breaks = 0 then blanks else foldedBreaks breaks
            match plainText inFlow least fuel column between rest with
            | (_, 0, _) => (text, taken, blanks.contains '\n')
            | (more, count, isBroken) => (text ++ more, taken + count, isBroken)

/-! ## Blocks of lines -/

/-- What becomes of the line ends at the end of a block. -/
inductive Chomp
  | clip
  | keep
  | strip
  deriving DecidableEq, Repr

def chompOf? (c : Char) : Option Chomp :=
  if c = '+' then some .keep else if c = '-' then some .strip else none

def incrementOf? (c : Char) : Option Nat :=
  if '1' ≤ c ∧ c ≤ '9' then some (c.toNat - '0'.toNat) else none

/-- What the first line of a block says of the line ends and of the indentation, and the number of
characters that say it. -/
def blockHeader (s : List Char) : Chomp × Option Nat × Nat :=
  let first := s.head?
  let second := s.tail.head?
  match first.bind chompOf?, first.bind incrementOf? with
  | some chomp, _ =>
      match second.bind incrementOf? with
      | some increment => (chomp, some increment, 2)
      | none => (chomp, none, 1)
  | none, some increment =>
      match second.bind chompOf? with
      | some chomp => (chomp, some increment, 2)
      | none => (.clip, some increment, 1)
  | none, none => (.clip, none, 0)

/-- Where the next line of a block that is not empty begins. -/
structure BlockStart where
  taken : Nat
  /-- The number of empty lines in front of it. -/
  breaks : Nat
  column : Nat
  /-- The widest of its indentation and those of the empty lines. -/
  widest : Nat

/-- Skips empty lines, and at most `width` blanks of the line that follows. -/
def blockStart (width : Option Nat) (at_ : BlockStart) : List Char → BlockStart
  | [] => { at_ with widest := max at_.widest at_.column }
  | c :: rest =>
      let seen := max at_.widest at_.column
      if c = '\n' then
        blockStart width ⟨at_.taken + 1, at_.breaks + 1, 0, seen⟩ rest
      else if c = ' ' && width.all (at_.column < ·) then
        blockStart width ⟨at_.taken + 1, at_.breaks, at_.column + 1, at_.widest⟩ rest
      else { at_ with widest := seen }

/-- The lines of a block read so far: whether a line end and how many empty lines follow the last
of them, and whether it begins with a blank. -/
structure BlockTail where
  hasBreak : Bool := false
  breaks : Nat := 0
  isIndented : Bool := false

/-- What stands between the lines read so far and the next one. -/
def BlockTail.joint (tail : BlockTail) (folded isIndented : Bool) : List Char :=
  if folded && tail.hasBreak && !tail.isIndented && !isIndented then
    foldedBreaks (tail.breaks + 1)
  else List.replicate (tail.breaks + if tail.hasBreak then 1 else 0) '\n'

/-- The text of the lines of a block that begin in a column, what follows their end, the column
there, and the number of characters taken. Every line takes from the fuel. -/
def blockLines (folded : Bool) (width : Nat) :
    Nat → Nat → BlockTail → List Char → List Char × BlockTail × Nat × Nat
  | 0, column, tail, _ => ([], tail, column, 0)
  | _, column, tail, [] => ([], tail, column, 0)
  | fuel + 1, column, tail, c :: rest =>
      let s := c :: rest
      if column ≠ width || (width = 0 && isDocumentMark '.' s) then ([], tail, column, 0)
      else
        let line := s.takeWhile (· != '\n')
        let text := tail.joint folded (isSpace c) ++ line
        match s.drop line.length with
        | [] => (text, { isIndented := isSpace c }, column + line.length, line.length)
        | _ :: rest =>
            let start := blockStart (some width) ⟨0, 0, 0, 0⟩ rest
            let tail : BlockTail := ⟨true, start.breaks, isSpace c⟩
            let (more, last, column, taken) :=
              blockLines folded width fuel start.column tail (rest.drop start.taken)
            (text ++ more, last, column, line.length + 1 + start.taken + taken)

/-- The text of a block below an indentation, which begins after its mark, and the numbers of
characters from the mark to the first line and to the end. -/
def blockText? (folded : Bool) (indent : Int) (s : List Char) :
    Option (List Char × Nat × Nat) := do
  let (chomp, increment, header) := blockHeader s
  let gapLength ← lineGap? (s.drop header)
  let headLength := header + gapLength
  let (hasLine, body) ← match s.drop headLength with
    | [] => some (false, [])
    | '\n' :: body => if body.head? = some '\t' then none else some (true, body)
    | _ => none
  let least := if 0 < indent then max 1 (indent + 1) else indent + 1
  let given := increment.map fun n => (max indent 0).toNat + n
  let start := blockStart given ⟨0, 0, 0, 0⟩ body
  let width := given.getD (max start.widest least.toNat)
  let firstTaken := headLength + (if hasLine then 1 else 0) + start.taken
  match body.drop start.taken with
  | [] =>
      let text :=
        if chomp = .strip || !hasLine then []
        else if chomp = .keep && start.breaks ≠ 0 then List.replicate start.breaks '\n'
        else ['\n']
      return (text, 0, firstTaken + 1)
  | rest =>
      if start.column < width && indent < (start.column : Int) then none
      else
        let tail : BlockTail := { breaks := start.breaks }
        let (text, last, column, taken) :=
          blockLines folded width (rest.length + 1) start.column tail rest
        let atEnd := (rest.drop taken).isEmpty
        let lastBreaks := (if last.hasBreak then 1 else 0) +
          (if atEnd && max width 1 ≤ column then 1 else 0)
        let ending := match chomp with
          | .strip => 0
          | .clip => lastBreaks
          | .keep => lastBreaks + last.breaks
        return (text ++ List.replicate ending '\n', firstTaken + 1, firstTaken + taken + 1)

end RibTree.Yaml
