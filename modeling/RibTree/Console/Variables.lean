import RibTree.Text.Blank
import RibTree.Text.Line
import RibTree.Text.WordChar

/-!
# Variables from a file

Variables of the environment may stand in a file, one assignment a line. Values may be quoted, may
hold other variables, and may go on over several lines inside quotes. The variables that are there
already keep their values, and reading ends at the first line that is not well formed.
-/

namespace RibTree

set_option autoImplicit false

/-- The variables that a command line sees. -/
abbrev Environment := String → Option String

namespace Variables

/-! ## Lines -/

/-- Where a line stands with respect to quotes. -/
inductive QuoteState
  | outside
  /-- After a blank outside quotes; a comment can begin here. -/
  | blank
  | escape
  | double
  | doubleEscape
  | single
  | singleEscape
  | comment
  deriving DecidableEq, Repr

namespace QuoteState

/-- The state after a character that is neither inside quotes nor escaped. -/
def openedBy (c : Char) : QuoteState :=
  if c = '\\' then escape else if c = '"' then double else if c = '\'' then single else outside

def next (state : QuoteState) (c : Char) : QuoteState :=
  match state with
  | outside => if Text.isBlank c && c != '\n' && c != '\r' then blank else openedBy c
  | blank => if c = '#' then comment else openedBy c
  | escape => outside
  | double => if c = '\\' then doubleEscape else if c = '"' then outside else double
  | doubleEscape => double
  | single => if c = '\\' then singleEscape else if c = '\'' then outside else single
  | singleEscape => single
  | comment => comment

end QuoteState

/-- The state at the end of a text, and the text without the comment that begins in it. -/
def scan (state : QuoteState) : List Char → QuoteState × List Char
  | [] => (state, [])
  | c :: rest =>
      match state.next c with
      | .comment => (.comment, [])
      | after =>
          let (last, text) := scan after rest
          (last, c :: text)

/-- Lines joined where quotes stay open; `none` stands for quotes that are never closed. -/
def joinLines (state : QuoteState) (before : List Char) :
    List (List Char) → List (Option (List Char))
  | [] => if state = .outside then [] else [none]
  | segment :: rest =>
      if (Text.trimStart (before ++ segment)).head? = some '#' then
        some [] :: joinLines .outside [] rest
      else match scan state segment with
        | (.outside, _) => some (Text.chomp (before ++ segment)) :: joinLines .outside [] rest
        | (.comment, text) => some (before ++ text) :: joinLines .outside [] rest
        | (state, _) => joinLines state (before ++ segment) rest

/-! ## Values -/

inductive ValueState
  | bare
  | single
  | double
  | escape (inDouble : Bool)
  /-- The name of a variable is being read. -/
  | name (inDouble inBraces : Bool) (soFar : List Char)
  /-- Only blanks and a comment may follow. -/
  | ended

def ValueState.around (inDouble : Bool) : ValueState :=
  if inDouble then double else bare

/-- The character that a backslash and another character stand for. -/
def escaped? (c : Char) : Option Char :=
  if c = 'n' then some '\n'
  else if c ∈ ['\\', '\'', '"', '$', ' '] then some c
  else none

/-- The text of a value. -/
def readValue (lookup : List Char → List Char) :
    ValueState → List Char → Option (List Char)
  | .bare, [] | .ended, [] | .escape false, [] => some []
  | .name false false soFar, [] => some (lookup soFar)
  | _, [] => none
  | .ended, c :: rest =>
      if c = ' ' ∨ c = '\t' then readValue lookup .ended rest
      else if c = '#' then some []
      else none
  | .escape inDouble, c :: rest => do
      return (← escaped? c) :: (← readValue lookup (.around inDouble) rest)
  | .single, c :: rest =>
      if c = '\'' then readValue lookup .bare rest
      else (readValue lookup .single rest).map (c :: ·)
  | .name inDouble inBraces soFar, c :: rest =>
      if Text.isAlphanumeric c then readValue lookup (.name inDouble inBraces (soFar ++ [c])) rest
      else if inBraces then
        if c = '\x7d' then (readValue lookup (.around inDouble) rest).map (lookup soFar ++ ·)
        else readValue lookup (.name inDouble true (soFar ++ [c])) rest
      else if c = '\x7b' && soFar.isEmpty then readValue lookup (.name inDouble true []) rest
      else if c = '$' then
        (readValue lookup (.name inDouble false []) rest).map (lookup soFar ++ ·)
      else (readValue lookup (.around inDouble) rest).map (lookup soFar ++ c :: ·)
  | .double, c :: rest =>
      if c = '$' then readValue lookup (.name true false []) rest
      else if c = '"' then readValue lookup .bare rest
      else if c = '\\' then readValue lookup (.escape true) rest
      else (readValue lookup .double rest).map (c :: ·)
  | .bare, c :: rest =>
      if c = '$' then readValue lookup (.name false false []) rest
      else if c = '\'' then readValue lookup .single rest
      else if c = '"' then readValue lookup .double rest
      else if c = '\\' then readValue lookup (.escape false) rest
      else if c = ' ' ∨ c = '\t' then readValue lookup .ended rest
      else (readValue lookup .bare rest).map (c :: ·)

/-! ## Assignments -/

def isKeyStart (c : Char) : Bool := c.isAlpha || c == '_'

def isKeyChar (c : Char) : Bool := c.isAlphanum || c == '_' || c == '.'

/-- A key at the start of a text, and what follows it after blanks. -/
def splitKey? : List Char → Option (List Char × List Char)
  | [] => none
  | c :: rest =>
      if isKeyStart c then
        some (c :: rest.takeWhile isKeyChar, Text.trimStart (rest.dropWhile isKeyChar))
      else none

/-- The key of an assignment and the text after its equals sign. The word `export` may stand in
front. -/
def splitAssignment? (line : List Char) : Option (List Char × List Char) := do
  match ← splitKey? line with
  | (key, '=' :: value) => some (key, Text.trimStart value)
  | (key, rest) =>
      if key = "export".toList then
        match ← splitKey? rest with
        | (key, '=' :: value) => some (key, Text.trimStart value)
        | _ => none
      else none

/-- The assignment of a line; a blank line or a comment holds none. Outside the option stands a
line that is not well formed. -/
def readLine (lookup : List Char → List Char) (line : List Char) :
    Option (Option (String × String)) :=
  match Text.trim line with
  | [] => some none
  | '#' :: _ => some none
  | text => do
      let (key, value) ← splitAssignment? text
      let value ←
        if value.head? = some '#' then some [] else readValue lookup .bare value
      return some (String.ofList key, String.ofList value)

/-- The environment with a variable that it does not have yet. -/
def define (environment : Environment) (key value : String) : Environment := fun name =>
  match environment name with
  | some own => some own
  | none => if name = key then some value else none

def readLines (environment : Environment) : List (Option (List Char)) → Environment
  | [] => environment
  | none :: _ => environment
  | some line :: rest =>
      let lookup (name : List Char) := ((environment (String.ofList name)).getD "").toList
      match readLine lookup line with
      | none => environment
      | some none => readLines environment rest
      | some (some (key, value)) => readLines (define environment key value) rest

/-- The words of a text that can be names of variables. -/
def words (text : String) : List String :=
  (split [] text.toList).map String.ofList
where
  split (word : List Char) : List Char → List (List Char)
    | [] => [word]
    | c :: rest => if isKeyChar c then split (word ++ [c]) rest else word :: split [] rest

/-- The environment with the variables that a file adds to it. -/
def read (environment : Environment) (text : String) : Environment :=
  readLines environment (joinLines .outside [] (Text.segments text.toList))

end Variables

end RibTree
