import RibTree.Text.Line
import RibTree.Yaml.Text

/-!
# Tokens of a document

Indentation is turned into tokens of its own: a column that begins a sequence or a mapping gives a
start, and a column further left ends what it leaves. A key has no mark in front of it, so its
token and the start of its mapping are put in behind, at the place where it began, once the colon
after it is met. Between brackets indentation has no meaning.
-/

namespace RibTree.Yaml

set_option autoImplicit false

inductive Token
  | version
  /-- What the handle of a tag is short for. -/
  | shorthand (handle expansion : String)
  | unknownDirective
  | documentStart
  | documentEnd
  | sequenceStart
  | mappingStart
  /-- The end of a sequence or mapping that indentation holds together. -/
  | blockEnd
  | flowSequenceStart
  | flowSequenceEnd
  | flowMappingStart
  | flowMappingEnd
  /-- The dash in front of an item. -/
  | dash
  | comma
  | key
  | value
  | alias (name : String)
  | anchor (name : String)
  | tag (handle suffix : String)
  | scalar (isPlain : Bool) (text : String)
  deriving DecidableEq, Repr

/-- A token and where it begins. -/
structure Placed where
  token : Token
  position : Position
  deriving DecidableEq, Repr

/-- A column and what it is within. -/
structure Indent where
  enclosing : Int
  /-- A sequence or mapping began in this column, and its end closes it. -/
  closes : Bool

/-- The last place where a key may have begun. -/
structure KeySlot where
  isPossible : Bool := false
  /-- Nothing but a key can stand there. -/
  isRequired : Bool := false
  /-- The number of tokens in front. -/
  before : Nat := 0
  position : Position := {}

/-- How far a document is read. -/
structure Scan where
  cursor : Cursor
  tokens : Array Placed := #[]
  slot : KeySlot := {}
  /-- The slots outside the brackets that are open, the innermost first. -/
  outer : List KeySlot := []
  isKeyAllowed : Bool := true
  indent : Int := -1
  indents : List Indent := []
  /-- Behind a quoted text or brackets between brackets a colon needs no blank after it. -/
  adjacentAt : Option Nat := none

def isNameChar (c : Char) : Bool :=
  c.isAlphanum || c == '_' || c == '-'

/-- May stand in a tag after its handle. -/
def isTagChar (c : Char) : Bool :=
  isNameChar c || "#;/?:@&=+$.~*'()%".toList.contains c

/-- May stand in a tag that is written out. -/
def isUriChar (c : Char) : Bool :=
  isTagChar c || ",!".toList.contains c || c == '[' || c == ']'

/-- The bytes of a tag in which a percent sign and two digits stand for a byte. -/
def uriBytes? : List Char → Option (List UInt8)
  | [] => some []
  | '%' :: high :: low :: rest => do
      let byte := 16 * (← digitOf? 16 high) + (← digitOf? 16 low)
      return byte.toUInt8 :: (← uriBytes? rest)
  | c :: rest => do
      if c = '%' then none
      else return c.toNat.toUInt8 :: (← uriBytes? rest)

def uriText? (s : List Char) : Option String := do
  String.fromUTF8? ⟨(← uriBytes? s).toArray⟩

/-- The handle at the beginning of a tag. -/
def tagHandle (s : List Char) : List Char :=
  match s with
  | '!' :: rest =>
      let name := rest.takeWhile isNameChar
      match rest.drop name.length with
      | '!' :: _ => '!' :: name ++ ['!']
      | _ => '!' :: name
  | _ => []

namespace Scan

def ofText (text : String) : Scan where
  cursor := { rest := normalize text.toList }

def rest (s : Scan) : List Char :=
  s.cursor.rest

def inFlow (s : Scan) : Bool :=
  !s.outer.isEmpty

def skip (s : Scan) (count : Nat) : Scan :=
  { s with cursor := s.cursor.skip count }

def push (s : Scan) (t : Token) (position : Position) : Scan :=
  { s with tokens := s.tokens.push ⟨t, position⟩ }

def here (s : Scan) : Position :=
  s.cursor.toPosition

def isAtLineEnd (s : Scan) : Bool :=
  s.rest.head?.all (· == '\n')

/-- Skips the blanks and the comment behind a token on its line. -/
def skipLineGap? (s : Scan) : Option Scan :=
  (lineGap? s.rest).map s.skip

/-- Skips all in front of the next token. A line may begin with a key. -/
def skipGap (s : Scan) : Scan :=
  let (length, hasLineEnd) := gap false s.rest
  { s.skip length with isKeyAllowed := s.isKeyAllowed || (hasLineEnd && !s.inFlow) }

/-! ## Indentation -/

/-- The indentation after leaving all that began to the right of a column, and the number of ends
that this gives. -/
def leave (column : Int) : Int → List Indent → Nat × Int × List Indent
  | indent, [] => (0, indent, [])
  | indent, top :: rest =>
      if column < indent then
        let (ends, indent, indents) := leave column top.enclosing rest
        (ends + if top.closes then 1 else 0, indent, indents)
      else (0, indent, top :: rest)

/-- Ends the sequences and mappings to the right of a column. -/
def unroll (s : Scan) (column : Int) (position : Position) : Scan :=
  if s.inFlow then s
  else
    let (ends, indent, indents) := leave column s.indent s.indents
    { s with indent, indents, tokens := s.tokens ++ Array.replicate ends ⟨.blockEnd, position⟩ }

/-- Begins a sequence or mapping in the column of a position unless one is open there. The token
for it goes behind a number of tokens. -/
def roll (s : Scan) (before : Nat) (start : Placed) : Scan :=
  if s.inFlow then s
  else
    let column := start.position.column
    let s : Scan := match s.indents with
      | top :: rest =>
          if s.indent ≤ column && !top.closes then
            { s with indent := top.enclosing, indents := rest }
          else s
      | [] => s
    if s.indent < column then
      { s with
        indent := column
        indents := ⟨s.indent, true⟩ :: s.indents
        tokens := s.tokens.insertIdxIfInBounds before start }
    else s

/-- What belongs to an entry stands at least one column further right than the entry. -/
def rollOneColumn (s : Scan) : Scan :=
  if !s.inFlow && s.indents.head?.any (·.closes) then
    { s with indent := s.indent + 1, indents := ⟨s.indent, false⟩ :: s.indents }
  else s

/-- Leaves the columns in which nothing began. -/
def unrollOpen (s : Scan) : Scan :=
  let within := s.indents.takeWhile fun i => !i.closes
  match within.getLast? with
  | some last => { s with indent := last.enclosing, indents := s.indents.drop within.length }
  | none => s

/-! ## Keys -/

/-- Notes that a key may begin here. -/
def saveKey (s : Scan) : Scan :=
  if s.isKeyAllowed then
    let isRequired := !s.inFlow && s.indent == (s.cursor.column : Int) &&
      s.indents.head?.any (·.closes)
    { s with slot := ⟨true, isRequired, s.tokens.size, s.here⟩ }
  else s

/-- No colon can follow what may have been a key. -/
def removeKey? (s : Scan) : Option Scan :=
  if s.slot.isPossible && s.slot.isRequired then none
  else some { s with slot := { s.slot with isPossible := false } }

/-- Outside brackets a key is on the line of its colon and not longer than 1024 characters. -/
def dropStaleKey? (s : Scan) : Option Scan :=
  let start := s.slot.position
  let isStale := start.line < s.cursor.line || start.index + 1024 < s.cursor.index
  if !s.inFlow && s.slot.isPossible && isStale then s.removeKey? else some s

def allowKey (s : Scan) (isAllowed : Bool) : Scan :=
  { s with isKeyAllowed := isAllowed }

/-! ## Single tokens -/

def openBracket? (s : Scan) (t : Token) : Option Scan := do
  let position := s.here
  let s := s.saveKey.rollOneColumn
  let s : Scan := { s with slot := {}, outer := s.slot :: s.outer, isKeyAllowed := true }
  return (← (s.skip 1).skipLineGap?).push t position

def closeBracket? (s : Scan) (t : Token) : Option Scan := do
  let position := s.here
  let s ← s.removeKey?
  match s.outer with
  | [] => none
  | slot :: outer =>
      let s : Scan := { s with slot, outer, isKeyAllowed := false }
      let s ← (s.skip 1).skipLineGap?
      let adjacentAt := if s.inFlow then some s.cursor.index else s.adjacentAt
      return { s with adjacentAt }.push t position

def comma? (s : Scan) : Option Scan := do
  let after := ((← s.removeKey?).allowKey true).skip 1
  return (← after.skipLineGap?).push .comma s.here

/-- A dash in front of an item. -/
def dash? (s : Scan) : Option Scan := do
  if s.inFlow || !s.isKeyAllowed then none
  let s ← ((s.skip 1).roll s.tokens.size ⟨.sequenceStart, s.here⟩).skipLineGap?
  let s := if s.isAtLineEnd || s.rest.head?.any isFlowMark then s.rollOneColumn else s
  return ((← s.removeKey?).allowKey true).push .dash s.here

/-- The mark in front of a key of any kind. -/
def explicitKey? (s : Scan) : Option Scan := do
  if !s.inFlow && !s.isKeyAllowed then none
  let position := s.here
  let s := s.roll s.tokens.size ⟨.mappingStart, position⟩
  let s := (← s.removeKey?).allowKey !s.inFlow
  return (s.skip 1).skipGap.push .key position

/-- The colon between a key and its value. -/
def colon? (s : Scan) : Option Scan := do
  let after := s.skip 1
  if s.slot.isPossible then
    let start := s.slot.position
    let tokens := s.tokens.insertIdxIfInBounds s.slot.before ⟨.key, start⟩
    let after : Scan := { after with
      tokens, slot := { s.slot with isPossible := false }, isKeyAllowed := false }
    return ((after.roll s.slot.before ⟨.mappingStart, start⟩).rollOneColumn).push .value s.here
  else if s.inFlow then return (after.allowKey false).push .value s.here
  else if s.isKeyAllowed then
    let after := (after.roll s.tokens.size ⟨.mappingStart, s.here⟩).rollOneColumn
    return (after.allowKey true).push .value s.here
  else none

/-- The name of an alias or an anchor. -/
def name? (s : Scan) (token : String → Token) : Option Scan := do
  let after := (s.saveKey.allowKey false).skip 1
  let name := after.rest.takeWhile fun c => !(endsWord [c] || isFlowMark c || c == '\ufeff')
  if name.isEmpty then none
  return (after.skip name.length).push (token (String.ofList name)) s.here

def tag? (s : Scan) : Option Scan := do
  let position := s.here
  let s := s.saveKey.allowKey false
  let (handle, suffix, taken) ← match s.rest with
    | _ :: '<' :: rest => do
        let name := rest.takeWhile isUriChar
        if (rest.drop name.length).head? = some '>' then some ([], name, name.length + 3) else none
    | rest => do
        let handle := tagHandle rest
        let suffix := (rest.drop handle.length).takeWhile isTagChar
        let taken := handle.length + suffix.length
        if 2 ≤ handle.length && handle.getLast? = some '!' then
          if suffix.isEmpty then none else some (handle, suffix, taken)
        else if taken = 1 then some ([], ['!'], taken)
        else some (['!'], handle.tail ++ suffix, taken)
  let s := s.skip taken
  if endsWord s.rest || (s.inFlow && s.rest.head?.any isFlowMark) then
    return s.push (.tag (String.ofList handle) (← uriText? suffix)) position
  else none

/-- All lines of a quoted text but its first are indented, and none of them ends a document. A quote
alone may stand anywhere. -/
def isContinued (indent : Int) (s : List Char) : Bool :=
  (Text.pieces '\n' s).tail.all fun line =>
    let blanks := (line.takeWhile isSpace).length
    line.length ≤ max blanks 1 || (indent ≤ blanks && !isBoundary line)

/-- A text between quotes, which a reader reads behind the first one. -/
def quoted? (s : Scan) (reader : List Char → Option (List Char × Nat)) : Option Scan := do
  let start := s.saveKey.allowKey false
  let (text, taken) ← reader start.rest.tail
  if !isContinued start.indent (start.rest.take (taken + 1)) then none
  let s ← (start.skip (taken + 1)).skipLineGap?
  let isEnd := match s.rest.head? with
    | none => true
    | some c =>
        c == '\n' || (s.inFlow && [',', ']', '\x7d'].contains c) ||
          (c == ':' && (s.inFlow || s.cursor.line == start.cursor.line))
  if isEnd then
    let s := s.skipGap
    let s : Scan := { s with adjacentAt := some s.cursor.index }
    return s.push (.scalar false (String.ofList text)) start.here
  else none

def block? (s : Scan) (folded : Bool) : Option Scan := do
  let s := (s.saveKey.allowKey true).unrollOpen
  let (text, start, taken) ← blockText? folded s.indent s.rest.tail
  let token := Token.scalar false (String.ofList text)
  return (s.skip taken).push token (s.skip start).here

def plain? (s : Scan) : Option Scan := do
  let s := (s.saveKey.allowKey false).unrollOpen
  if s.inFlow && s.cursor.column ≤ s.indent then none
  let (text, taken, isBroken) :=
    plainText s.inFlow (s.indent + 1) s.rest.length s.cursor.column [] s.rest
  return ((s.skip taken).allowKey isBroken).push (.scalar true (String.ofList text)) s.here

/-- What a directive says, after its name. -/
def directiveValue? (name : List Char) (s : List Char) : Option (Token × Nat) := do
  let blanks := (s.takeWhile isSpace).length
  let after := s.drop blanks
  match String.ofList name with
  | "YAML" =>
      let major := (after.takeWhile Char.isDigit).length
      match after.drop major with
      | '.' :: rest =>
          let minor := (rest.takeWhile Char.isDigit).length
          if major = 0 || minor = 0 then none
          return (.version, blanks + major + 1 + minor)
      | _ => none
  | "TAG" =>
      let handle := tagHandle after
      if handle.getLast? ≠ some '!' then none
      let after := after.drop handle.length
      let gap := (after.takeWhile isSpace).length
      let expansion := (after.drop gap).takeWhile isUriChar
      if expansion.isEmpty then none
      return (.shorthand (String.ofList handle) (← uriText? expansion),
        blanks + handle.length + gap + expansion.length)
  | _ => return (.unknownDirective, (s.takeWhile (· != '\n')).length)

def directive? (s : Scan) : Option Scan := do
  let position := s.here
  let s := ((← (s.unroll (-1) position).removeKey?).allowKey false).skip 1
  let name := s.rest.takeWhile isNameChar
  let s := s.skip name.length
  if name.isEmpty || !endsWord s.rest then none
  let (token, taken) ← directiveValue? name s.rest
  let s := s.skip taken
  if !endsWord s.rest then none
  let s ← s.skipLineGap?
  if s.isAtLineEnd then return (s.skip 1).push token position else none

/-- The mark at the start or the end of a document. -/
def documentMark? (s : Scan) (t : Token) : Option Scan := do
  return (((← (s.unroll (-1) s.here).removeKey?).allowKey false).skip 3).push t s.here

def documentEnd? (s : Scan) : Option Scan := do
  let s ← (← s.documentMark? .documentEnd).skipLineGap?
  if s.isAtLineEnd then return s else none

/-- Reads the token that begins with a character. -/
def token? (s : Scan) (c : Char) : Option Scan :=
  let after := s.rest.tail
  let isColon := endsWord after ||
    (s.inFlow && (after.head?.any isFlowMark || s.adjacentAt == some s.cursor.index))
  if c = '[' then s.openBracket? .flowSequenceStart
  else if c = '\x7b' then s.openBracket? .flowMappingStart
  else if c = ']' then s.closeBracket? .flowSequenceEnd
  else if c = '\x7d' then s.closeBracket? .flowMappingEnd
  else if c = ',' then s.comma?
  else if c = '-' && endsWord after then s.dash?
  else if c = '?' && endsWord after then s.explicitKey?
  else if c = ':' && isColon then s.colon?
  else if c = '*' then s.name? .alias
  else if c = '&' then s.name? .anchor
  else if c = '!' then s.tag?
  else if c = '|' && !s.inFlow then s.block? false
  else if c = '>' && !s.inFlow then s.block? true
  else if c = '\'' then s.quoted? (singleQuoted {})
  else if c = '"' then s.quoted? (doubleQuoted (.text {}))
  else if c = '%' || c = '@' || c = '\x60' then none
  else s.plain?

/-- Reads the next token, at whose beginning `s` is. -/
def next? (s : Scan) : Option Scan :=
  let isLineStart := s.cursor.column = 0
  match s.rest with
  | [] => none
  | c :: _ =>
      if isLineStart && c = '%' then s.directive?
      else if isLineStart && isDocumentMark '-' s.rest then s.documentMark? .documentStart
      else if isLineStart && isDocumentMark '.' s.rest then s.documentEnd?
      else if (s.cursor.column : Int) < s.indent then none
      else s.token? c

/-- The end of the text. It is at the beginning of a line. -/
def finish? (s : Scan) : Option (Array Placed) := do
  let start := s.here
  let position := if start.column = 0 then start else ⟨start.line + 1, 0, start.index⟩
  return ((← s.removeKey?).unroll (-1) position).tokens

/-- All tokens. Every token takes from the fuel. -/
def tokens? : Nat → Scan → Option (Array Placed)
  | 0, _ => none
  | fuel + 1, s => do
      let s ← s.skipGap.dropStaleKey?
      let s := s.unroll s.cursor.column s.here
      if s.rest.isEmpty then s.finish? else tokens? fuel (← s.next?)

end Scan

/-- The tokens of a text. -/
def Placed.ofText? (text : String) : Option (List Placed) :=
  let s := Scan.ofText text
  (s.tokens? (s.rest.length + 1)).map Array.toList

end RibTree.Yaml
