import RibTree.Yaml.Node
import RibTree.Yaml.Token

/-!
# Documents

The nodes that tokens make up. Where a key, a value or an item is left out, it is null. Nodes that
have a name can be repeated within their document. A key cannot be given twice in one mapping.
-/

namespace RibTree.Yaml

set_option autoImplicit false

/-- A key that is given twice, and where the second value stands. -/
structure Repetition where
  key : Yaml
  position : Position

/-- The tokens that are left, and what is known in the document that they belong to. -/
structure Reading where
  tokens : List Placed
  /-- Where the last node is complete: at its last token, or at the next one if it has none. -/
  position : Position := {}
  /-- The first repetition in the order of the documents. -/
  repetition : Option Repetition := none
  /-- What handles of tags are short for. -/
  shorthands : List (String × String) := []
  /-- The numbers of the nodes that have a name, the latest first. -/
  names : List (String × Nat) := []
  /-- The nodes with a name that are read to their end. -/
  named : List (Nat × Yaml) := []
  nameCount : Nat := 0

abbrev Reader := StateT Reading Option

/-- What stands in front of a node. -/
structure Properties where
  number : Option Nat := none
  /-- The meaning of the handle of its tag, and the rest of the tag. -/
  tag : Option (String × String) := none

def Properties.isEmpty (p : Properties) : Bool :=
  p.number.isNone && p.tag.isNone

/-- What the handles of the common tags are short for. -/
def commonTags : String := "tag:yaml.org,2002:"

/-- The scalar of a plain text. Only the common tags say what it is. -/
def Properties.plain (p : Properties) (text : String) : Scalar :=
  match p.tag with
  | none => .ofPlain text
  | some (handle, suffix) => if handle = commonTags then .ofTagged suffix text else .string text

/-- A node and where it is complete. -/
abbrev Complete := Yaml × Position

/-- The entries that nodes give in turn as keys and values. What cannot be read is no key, and the
next node takes its place. -/
def pairUp : List Complete → List (Yaml × Complete)
  | [] | [_] => []
  | (scalar .invalid, _) :: rest => pairUp rest
  | (key, _) :: value :: rest => (key, value) :: pairUp rest

/-- The first entry whose key is that of an entry in front of it. -/
def repetition? (seen : List String) : List (Yaml × Complete) → Option Repetition
  | [] => none
  | (key, _, position) :: rest =>
      if seen.contains key.kindText then some ⟨key, position⟩
      else repetition? (key.kindText :: seen) rest

namespace Reader

def peek? : Reader (Option Token) :=
  return (← get).tokens.head?.map Placed.token

def advance : Reader Unit :=
  modify fun r =>
    match r.tokens with
    | [] => r
    | t :: rest => { r with tokens := rest, position := t.position }

/-- A node without a token is complete where the next token stands. -/
def endHere : Reader Unit :=
  modify fun r => { r with position := (r.tokens.head?.map Placed.position).getD r.position }

/-- The next token is one of these. -/
def isAt (tokens : List (Option Token)) : Reader Bool :=
  return tokens.contains (← peek?)

def name (name : String) : Reader Nat :=
  modifyGet fun r =>
    (r.nameCount, { r with names := (name, r.nameCount) :: r.names, nameCount := r.nameCount + 1 })

/-- The node with a name. Within itself it cannot be read. -/
def named (name : String) : Reader Yaml := do
  let r ← get
  let number ← r.names.lookup name
  return (r.named.lookup number).getD invalid

/-- The meaning of the handle of a tag. -/
def meaning (handle : String) : Reader String := do
  match (← get).shorthands.lookup handle with
  | some expansion => return expansion
  | none =>
      if handle = "!!" then return commonTags
      else if 2 ≤ handle.length && handle.endsWith "!" then failure
      else return handle

/-- An anchor and a tag, or one of them, in either order. -/
def properties : Reader Properties := do
  match ← peek? with
  | some (.anchor anchor) =>
      advance
      let number ← name anchor
      match ← peek? with
      | some (.tag handle suffix) =>
          advance
          return ⟨number, some (← meaning handle, suffix)⟩
      | _ => return ⟨number, none⟩
  | some (.tag handle suffix) =>
      advance
      let tag := (← meaning handle, suffix)
      match ← peek? with
      | some (.anchor anchor) =>
          advance
          return ⟨some (← name anchor), tag⟩
      | _ => return ⟨none, tag⟩
  | _ => return {}

/-- Keeps a node that has a name. -/
def keep (p : Properties) (node : Yaml) : Reader Yaml := do
  match p.number with
  | some number => modify fun r => { r with named := (number, node) :: r.named }
  | none => pure ()
  return node

def complete (read : Reader Yaml) : Reader Complete := do
  let node ← read
  return (node, (← get).position)

/-- Keeps the repetition that comes first. -/
def noteRepetition (found : Repetition) : Reader Unit :=
  modify fun r =>
    match r.repetition with
    | some known =>
        if known.position.index ≤ found.position.index then r
        else { r with repetition := some found }
    | none => { r with repetition := some found }

/-- The mapping of some nodes in turn. -/
def mappingOf (nodes : List Complete) : Reader Yaml := do
  let entries := pairUp nodes
  match repetition? [] entries with
  | some found => noteRepetition found
  | none => pure ()
  return mapping (entries.map fun (key, value, _) => (key, value))

mutual

/-- The next node. Every node and every entry takes from the fuel. -/
def node (inBlock allowsDash : Bool) : Nat → Reader Yaml
  | 0 => failure
  | fuel + 1 => do
      match ← peek? with
      | some (.alias name) =>
          advance
          named name
      | _ =>
          let p ← properties
          match ← peek? with
          | some (.scalar isPlain text) =>
              advance
              keep p (scalar (if isPlain then p.plain text else .string text))
          | some .flowSequenceStart =>
              advance
              keep p (sequence (← flowItems true fuel))
          | some .flowMappingStart =>
              advance
              keep p (← mappingOf (← flowEntries true fuel))
          | token =>
              if allowsDash && token = some .dash then
                keep p (sequence (← dashedItems fuel))
              else if inBlock && token = some .sequenceStart then
                advance
                keep p (sequence (← blockItems fuel))
              else if inBlock && token = some .mappingStart then
                advance
                keep p (← mappingOf (← blockEntries fuel))
              else if p.isEmpty then failure
              else
                endHere
                keep p (scalar (p.plain ""))

/-- A node, or null where a token shows that it is left out. -/
def nodeUnless (left : List (Option Token)) (inBlock allowsDash : Bool) : Nat → Reader Yaml
  | 0 => failure
  | fuel + 1 => do
      if ← isAt left then
        if inBlock then endHere
        return null
      node inBlock allowsDash fuel

/-- What follows a colon, or null without one. -/
def valueUnless (left : List (Option Token)) (inBlock : Bool) : Nat → Reader Yaml
  | 0 => failure
  | fuel + 1 => do
      if ← isAt [some .value] then
        advance
        nodeUnless left inBlock inBlock fuel
      else
        endHere
        return null

/-- The items of a sequence in a column of its own. -/
def blockItems : Nat → Reader (List Yaml)
  | 0 => failure
  | fuel + 1 => do
      match ← peek? with
      | some .blockEnd =>
          advance
          return []
      | some .dash =>
          advance
          let item ← nodeUnless [some .dash, some .blockEnd] true false fuel
          return item :: (← blockItems fuel)
      | _ => failure

/-- The items of a sequence in the column of the key that it belongs to. -/
def dashedItems : Nat → Reader (List Yaml)
  | 0 => failure
  | fuel + 1 => do
      if ← isAt [some .dash] then
        advance
        let ends := [some .dash, some .key, some .value, some .blockEnd]
        let item ← nodeUnless ends true false fuel
        return item :: (← dashedItems fuel)
      else
        endHere
        return []

/-- The keys and values of a mapping in turn. -/
def blockEntries : Nat → Reader (List Complete)
  | 0 => failure
  | fuel + 1 => do
      let ends := [some .key, some .value, some .blockEnd]
      match ← peek? with
      | some .key =>
          advance
          let key ← complete (nodeUnless ends true true fuel)
          let value ← complete (valueUnless ends true fuel)
          return key :: value :: (← blockEntries fuel)
      | some .value =>
          let value ← complete (valueUnless ends true fuel)
          return (null, value.2) :: value :: (← blockEntries fuel)
      | some .blockEnd =>
          advance
          return []
      | _ => failure

/-- The keys and values of a mapping between brackets, in turn. -/
def flowEntries (isFirst : Bool) : Nat → Reader (List Complete)
  | 0 => failure
  | fuel + 1 => do
      if ← isAt [some .flowMappingEnd] then
        advance
        return []
      unless isFirst do
        unless ← isAt [some .comma] do failure
        advance
      let ends := [some .comma, some .flowMappingEnd]
      match ← peek? with
      | some .key =>
          advance
          let key ← complete (nodeUnless (some .value :: ends) false false fuel)
          let value ← complete (valueUnless ends false fuel)
          return key :: value :: (← flowEntries false fuel)
      | some .value =>
          let value ← complete (valueUnless ends false fuel)
          return (null, value.2) :: value :: (← flowEntries false fuel)
      | some .flowMappingEnd =>
          advance
          return []
      | _ =>
          let key ← complete (node false false fuel)
          endHere
          let value ← complete (pure null)
          return key :: value :: (← flowEntries false fuel)

/-- The items of a sequence between brackets. A key and a value are a mapping of their own. -/
def flowItems (isFirst : Bool) : Nat → Reader (List Yaml)
  | 0 => failure
  | fuel + 1 => do
      if ← isAt [some .flowSequenceEnd] then
        advance
        return []
      unless isFirst do
        unless ← isAt [some .comma] do failure
        advance
      let ends := [some .comma, some .flowSequenceEnd]
      match ← peek? with
      | some .flowSequenceEnd =>
          advance
          return []
      | some .key =>
          advance
          let key ← complete (nodeUnless (some .value :: ends) false false fuel)
          let value ← complete (valueUnless ends false fuel)
          let item ← mappingOf [key, value]
          return item :: (← flowItems false fuel)
      | some .value =>
          let value ← complete (valueUnless ends false fuel)
          let item ← mappingOf [(null, value.2), value]
          return item :: (← flowItems false fuel)
      | _ =>
          let item ← node false false fuel
          return item :: (← flowItems false fuel)

end

/-- Reads the directives in front of a document. Only the last of them counts. -/
def directives (hasVersion : Bool) : Nat → Reader Unit
  | 0 => failure
  | fuel + 1 => do
      let use (shorthands : List (String × String)) : Reader Unit := do
        modify fun r => { r with shorthands }
        advance
      match ← peek? with
      | some .version =>
          if hasVersion then failure
          use []
          directives true fuel
      | some (.shorthand handle expansion) =>
          use [(handle, expansion)]
          directives hasVersion fuel
      | some .unknownDirective =>
          use []
          directives hasVersion fuel
      | _ => pure ()

def isAtDirective : Reader Bool := do
  match ← peek? with
  | some .version | some (.shorthand _ _) | some .unknownDirective => return true
  | _ => return false

/-- The documents that are left. The first one, and one after an end mark, need no start mark. -/
def documents (isStarted : Bool) : Nat → Reader (List Yaml)
  | 0 => failure
  | fuel + 1 => do
      match ← peek? with
      | none => return []
      | some .documentEnd =>
          advance
          documents isStarted fuel
      | some token =>
          modify fun r => { r with names := [] }
          let isMarked := (← isAtDirective) || token = .documentStart || !isStarted
          if isMarked then
            directives false fuel
            unless ← isAt [some .documentStart] do failure
            advance
          let isEmpty := isMarked &&
            ((← isAt [none, some .documentStart, some .documentEnd]) || (← isAtDirective))
          let document ← if isEmpty then pure null else node true false fuel
          modify fun r => { r with shorthands := [] }
          if ← isAt [some .documentEnd] then
            advance
            return document :: (← documents true fuel)
          if ← isAtDirective then failure
          return document :: (← documents false fuel)

end Reader

inductive DocumentFailure
  | malformed
  | repeatedKey (repetition : Repetition)

/-- The documents of a text. The index of a repetition counts the characters of the text. -/
def documents (text : String) : Except DocumentFailure (List Yaml) :=
  let read := do
    let tokens ← Placed.ofText? text
    (Reader.documents true (4 * tokens.length + 4)).run { tokens }
  match read with
  | none => .error .malformed
  | some (documents, { repetition := none, .. }) => .ok documents
  | some (_, { repetition := some ⟨key, position⟩, .. }) =>
      let index := lengthBefore position.index text.toList
      .error (.repeatedKey ⟨key, { position with index }⟩)

end RibTree.Yaml
