/-!
# Reading bytes that may not be text

Bytes are read as UTF-8. What is not well formed becomes replacement characters: one for every
byte that begins nothing, and one for every character that breaks off, as far as it goes. A reader
of lines stops instead at the first line that is not well formed.
-/

namespace RibTree.Text

set_option autoImplicit false

def replacement : Char := '\ufffd'

/-- The ranges of the bytes that have to follow a first byte; `none` if it begins no character. -/
def followers (first : Nat) : Option (List (Nat × Nat)) :=
  let any := (0x80, 0xbf)
  if first < 0x80 then some []
  else if first < 0xc2 then none
  else if first < 0xe0 then some [any]
  else if first = 0xe0 then some [(0xa0, 0xbf), any]
  else if first = 0xed then some [(0x80, 0x9f), any]
  else if first < 0xf0 then some [any, any]
  else if first = 0xf0 then some [(0x90, 0xbf), any, any]
  else if first < 0xf4 then some [any, any, any]
  else if first = 0xf4 then some [(0x80, 0x8f), any, any]
  else none

/-- The bits of the code point that a first byte with so many followers holds. -/
def firstBits (first followerCount : Nat) : Nat :=
  if followerCount = 0 then first else first % (64 >>> followerCount)

/-- Reads on after `value`, the bits of a character that misses bytes in the given ranges. No range
is missing when no character has begun. -/
def readBytes (value : Nat) : List (Nat × Nat) → List UInt8 → List Char
  | [], [] => []
  | _ :: _, [] => [replacement]
  | [], byte :: rest => begin byte.toNat rest
  | (low, high) :: missing, byte :: rest =>
      if low ≤ byte.toNat ∧ byte.toNat ≤ high then
        let value := value * 64 + byte.toNat % 64
        if missing.isEmpty then Char.ofNat value :: readBytes 0 [] rest
        else readBytes value missing rest
      else replacement :: begin byte.toNat rest
where
  /-- Reads on from the first byte of a character. -/
  begin (first : Nat) (rest : List UInt8) : List Char :=
    match followers first with
    | none => replacement :: readBytes 0 [] rest
    | some [] => Char.ofNat first :: readBytes 0 [] rest
    | some missing => readBytes (firstBits first missing.length) missing rest

/-- The text of bytes, with replacement characters where they are not UTF-8. -/
def ofBytes (bytes : ByteArray) : String :=
  String.ofList (readBytes 0 [] bytes.data.toList)

/-- The lines of bytes, each with its line feed. -/
def byteLines : List UInt8 → List (List UInt8)
  | [] => []
  | byte :: rest =>
      if byte = 0xa then [byte] :: byteLines rest
      else match byteLines rest with
        | [] => [[byte]]
        | line :: more => (byte :: line) :: more

/-- The text of bytes as far as their lines are UTF-8. -/
def wellFormedLines (bytes : ByteArray) : String :=
  let lines := (byteLines bytes.data.toList).map fun line => String.fromUTF8? ⟨line.toArray⟩
  String.join ((lines.takeWhile Option.isSome).map (·.getD ""))

end RibTree.Text
