import RibTree.Decimal.Double

/-!
# Structured values

Values as JSON has them, and their JSON text on one line. The members of a mapping are written in
the order in which they stand.
-/

namespace RibTree

set_option autoImplicit false

inductive Value
  | null
  | boolean (b : Bool)
  | integer (n : Int)
  | real (x : Double)
  | string (s : String)
  | sequence (items : List Value)
  | mapping (members : List (String × Value))
  deriving Inhabited

namespace Value

def boolText (b : Bool) : String := if b then "true" else "false"

/-- A number with a point, or with an exponent if the point would stand far from its digits. Of two
texts that are equally near the even one is taken. -/
def realText : Double → String
  | .infinite _ => "null"
  | .finite negative 0 _ => Double.signText negative ++ "0.0"
  | .finite negative mantissa exponent =>
      let (digits, place) := Double.shortest .even mantissa exponent
      let written := (toString digits).toList
      let point := written.length + place
      Double.signText negative ++
        if -5 < point ∧ point ≤ 16 then Decimal.positional digits place ".0"
        else
          let fraction := if written.tail.isEmpty then [] else '.' :: written.tail
          String.ofList (written.take 1 ++ fraction) ++ "e" ++ toString (point - 1)

def hexDigit (n : Nat) : Char := Nat.digitChar n

/-- A character inside quotes. Everything below the blank is escaped. -/
def escape (c : Char) : List Char :=
  if c = '"' ∨ c = '\\' then ['\\', c]
  else if c = '\n' then ['\\', 'n']
  else if c = '\r' then ['\\', 'r']
  else if c = '\t' then ['\\', 't']
  else if c.toNat = 0x8 then ['\\', 'b']
  else if c.toNat = 0xc then ['\\', 'f']
  else if c.toNat < 0x20 then
    ['\\', 'u', '0', '0', hexDigit (c.toNat / 16), hexDigit (c.toNat % 16)]
  else [c]

def quote (s : String) : List Char :=
  '"' :: s.toList.flatMap escape ++ ['"']

mutual

/-- The JSON text of a value, without blanks or line ends. -/
def json : Value → List Char
  | null => "null".toList
  | boolean b => (boolText b).toList
  | integer n => (toString n).toList
  | real x => (realText x).toList
  | string s => quote s
  | sequence items => '[' :: jsonItems items ++ [']']
  | mapping members => '\x7b' :: jsonMembers members ++ ['\x7d']

def jsonItems : List Value → List Char
  | [] => []
  | [item] => item.json
  | item :: rest => item.json ++ ',' :: jsonItems rest

def jsonMembers : List (String × Value) → List Char
  | [] => []
  | [(key, value)] => quote key ++ ':' :: value.json
  | (key, value) :: rest => quote key ++ ':' :: value.json ++ ',' :: jsonMembers rest

end

/-- The JSON text of a value as one line. -/
def line (value : Value) : String :=
  String.ofList value.json

end Value

end RibTree
