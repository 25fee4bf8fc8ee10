import RibTree.Decimal.Double

/-!
# Scalars of a settings document

A plain scalar is text only if it does not read as null, a truth value or a number. A tag can fix
what it is; then another spelling makes it invalid.
-/

namespace RibTree.Yaml

set_option autoImplicit false

/-- What a scalar stands for. A real number keeps its spelling. -/
inductive Scalar
  | null
  | boolean (b : Bool)
  | integer (n : Int)
  | real (spelling : String)
  | string (s : String)
  | invalid
  deriving DecidableEq, Repr

def digitOf? (radix : Nat) (c : Char) : Option Nat :=
  let n := c.toNat
  let digit :=
    if '0'.toNat ≤ n ∧ n ≤ '9'.toNat then some (n - '0'.toNat)
    else if 'a'.toNat ≤ n ∧ n ≤ 'f'.toNat then some (n - 'a'.toNat + 10)
    else if 'A'.toNat ≤ n ∧ n ≤ 'F'.toNat then some (n - 'A'.toNat + 10)
    else none
  digit.filter (· < radix)

def isWordSize (n : Int) : Bool :=
  -0x8000000000000000 ≤ n && n < 0x8000000000000000

/-- A whole number of word size with digits of a radix and an optional sign. -/
def integerOf? (radix : Nat) (s : List Char) : Option Int :=
  let (negative, digits) := Decimal.splitSign s
  if digits.isEmpty then none
  else
    let read (n : Option Nat) (c : Char) : Option Nat := do
      return radix * (← n) + (← digitOf? radix c)
    ((digits.foldl read (some 0)).map fun n => if negative then -(n : Int) else n).filter isWordSize

/-- A whole number with a mark in front of it. -/
def markedInteger? : List Char → Option Int
  | '0' :: 'x' :: digits => integerOf? 16 digits
  | '0' :: 'o' :: digits => integerOf? 8 digits
  | '+' :: digits => integerOf? 10 digits
  | _ => none

/-- The spellings of an infinite or undefined number. -/
def unboundedSpellings : List String :=
  [".inf", ".Inf", ".INF", "+.inf", "+.Inf", "+.INF", "-.inf", "-.Inf", "-.INF",
    ".nan", ".NaN", ".NAN"]

/-- The number that a spelling stands for; none for an infinite or undefined one. -/
def double? (spelling : String) : Option Double :=
  (Decimal.ofText? spelling.toList).map .ofDecimal

def isReal (s : String) : Bool :=
  unboundedSpellings.contains s || (double? s).isSome

namespace Scalar

def ofPlain (s : String) : Scalar :=
  match markedInteger? s.toList with
  | some n => .integer n
  | none =>
      if s ∈ ["", "~", "null"] then .null
      else if s ∈ ["true", "True", "TRUE"] then .boolean true
      else if s ∈ ["false", "False", "FALSE"] then .boolean false
      else match integerOf? 10 s.toList with
        | some n => .integer n
        | none => if isReal s then .real s else .string s

/-- A plain scalar with a tag of the common schema. -/
def ofTagged (suffix s : String) : Scalar :=
  match suffix with
  | "bool" =>
      if s = "true" then .boolean true else if s = "false" then .boolean false else .invalid
  | "int" =>
      match integerOf? 10 s.toList with
      | some n => .integer n
      | none => .invalid
  | "float" => if isReal s then .real s else .invalid
  | "null" => if s ∈ ["~", "null"] then .null else .invalid
  | _ => .string s

/-- The text of a scalar where a text is asked for. Nothing stands for none. -/
def text? : Scalar → Option String
  | null | invalid => none
  | boolean b => some (if b then "true" else "false")
  | integer n => some (toString n)
  | real spelling => (double? spelling).map Double.text
  | string s => some s

end Scalar

end RibTree.Yaml
