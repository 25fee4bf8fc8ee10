/-!
# Decimal numbers

Decimal numbers of any size as they are written: read from digits with an optional point and an
optional exponent, and laid out without an exponent.
-/

namespace RibTree

set_option autoImplicit false

/-- The number `digits · 10 ^ exponent`. Zero keeps its sign. -/
structure Decimal where
  negative : Bool
  digits : Nat
  exponent : Int
  deriving DecidableEq, Repr

namespace Decimal

def digitValue (c : Char) : Nat := c.toNat - '0'.toNat

/-- The number that decimal digits write. -/
def natOfDigits (digits : List Char) : Nat :=
  digits.foldl (fun n c => 10 * n + digitValue c) 0

/-- A sign in front of a text, and the rest. Without a sign the number is positive. -/
def splitSign : List Char → Bool × List Char
  | '-' :: rest => (true, rest)
  | '+' :: rest => (false, rest)
  | s => (false, s)

/-- A whole number: an optional sign, and decimal digits. -/
def intOf? (s : List Char) : Option Int :=
  let (negative, digits) := splitSign s
  if digits.isEmpty || !digits.all Char.isDigit then none
  else if negative then some (-(natOfDigits digits : Int))
  else some (natOfDigits digits)

/-- The exponent at the end of a number, if there is one. -/
def exponentOf? : List Char → Option Int
  | [] => some 0
  | mark :: rest => if mark = 'e' ∨ mark = 'E' then intOf? rest else none

/-- A number with an optional sign, an optional point and an optional exponent. There is a digit
before or after the point. -/
def ofText? (s : List Char) : Option Decimal :=
  let (negative, unsigned) := splitSign s
  let whole := unsigned.takeWhile Char.isDigit
  let (fraction, rest) := match unsigned.dropWhile Char.isDigit with
    | '.' :: after => (after.takeWhile Char.isDigit, after.dropWhile Char.isDigit)
    | rest => ([], rest)
  if whole.isEmpty && fraction.isEmpty then none
  else (exponentOf? rest).map fun exponent =>
    ⟨negative, natOfDigits (whole ++ fraction), exponent - fraction.length⟩

/-- The digits of a number without an exponent. `trailer` follows a whole number. -/
def positional (digits : Nat) (exponent : Int) (trailer : String) : String :=
  let written := (toString digits).toList
  let point := written.length + exponent
  if 0 ≤ exponent then
    String.ofList (written ++ List.replicate exponent.toNat '0') ++ trailer
  else if 0 < point then
    String.ofList (written.take point.toNat ++ '.' :: written.drop point.toNat)
  else
    "0." ++ String.ofList (List.replicate (-point).toNat '0' ++ written)

end Decimal

end RibTree
