import RibTree.Decimal.Basic

/-!
# Numbers of double precision

The nearest number with a mantissa of 53 bits, and the fewest decimal digits that lead back to it.
All arithmetic is exact, on natural numbers.
-/

namespace RibTree

set_option autoImplicit false

/-- The number `mantissa · 2 ^ exponent`, or an infinity. -/
inductive Double
  | finite (negative : Bool) (mantissa : Nat) (exponent : Int)
  | infinite (negative : Bool)
  deriving DecidableEq, Repr

namespace Double

def mantissaBits : Nat := 53

/-- A mantissa is smaller than this; if it can be, it is at least half of it. -/
def mantissaLimit : Nat := 0x20000000000000

def minExponent : Int := -1074

def maxExponent : Int := 971

/-- The nearest whole number to a quotient; of two the even one. -/
def roundQuotient (num den : Nat) : Nat :=
  let q := num / den
  if 2 * (num % den) < den ∨ (2 * (num % den) = den ∧ q % 2 = 0) then q else q + 1

/-- A quotient divided by a power of `base`. -/
def scaleDown (base : Nat) (exponent : Int) (num den : Nat) : Nat × Nat :=
  if 0 ≤ exponent then (num, den * Nat.pow base exponent.toNat)
  else (num * Nat.pow base (-exponent).toNat, den)

/-- The mantissa and the exponent nearest to a quotient that is not zero. -/
def nearestQuotient (num den : Nat) : Nat × Int :=
  let magnitude : Int := (num.log2 : Int) - den.log2
  let low := max (magnitude - mantissaBits) minExponent
  let (a, b) := scaleDown 2 low num den
  let exponent := if a / b < mantissaLimit then low else low + 1
  let (a, b) := scaleDown 2 exponent num den
  let mantissa := roundQuotient a b
  if mantissa = mantissaLimit then (mantissaLimit / 2, exponent + 1)
  else (mantissa, exponent)

/-- The double nearest to a quotient. -/
def ofQuotient (negative : Bool) (num den : Nat) : Double :=
  if num = 0 then .finite negative 0 0
  else
    let (mantissa, exponent) := nearestQuotient num den
    if maxExponent < exponent then .infinite negative else .finite negative mantissa exponent

/-- The double nearest to a decimal number. -/
def ofDecimal (d : Decimal) : Double :=
  let magnitude : Int := (toString d.digits).length + d.exponent
  if d.digits = 0 ∨ magnitude < -330 then .finite d.negative 0 0
  else if 330 < magnitude then .infinite d.negative
  else
    let (num, den) := scaleDown 10 (-d.exponent) d.digits 1
    ofQuotient d.negative num den

/-- The largest power of ten that is a double. -/
def maxPower : Nat := 308

/-- A number that is not negative, times a power of ten. The power is rounded before the product
is. -/
def timesPower (x : Double) (power : Nat) : Double :=
  match x, ofQuotient false (Nat.pow 10 power) 1 with
  | finite negative m e, finite _ n f =>
      let (num, den) := scaleDown 2 (-(e + f)) (m * n) 1
      ofQuotient negative num den
  | finite negative _ _, infinite _ | infinite negative, _ => infinite negative

/-- A number divided by a power of ten. The power is rounded before the quotient is. -/
def overPower (x : Double) (power : Nat) : Double :=
  match x, ofQuotient false (Nat.pow 10 power) 1 with
  | finite negative m e, finite _ n f =>
      let (num, den) := scaleDown 2 (f - e) m n
      ofQuotient negative num den
  | finite negative _ _, infinite _ => finite negative 0 0
  | infinite negative, _ => infinite negative

/-- The decimal number of some digits, rounded first to a double and then once for every power of
ten that it takes to scale it. None is as large as an infinity. -/
def scaled? (d : Decimal) : Option Double :=
  let start := ofQuotient d.negative d.digits 1
  if d.digits = 0 then some start
  else if (maxPower : Int) < d.exponent then none
  else
    let scaled :=
      if 0 ≤ d.exponent then start.timesPower d.exponent.toNat
      else
        let power := (-d.exponent).toNat
        if power ≤ maxPower then start.overPower power
        -- Two of the largest powers already lead to zero.
        else (start.overPower maxPower).overPower (min maxPower (power - maxPower))
    match scaled with
    | infinite _ => none
    | x => some x

/-- The decimal numbers that are nearest to `mantissa · 2 ^ exponent` lie between these two
multiples of a quarter of `2 ^ exponent`, the ends among them if the mantissa is even. -/
def quarterBounds (mantissa : Nat) (exponent : Int) : Nat × Nat :=
  let low := if mantissa = mantissaLimit / 2 ∧ minExponent < exponent then 1 else 2
  (4 * mantissa - low, 4 * mantissa + 2)

/-- Which of two decimal numbers is taken if both are equally near. -/
inductive Tie
  | larger
  | even
  deriving DecidableEq, Repr

/-- The multiple of `10 ^ place` that leads back to a number and is nearest to it. -/
def decimalAt? (tie : Tie) (mantissa : Nat) (exponent : Int) (place : Int) : Option Nat :=
  let (low, high) := quarterBounds mantissa exponent
  -- A multiple `c` of `10 ^ place` is `c * unit / part` quarters of `2 ^ exponent`.
  let (part, unit) := scaleDown 10 place 1 1
  let (unit, part) := scaleDown 2 (exponent - 2) unit part
  let value := 4 * mantissa * part
  let leadsBack (c : Nat) : Bool :=
    if mantissa % 2 = 0 then low * part ≤ c * unit && c * unit ≤ high * part
    else low * part < c * unit && c * unit < high * part
  let below := value / unit
  let above := below + 1
  match leadsBack below, leadsBack above with
  | true, true =>
      let (down, up) := (value - below * unit, above * unit - value)
      let isBelow := down < up || (down == up && tie == .even && below % 2 == 0)
      some (if isBelow then below else above)
  | true, false => some below
  | false, true => some above
  | false, false => none

/-- The fewest digits that lead back to a number that is not zero, with their exponent. -/
def shortest (tie : Tie) (mantissa : Nat) (exponent : Int) : Nat × Int :=
  let top : Int := ((mantissa.log2 + exponent + 1) * 30103) / 100000 + 1
  let atPlace (i : Nat) : Option (Nat × Int) :=
    (decimalAt? tie mantissa exponent (top - i)).map fun digits => (digits, top - i)
  ((List.range 20).findSome? atPlace).getD (mantissa, 0)

def signText (negative : Bool) : String := if negative then "-" else ""

/-- The number without an exponent; a whole number without a point. Of two texts that are equally
near the larger one is taken. -/
def text : Double → String
  | infinite negative => signText negative ++ "inf"
  | finite negative 0 _ => signText negative ++ "0"
  | finite negative mantissa exponent =>
      let (digits, place) := shortest .larger mantissa exponent
      signText negative ++ Decimal.positional digits place ""

end Double

end RibTree
