import RibTree.Value.Basic

/-!
# Values from JSON text

A number without a point and an exponent is an integer if it fits into a word, with its sign or
without. Any other number is a real, found by scaling its digits, as far as a word holds them. The
members of a mapping stay in the order in which they stand.
-/

namespace RibTree.Value

set_option autoImplicit false

/-! ## Numbers -/

/-- The least number that is too large for a word. It stays folded where terms are compared. -/
@[irreducible] def wordLimit : Nat := 0x10000000000000000

/-- A number with one more digit, if a word holds it. -/
def pushDigit? (n : Nat) (c : Char) : Option Nat :=
  let pushed := 10 * n + Decimal.digitValue c
  if pushed < wordLimit then some pushed else none

/-- The digits of a whole number as far as a word holds them, and how many more there are. -/
def wholeDigits (n : Nat) : List Char → Nat × Nat
  | [] => (n, 0)
  | c :: rest =>
      match pushDigit? n c with
      | some pushed => wholeDigits pushed rest
      | none => (n, rest.length + 1)

/-- A number with the digits of a fraction as far as a word holds them, and how many these are. -/
def fractionDigits (n : Nat) : List Char → Nat × Nat
  | [] => (n, 0)
  | c :: rest =>
      match pushDigit? n c with
      | some pushed =>
          let (all, count) := fractionDigits pushed rest
          (all, count + 1)
      | none => (n, 0)

/-- The number that a sign, whole digits, the digits of a fraction and an exponent make up. -/
def ofNumber (negative : Bool) (whole : List Char) (fraction : Option (List Char))
    (exponent : Option Int) : Option Value :=
  let (digits, more) := wholeDigits 0 whole
  let (digits, places) := fractionDigits digits (fraction.getD [])
  let isWhole := fraction.isNone && exponent.isNone && more == 0
  if isWhole && !negative then some (integer digits)
  else if isWhole && digits ≠ 0 && digits ≤ wordLimit / 2 then some (integer (-digits))
  else (Double.scaled? ⟨negative, digits, more - places + exponent.getD 0⟩).map real

/-- An exponent at the start of a text, if there is one, and what follows it. -/
def exponent? : List Char → Option (Option Int × List Char)
  | mark :: rest =>
      if mark = 'e' ∨ mark = 'E' then
        let (negative, unsigned) := Decimal.splitSign rest
        let digits := unsigned.takeWhile Char.isDigit
        let size : Int := Decimal.natOfDigits digits
        if digits.isEmpty then none
        else some (some (if negative then -size else size), unsigned.dropWhile Char.isDigit)
      else some (none, mark :: rest)
  | [] => some (none, [])

/-- A number behind its sign, and what follows it. -/
def unsigned? (negative : Bool) (s : List Char) : Option (Value × List Char) := do
  let whole := s.takeWhile Char.isDigit
  if whole.isEmpty || (whole.head? == some '0' && whole.length != 1) then none
  else
    let (fraction, rest) ← match s.dropWhile Char.isDigit with
      | '.' :: rest =>
          let digits := rest.takeWhile Char.isDigit
          if digits.isEmpty then none else some (some digits, rest.dropWhile Char.isDigit)
      | rest => some (none, rest)
    let (exponent, rest) ← exponent? rest
    return (← ofNumber negative whole fraction exponent, rest)

/-- A number at the start of a text, and what follows it. -/
def number? : List Char → Option (Value × List Char)
  | '-' :: rest => unsigned? true rest
  | s => unsigned? false s

/-! ## Strings -/

/-- Where a reader stands in a string. A character beyond the first plane is written as two codes,
the first of which is `high`; otherwise `high` is zero. -/
inductive StringState
  | text
  | escape
  | code (missing value : Nat)
  deriving DecidableEq, Repr

def hexDigitOf? (c : Char) : Option Nat :=
  if c.isDigit then some (Decimal.digitValue c)
  else if 'a' ≤ c ∧ c ≤ 'f' then some (c.toNat - 'a'.toNat + 10)
  else if 'A' ≤ c ∧ c ≤ 'F' then some (c.toNat - 'A'.toNat + 10)
  else none

def unescaped? : Char → Option Char
  | 'b' => some '\x08'
  | 'f' => some '\x0c'
  | 'n' => some '\n'
  | 'r' => some '\r'
  | 't' => some '\t'
  | c => if c ∈ ['"', '\\', '/'] then some c else none

def isHigh (code : Nat) : Bool := 0xd800 ≤ code && code < 0xdc00

def isLow (code : Nat) : Bool := 0xdc00 ≤ code && code < 0xe000

/-- The rest of a string up to its closing quote, and what follows it. -/
def stringRest (state : StringState) (high : Nat) : List Char → Option (List Char × List Char)
  | [] => none
  | c :: rest =>
      match state with
      | .text =>
          if c = '\\' then stringRest .escape high rest
          else if high ≠ 0 ∨ c.toNat < 0x20 then none
          else if c = '"' then some ([], rest)
          else (stringRest .text 0 rest).map fun (s, after) => (c :: s, after)
      | .escape =>
          if c = 'u' then stringRest (.code 4 0) high rest
          else if high ≠ 0 then none
          else do
            let first ← unescaped? c
            let (s, after) ← stringRest .text 0 rest
            return (first :: s, after)
      | .code missing value => do
          let value := 16 * value + (← hexDigitOf? c)
          if 1 < missing then stringRest (.code (missing - 1) value) high rest
          else if high ≠ 0 then
            if isLow value then
              let (s, after) ← stringRest .text 0 rest
              let first := Char.ofNat (0x10000 + (high - 0xd800) * 0x400 + (value - 0xdc00))
              return (first :: s, after)
            else none
          else if isHigh value then stringRest .text value rest
          else if isLow value then none
          else
            let (s, after) ← stringRest .text 0 rest
            return (Char.ofNat value :: s, after)

def string? : List Char → Option (String × List Char)
  | '"' :: rest => (stringRest .text 0 rest).map fun (s, after) => (String.ofList s, after)
  | _ => none

/-! ## Values -/

def skipBlanks (s : List Char) : List Char :=
  s.dropWhile fun c => [' ', '\t', '\n', '\r'].contains c

/-- A word at the start of a text, and what follows it. -/
def word? (word : String) (value : Value) (s : List Char) : Option (Value × List Char) :=
  if word.toList.isPrefixOf s then some (value, s.drop word.length) else none

mutual

/-- A value at the start of a text, and what follows it. Every call takes from the fuel. -/
def value? : Nat → List Char → Option (Value × List Char)
  | 0, _ => none
  | fuel + 1, s =>
      match skipBlanks s with
      | '[' :: rest =>
          match skipBlanks rest with
          | ']' :: after => some (sequence [], after)
          | rest => (items? fuel rest).map fun (items, after) => (sequence items, after)
      | '\x7b' :: rest =>
          match skipBlanks rest with
          | '\x7d' :: after => some (mapping [], after)
          | rest => (members? fuel rest).map fun (members, after) => (mapping members, after)
      | '"' :: rest => (string? ('"' :: rest)).map fun (s, after) => (string s, after)
      | 'n' :: rest => word? "null" null ('n' :: rest)
      | 't' :: rest => word? "true" (boolean true) ('t' :: rest)
      | 'f' :: rest => word? "false" (boolean false) ('f' :: rest)
      | rest => number? rest

def items? : Nat → List Char → Option (List Value × List Char)
  | 0, _ => none
  | fuel + 1, s => do
      let (item, rest) ← value? fuel s
      match skipBlanks rest with
      | ',' :: rest =>
          let (items, after) ← items? fuel rest
          return (item :: items, after)
      | ']' :: after => return ([item], after)
      | _ => none

def members? : Nat → List Char → Option (List (String × Value) × List Char)
  | 0, _ => none
  | fuel + 1, s => do
      let (key, rest) ← string? (skipBlanks s)
      match skipBlanks rest with
      | ':' :: rest =>
          let (value, rest) ← value? fuel rest
          match skipBlanks rest with
          | ',' :: rest =>
              let (members, after) ← members? fuel rest
              return ((key, value) :: members, after)
          | '\x7d' :: after => return ([(key, value)], after)
          | _ => none
      | _ => none

end

/-- The value that a text writes. A reader takes a character at least in every second call. -/
def ofText? (text : String) : Option Value := do
  let s := text.toList
  let (value, after) ← value? (2 * s.length + 2) s
  if (skipBlanks after).isEmpty then return value else none

/-- The member of a mapping with a name; of two the later one. -/
def member? (name : String) : Value → Option Value
  | mapping members => members.reverse.lookup name
  | _ => none

end RibTree.Value
