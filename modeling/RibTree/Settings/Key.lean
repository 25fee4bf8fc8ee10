import RibTree.Yaml.Cursor
import RibTree.Yaml.Scalar

/-!
# Keys of settings files

A key can point into a setting: `name.member` stands for a member of it and `name[0]` for an item,
and both can be continued. A key of no such form is the name of a setting as it stands.
-/

namespace RibTree

set_option autoImplicit false

/-- What a key stands for. -/
inductive SettingPart
  | whole
  | member
  | item
  deriving DecidableEq, Repr

namespace SettingPart

def isNameChar (c : Char) : Bool :=
  c.isAlphanum || c == '_' || c == '-'

/-- What follows the number of an item and its bracket. -/
def afterItem? (s : List Char) : Option (List Char) := do
  let number := s.dropWhile Yaml.isSpace
  let sign := if number.head? = some '-' then ['-'] else []
  let digits := (number.drop sign.length).takeWhile Char.isDigit
  let _ ← Yaml.integerOf? 10 (sign ++ digits)
  match (number.drop (sign.length + digits.length)).dropWhile Yaml.isSpace with
  | ']' :: rest => some rest
  | _ => none

/-- Splits a step at the beginning of a text from the rest. -/
def step? : List Char → Option (SettingPart × List Char)
  | '.' :: rest =>
      let name := rest.takeWhile isNameChar
      if name.isEmpty then none else some (.member, rest.drop name.length)
  | '[' :: rest => (afterItem? rest).map fun rest => (.item, rest)
  | _ => none

/-- A text consists of steps. Every step takes from the fuel. -/
def isSteps : Nat → List Char → Bool
  | _, [] => true
  | 0, _ => false
  | fuel + 1, s =>
      match step? s with
      | some (_, rest) => isSteps fuel rest
      | none => false

/-- The name of the setting that a key points into, and what of it the key stands for. -/
def ofKey (key : String) : String × SettingPart :=
  let name := key.toList.takeWhile isNameChar
  let steps := key.toList.drop name.length
  match step? steps with
  | some (part, rest) =>
      if !name.isEmpty && isSteps rest.length rest then (String.ofList name, part)
      else (key, .whole)
  | none => (key, .whole)

end SettingPart

end RibTree
