import RibTree.Text.Unprintable

/-!
# Quoted text

A text between double quotes, as messages show it: quotes, backslashes, tabs and line ends are
written with a backslash, and a character that does not show by its code point.
-/

namespace RibTree.Text

set_option autoImplicit false

def quotedChar (c : Char) : List Char :=
  if c = '\x00' then ['\\', '0']
  else if c = '\t' then ['\\', 't']
  else if c = '\r' then ['\\', 'r']
  else if c = '\n' then ['\\', 'n']
  else if c = '\\' ∨ c = '"' then ['\\', c]
  else if isUnprintable c then
    ['\\', 'u', '\x7b'] ++ Nat.toDigits 16 c.toNat ++ ['\x7d']
  else [c]

def quoted (s : String) : String :=
  String.ofList ('"' :: s.toList.flatMap quotedChar ++ ['"'])

end RibTree.Text
