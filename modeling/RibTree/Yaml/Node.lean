import RibTree.Text.Quoted
import RibTree.Yaml.Scalar

/-!
# Nodes of a settings document
-/

namespace RibTree

set_option autoImplicit false

/-- A node. A mapping keeps its entries in the order in which they are given. -/
inductive Yaml
  | scalar (value : Yaml.Scalar)
  | sequence (items : List Yaml)
  | mapping (entries : List (Yaml × Yaml))

namespace Yaml

def null : Yaml := scalar .null

/-- Stands for a node that cannot be read. -/
def invalid : Yaml := scalar .invalid

/-- A scalar with its kind. -/
def Scalar.kindText : Scalar → String
  | null => "Null"
  | boolean b => "Boolean(" ++ (if b then "true" else "false") ++ ")"
  | integer n => "Integer(" ++ toString n ++ ")"
  | real spelling => "Real(" ++ Text.quoted spelling ++ ")"
  | string s => "String(" ++ Text.quoted s ++ ")"
  | invalid => "BadValue"

mutual

/-- A node with the kinds of all its parts. -/
def kindText : Yaml → String
  | scalar value => value.kindText
  | sequence items => "Array([" ++ itemsText "" items ++ "])"
  | mapping entries => "Hash(\x7b" ++ entriesText "" entries ++ "\x7d)"

def itemsText (separator : String) : List Yaml → String
  | [] => ""
  | item :: rest => separator ++ item.kindText ++ itemsText ", " rest

def entriesText (separator : String) : List (Yaml × Yaml) → String
  | [] => ""
  | (key, value) :: rest =>
      separator ++ key.kindText ++ ": " ++ value.kindText ++ entriesText ", " rest

end

end Yaml

end RibTree
