import RibTree.Text.Lowercase

/-!
# Roles and names

The source files that make up a component, and the names built from component names. A name is
any text; nothing here asks it to be an identifier.
-/

namespace RibTree

set_option autoImplicit false

inductive Role
  | builder
  | interactor
  | router
  | viewController
  deriving DecidableEq, Repr

namespace Role

def text : Role → String
  | builder => "Builder"
  | interactor => "Interactor"
  | router => "Router"
  | viewController => "ViewController"

/-- The roles of a component in the order in which their files are written. -/
def all (ownsView : Bool) : List Role :=
  if ownsView then [builder, interactor, router, viewController] else [builder, interactor, router]

/-- The name of the file for this role of a component, without its extension. -/
def stem (role : Role) (name : String) : String :=
  name ++ role.text

end Role

/-- The name of the file in which `parent` meets the needs of `child`, without its extension. -/
def extensionStem (parent child : String) : String :=
  parent ++ "Component+" ++ child

/-- The name with its first letter in lower case. -/
def lowerCamel (name : String) : String :=
  match name.toList with
  | [] => ""
  | c :: rest => String.ofList (Text.lowercase c ++ rest)

end RibTree
