import RibTree.Path.Basic
import RibTree.Role
import RibTree.Text.Search

/-!
# Templates

A template is a text with two marks in it, one for the name of the component that the file belongs
to and one for the name of a child. Templates are found by a set and a file name.
-/

namespace RibTree

set_option autoImplicit false

def productMark : List Char := "___VARIABLE_productName___".toList

def childMark : List Char := "___VARIABLE_childName___".toList

/-- The names put in place of the marks. -/
structure Placeholders where
  product : String
  child : Option String := none
  deriving DecidableEq, Repr

namespace Placeholders

/-- First the product marks are replaced, then, if there is a child, the child marks. -/
def render (p : Placeholders) (template : String) : String :=
  let named := Text.replaceAll productMark p.product.toList template.toList
  match p.child with
  | none => String.ofList named
  | some child => String.ofList (Text.replaceAll childMark child.toList named)

end Placeholders

structure TemplateKey where
  set : String
  file : String
  deriving DecidableEq, Repr

namespace TemplateKey

/-- The template for one role of a component. Components with and without a view have sets of
their own. -/
def component (role : Role) (ownsView : Bool) (extension : String) : TemplateKey :=
  ⟨if ownsView then "OwnsView" else "Default", role.text ++ "." ++ extension⟩

/-- The template for a parent's extension. -/
def extension (fileExtension : String) : TemplateKey :=
  ⟨"ComponentExtension", "ComponentExtension." ++ fileExtension⟩

def text (key : TemplateKey) : String :=
  key.set ++ "/" ++ key.file

/-- Where the template stands under a template folder. -/
def path (key : TemplateKey) : Path :=
  Path.join ⟨key.set⟩ ⟨key.file⟩

end TemplateKey

/-- Templates held in memory, each key once. -/
structure TemplateSet where
  entries : List (TemplateKey × String)
  deriving DecidableEq, Repr

namespace TemplateSet

def empty : TemplateSet := ⟨[]⟩

def get? (t : TemplateSet) (key : TemplateKey) : Option String :=
  t.entries.lookup key

/-- Puts a template under a key, in the place of the one that is there. -/
def insertEntry (key : TemplateKey) (text : String) :
    List (TemplateKey × String) → List (TemplateKey × String)
  | [] => [(key, text)]
  | entry :: rest =>
      if entry.1 = key then (key, text) :: rest else entry :: insertEntry key text rest

def insert (t : TemplateSet) (key : TemplateKey) (text : String) : TemplateSet :=
  ⟨insertEntry key text t.entries⟩

def ofList (entries : List (TemplateKey × String)) : TemplateSet :=
  entries.foldl (fun t entry => t.insert entry.1 entry.2) empty

def size (t : TemplateSet) : Nat := t.entries.length

theorem lookup_insertEntry (key : TemplateKey) (text : String)
    (entries : List (TemplateKey × String)) (k : TemplateKey) :
    (insertEntry key text entries).lookup k =
      if k = key then some text else entries.lookup k := by
  induction entries with
  | nil => grind [insertEntry]
  | cons entry rest ih =>
      obtain ⟨own, v⟩ := entry
      by_cases hOwn : own = key <;> by_cases hKey : k = key <;>
        grind [insertEntry]

@[simp] theorem get?_insert (t : TemplateSet) (key : TemplateKey) (text : String)
    (k : TemplateKey) : (t.insert key text).get? k = if k = key then some text else t.get? k :=
  lookup_insertEntry key text t.entries k

end TemplateSet

end RibTree
