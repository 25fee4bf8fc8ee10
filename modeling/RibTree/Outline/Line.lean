import RibTree.Text.Blank
import RibTree.Text.Search

/-!
# One line of an outline

A bullet is blanks, a dash and a space, and a component name. Blanks inside the name do not count,
and a star anywhere in it says that the component has no view. Every other line is prose and is
passed over.
-/

namespace RibTree

set_option autoImplicit false

/-- A component of an outline, with the number of characters that its bullet is indented by. -/
structure Node where
  width : Nat
  name : String
  ownsView : Bool
  deriving DecidableEq, Repr

inductive OutlineFailure
  | tabIndent (line : Nat)
  | duplicate (line : Nat) (name : String)
  deriving DecidableEq, Repr

namespace OutlineFailure

def message : OutlineFailure → String
  | tabIndent line => s!"Outline line {line}: tab characters are not allowed in indentation"
  | duplicate line name =>
      s!"Outline line {line}: component '" ++ name ++ "' is declared more than once"

def suggestions : OutlineFailure → List String
  | tabIndent line =>
      [s!"Replace the tabs on line {line} with spaces",
        "Nesting is detected by comparing raw space counts"]
  | duplicate _ name =>
      ["Remove the second '" ++ name ++ "' entry from the outline",
        "Each component may appear only once per outline"]

end OutlineFailure

def bulletMark : List Char := ['-', ' ']

def noViewMark : Char := '*'

namespace Node

/-- The component that a line declares, if it is a bullet with a name. A tab in the indentation
of a bullet is refused even when the bullet has no name. -/
def ofLine? (number : Nat) (line : List Char) : Except OutlineFailure (Option Node) :=
  match Text.splitFirst bulletMark line with
  | none => .ok none
  | some (indent, rest) =>
      if !indent.all Text.isBlank then .ok none
      else if '\t' ∈ indent then .error (.tabIndent number)
      else
        let written := Text.dropBlanks rest
        let name := written.filter (· != noViewMark)
        if name.isEmpty then .ok none
        else .ok (some ⟨indent.length, String.ofList name, !written.contains noViewMark⟩)

end Node

end RibTree
