import RibTree.Role
import RibTree.Text.Blank
import RibTree.Text.Line
import RibTree.Text.Search
import RibTree.Text.WordChar

/-!
# Child builders in a parent's builder

A parent's builder declares a child by constructing the child's builder. A new declaration goes on
a line of its own directly above the anchor line, with the anchor's indentation and line end, so
that declarations stand in the order in which they were made.
-/

namespace RibTree

set_option autoImplicit false

namespace Declaration

/-- The expression that shows a child to be declared. -/
def construction (child : String) : String :=
  Role.builder.stem child ++ "(dependency: component)"

/-- The statement that declares a child. -/
def statement (child : String) : String :=
  "let " ++ lowerCamel child ++ "Builder = " ++ construction child

/-- An identifier can begin after this character; `none` is the start of the text. -/
def canPrecede : Option Char → Bool
  | none => true
  | some c => !Text.isWordChar c

/-- The source constructs the child's builder. The tail of a longer name does not count. -/
def isDeclared (child : String) (source : String) : Bool :=
  Text.occursAfter (construction child).toList canPrecede source.toList

/-- A line put above the first segment whose trimmed text is `anchor`. -/
def insertInto (anchor line : List Char) : List (List Char) → Option (List Char)
  | [] => none
  | segment :: rest =>
      if Text.trim segment = anchor then
        some (Text.indent segment ++ line ++ Text.lineEnd segment ++ segment ++ rest.flatten)
      else (insertInto anchor line rest).map (segment ++ ·)

/-- The source with `line` above the first line that reads like `anchor` apart from the blanks
around it. -/
def insertAbove (anchor line source : String) : Option String :=
  (insertInto (Text.trim anchor.toList) line.toList (Text.segments source.toList)).map
    String.ofList

/-- Why nothing is declared in a source without the anchor. -/
def missingAnchor (anchor : String) : String :=
  "anchor line '" ++ anchor ++ "' not found"

end Declaration

end RibTree
