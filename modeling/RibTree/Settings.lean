import RibTree.Path.Basic

/-!
# Settings

Where a project keeps its sources and how its files are named and edited.
-/

namespace RibTree

set_option autoImplicit false

structure Settings where
  /-- The folder under which all sources are written. -/
  targetDirectory : Path
  /-- The folder with the project's own templates; the standard ones are used without it. -/
  templateDirectory : Option Path := none
  fileExtension : String := "swift"
  /-- The line above which child builders are declared. -/
  dependencyAnchor : String := "// ribgen:child-builders"
  deriving DecidableEq, Repr

namespace Settings

def fileName (s : Settings) (stem : String) : String :=
  stem ++ "." ++ s.fileExtension

end Settings

end RibTree
