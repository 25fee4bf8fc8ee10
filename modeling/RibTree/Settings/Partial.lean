import RibTree.Settings

/-!
# Settings by name

The names of the settings, and settings of which some are not given yet. Only the target directory
has to be given.
-/

namespace RibTree

set_option autoImplicit false

/-- One setting. -/
inductive SettingName
  | targetDirectory
  | templateDirectory
  | fileExtension
  | dependencyAnchor
  deriving DecidableEq, Repr

namespace SettingName

def text : SettingName → String
  | targetDirectory => "targetDirectory"
  | templateDirectory => "templateDirectory"
  | fileExtension => "fileExtension"
  | dependencyAnchor => "dependencyAnchor"

/-- The settings in the order of a sequence. -/
def all : List SettingName :=
  [targetDirectory, templateDirectory, fileExtension, dependencyAnchor]

/-- The settings in ascending order of their names. -/
def ascending : List SettingName :=
  [dependencyAnchor, fileExtension, targetDirectory, templateDirectory]

end SettingName

/-- Settings of which some are not given. -/
structure PartialSettings where
  targetDirectory : Option Path := none
  templateDirectory : Option Path := none
  fileExtension : Option String := none
  dependencyAnchor : Option String := none
  deriving DecidableEq, Repr

namespace PartialSettings

/-- The settings with defaults for those that are not given. There is no default for the target
directory. -/
def complete (p : PartialSettings) : Option Settings :=
  p.targetDirectory.map fun targetDirectory =>
    let defaults : Settings := { targetDirectory }
    { targetDirectory
      templateDirectory := p.templateDirectory
      fileExtension := p.fileExtension.getD defaults.fileExtension
      dependencyAnchor := p.dependencyAnchor.getD defaults.dependencyAnchor }

/-- Gives one setting its text. -/
def set (p : PartialSettings) (name : SettingName) (text : String) : PartialSettings :=
  match name with
  | .targetDirectory => { p with targetDirectory := some ⟨text⟩ }
  | .templateDirectory => { p with templateDirectory := some ⟨text⟩ }
  | .fileExtension => { p with fileExtension := some text }
  | .dependencyAnchor => { p with dependencyAnchor := some text }

end PartialSettings

end RibTree
