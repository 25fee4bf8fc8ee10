import RibTree.Settings.Partial
import RibTree.Text.Quoted
import RibTree.Value.Basic

/-!
# Settings from structured values

Settings are read from a mapping with the names of the settings, whose members are looked at in
ascending order of their names, or from a sequence of the settings in their fixed order. Members
with other names are passed over. The first wrong member decides the failure.
-/

namespace RibTree

set_option autoImplicit false

/-- What stands where a value of another kind is expected. -/
inductive Expected
  | path
  | string
  | settings
  deriving DecidableEq, Repr

def Expected.text : Expected → String
  | path => "path string"
  | string => "a string"
  | settings => "struct Settings"

inductive DecodeFailure
  | missingField (name : String)
  | wrongKind (found : Value) (expected : Expected)
  | noFields
  | tooManyFields (count : Nat)

/-- A value of the wrong kind, as messages show it. -/
def Value.description : Value → String
  | null => "null"
  | boolean b => "boolean " ++ "`" ++ boolText b ++ "`"
  | integer n => "integer " ++ "`" ++ toString n ++ "`"
  | real x => "floating point " ++ "`" ++ realText x ++ "`"
  | string s => "string " ++ Text.quoted s
  | sequence _ => "sequence"
  | mapping _ => "map"

namespace DecodeFailure

def message : DecodeFailure → String
  | missingField name => "missing field " ++ "`" ++ name ++ "`"
  | wrongKind found expected =>
      "invalid type: " ++ found.description ++ ", expected " ++ expected.text
  | noFields => "invalid length 0, expected struct Settings with 4 elements"
  | tooManyFields count => s!"invalid length {count}, expected fewer elements in array"

end DecodeFailure

namespace PartialSettings

/-- Reads a text where one is expected. -/
def textOf (expected : Expected) : Value → Except DecodeFailure String
  | .string s => .ok s
  | found => .error (.wrongKind found expected)

/-- Gives one setting a value. -/
def read (p : PartialSettings) (name : SettingName) (value : Value) :
    Except DecodeFailure PartialSettings :=
  match name, value with
  | .templateDirectory, .null => .ok p
  | .targetDirectory, value | .templateDirectory, value => (textOf .path value).map (p.set name)
  | .fileExtension, value | .dependencyAnchor, value => (textOf .string value).map (p.set name)

def readAll (given : List (SettingName × Value)) : Except DecodeFailure PartialSettings :=
  given.foldlM (fun p (name, value) => p.read name value) {}

end PartialSettings

namespace Settings

/-- Reads settings from a value. Of two members with one name the later counts. -/
def ofValue : Value → Except DecodeFailure Settings
  | .mapping members => do
      let given := SettingName.ascending.filterMap fun name =>
        (members.reverse.lookup name.text).map fun value => (name, value)
      finish (← PartialSettings.readAll given)
  | .sequence [] => .error .noFields
  | .sequence items => do
      let p ← PartialSettings.readAll (SettingName.all.zip items)
      if SettingName.all.length < items.length then .error (.tooManyFields items.length)
      else finish p
  | found => .error (.wrongKind found .settings)
where
  finish (p : PartialSettings) : Except DecodeFailure Settings :=
    match p.complete with
    | some settings => .ok settings
    | none => .error (.missingField SettingName.targetDirectory.text)

end Settings

end RibTree
