import RibTree.Settings.Key
import RibTree.Settings.Partial
import RibTree.Text.Quoted
import RibTree.Yaml.Document

/-!
# Settings files

A settings file is one document that maps the names of the settings to scalars. Numbers and truth
values are taken as text, but an infinite or undefined number spoils the file wherever it stands,
and so does a key that is no text, number or truth value. Entries with other names are passed over,
and an empty file gives no setting at all.
-/

namespace RibTree

set_option autoImplicit false

inductive SettingsFailure
  | malformed
  | repeatedKey (repetition : Yaml.Repetition)
  | manyDocuments (count : Nat)
  | unreadableKey (key : Yaml)
  | unreadableNumber (spelling : String)
  | notMapping (found : Yaml)
  /-- A node of the wrong kind, which stands in the file itself or is put together from keys that
  point into it. -/
  | wrongKind (name : SettingName) (found : Yaml) (isWritten : Bool)
  | missing (name : SettingName)

namespace Yaml

/-- A scalar as messages show it. -/
def Scalar.description : Scalar → String
  | null | invalid => "unit value"
  | boolean b => "boolean " ++ "`" ++ (if b then "true" else "false") ++ "`"
  | integer n => "64-bit integer " ++ "`" ++ toString n ++ "`"
  | real spelling =>
      "floating point " ++ "`" ++ ((double? spelling).map Double.text).getD spelling ++ "`"
  | string s => "string " ++ Text.quoted s

/-- A node as messages show it. -/
def description : Yaml → String
  | scalar value => value.description
  | sequence _ => "sequence"
  | mapping _ => "map"

/-- The text of a key that is a text, a number or a truth value. -/
def keyText? : Yaml → Option String
  | scalar (.real spelling) => some spelling
  | scalar value => value.text?
  | _ => none

mutual

/-- The first failure of a node that does not depend on what it is for. -/
def failure? : Yaml → Option SettingsFailure
  | scalar (.real spelling) =>
      if (double? spelling).isSome then none else some (.unreadableNumber spelling)
  | scalar _ => none
  | sequence items => itemFailure? items
  | mapping entries => entryFailure? entries

def itemFailure? : List Yaml → Option SettingsFailure
  | [] => none
  | item :: rest => item.failure?.or (itemFailure? rest)

def entryFailure? : List (Yaml × Yaml) → Option SettingsFailure
  | [] => none
  | (key, value) :: rest =>
      if key.keyText?.isNone then some (.unreadableKey key)
      else value.failure?.or (entryFailure? rest)

end

end Yaml

namespace SettingsFailure

/-- The failure of a file that messages call `file`. -/
def message (file : String) : SettingsFailure → String
  | malformed => "malformed document in " ++ file
  | repeatedKey ⟨key, position⟩ =>
      key.kindText ++ s!": duplicated key in mapping at byte {position.index}" ++
        s!" line {position.line + 1} column {position.column + 1} in " ++ file
  | manyDocuments count => s!"Got {count} YAML documents, expected 1 in " ++ file
  | unreadableKey key =>
      "Cannot parse " ++ key.kindText ++ " because it is an unsupported hash key type in " ++ file
  | unreadableNumber spelling =>
      s!"Parsing {spelling} as floating point number failed in " ++ file
  | notMapping found =>
      "invalid type: " ++ found.description ++ ", expected a map in " ++ file ++ " in " ++ file
  | wrongKind name found isWritten =>
      "invalid type: " ++ found.description ++ ", expected a string for key " ++ "`" ++
        name.text ++ "`" ++ if isWritten then " in " ++ file else ""
  | missing name => "missing configuration field " ++ Text.quoted name.text

end SettingsFailure

/-- What is known of one setting: a node, and whether it stands in the file itself. -/
structure GivenNode where
  node : Yaml
  isWritten : Bool

namespace GivenNode

/-- Takes up what a key gives to a part of a setting. A mapping, and a sequence in place of
something else, are put together anew. -/
def update (given : Option GivenNode) (part : SettingPart) (node : Yaml) : GivenNode :=
  match part, node, given with
  | .whole, .mapping entries, _ => ⟨.mapping entries, false⟩
  | .whole, node, _ => ⟨node, true⟩
  | .member, _, _ => ⟨.mapping [], false⟩
  | .item, _, some ⟨.sequence items, isWritten⟩ => ⟨.sequence items, isWritten⟩
  | .item, _, _ => ⟨.sequence [], false⟩

/-- What the entries of a file give to a setting. -/
def find? (entries : List (Yaml × Yaml)) (name : SettingName) : Option GivenNode :=
  entries.foldl (fun given (key, node) =>
    match key.keyText?.map SettingPart.ofKey with
    | some (keyName, part) => if keyName = name.text then update given part node else given
    | none => given) none

end GivenNode

namespace PartialSettings

/-- Gives one setting a value from a file. Null stands for templates that are not given. -/
def readNode (p : PartialSettings) (name : SettingName) (given : GivenNode) :
    Except SettingsFailure PartialSettings :=
  match given.node with
  | .scalar value =>
      match value.text? with
      | some text => .ok (p.set name text)
      | none =>
          if name = .templateDirectory then .ok p
          else .error (.wrongKind name given.node given.isWritten)
  | _ => .error (.wrongKind name given.node given.isWritten)

end PartialSettings

namespace Settings

def ofEntries (entries : List (Yaml × Yaml)) : Except SettingsFailure Settings := do
  let given := SettingName.all.filterMap fun name =>
    (GivenNode.find? entries name).map fun given => (name, given)
  let p ← given.foldlM (fun (p : PartialSettings) (name, given) => p.readNode name given) {}
  match p.complete with
  | some settings => .ok settings
  | none => .error (.missing .targetDirectory)

/-- Reads settings from the text of a file. -/
def ofText (text : String) : Except SettingsFailure Settings :=
  match Yaml.documents text with
  | .error .malformed => .error .malformed
  | .error (.repeatedKey repetition) => .error (.repeatedKey repetition)
  | .ok [] => ofEntries []
  | .ok [found] =>
      match found.failure?, found with
      | some failure, _ => .error failure
      | none, .mapping entries => ofEntries entries
      | none, _ => .error (.notMapping found)
  | .ok found => .error (.manyDocuments found.length)

end Settings

end RibTree
