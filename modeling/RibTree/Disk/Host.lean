import RibTree.Disk.Access
import RibTree.Host

/-!
# A disk as a host

Files, folders and sources are those of the disk. Templates come from a set held in memory or from
a folder of the disk, where a key names a file in a folder.
-/

namespace RibTree

set_option autoImplicit false

inductive TemplateSource
  | set (templates : TemplateSet)
  | folder (root : Path)
  deriving DecidableEq, Repr

namespace Disk

/-- Reads a template from below a folder. -/
def templateUnder (d : Disk) (root : Path) (key : TemplateKey) :
    Except TemplateFailure String :=
  let path := root.join key.path
  match d.read path with
  | .ok text => .ok text
  | .error .absent => .error (.missing key)
  | .error e => .error (.unreadable ⟨path, "Failed to read template: " ++ e.text⟩)

def template (d : Disk) (source : TemplateSource) (key : TemplateKey) :
    Except TemplateFailure String :=
  match source with
  | .set templates => templates.read key
  | .folder root => d.templateUnder root key

/-- The failure of an operation at a path. -/
def storageFailure (path : Path) (operation : String) (e : DiskFailure) : StorageFailure :=
  ⟨path, "Failed to " ++ operation ++ ": " ++ e.text⟩

def host (templates : TemplateSource) : Host (StateM Disk) where
  createFolders path := fun d =>
    match d.createFolders path with
    | (result, changed) => (result.mapError (storageFailure path "create directory"), changed)
  write path content := fun d =>
    match d.write path content with
    | .ok changed => (.ok (), changed)
    | .error e => (.error (storageFailure path "write file" e), d)
  read path := do return ((← get).read path).mapError (storageFailure path "read file")
  isPresent path := do return (← get).isPresent path
  isFolder path := do return (← get).isFolder path
  sources root extension := do return .ok ((← get).sources root extension)
  template key := do return (← get).template templates key

end Disk

end RibTree
