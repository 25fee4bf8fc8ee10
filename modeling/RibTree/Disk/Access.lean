import RibTree.Disk.Place

/-!
# Reading and writing on a disk

The calls that a run makes on a disk. Creating a folder with the folders above it may fail half
way; the folders created until then stay.
-/

namespace RibTree

set_option autoImplicit false

namespace Disk

def isPresent (d : Disk) (path : Path) : Bool :=
  (d.locate path).isOk

def isFolder (d : Disk) (path : Path) : Bool :=
  match d.locate path with
  | .ok (.folder _) => true
  | _ => false

def bytes (d : Disk) (path : Path) : Except DiskFailure ByteArray :=
  match d.locate path with
  | .ok (.file content) => .ok content
  | .ok (.folder _) => .error .isFolder
  | .error e => .error e

def read (d : Disk) (path : Path) : Except DiskFailure String :=
  match d.bytes path with
  | .ok content =>
      match String.fromUTF8? content with
      | some text => .ok text
      | none => .error .notText
  | .error e => .error e

def put (d : Disk) (place : List String) (entry : Entry) : Disk :=
  { d with top := d.top.put entry place }

def writeBytes (d : Disk) (path : Path) (content : ByteArray) : Except DiskFailure Disk := do
  match ← d.spot path with
  | ⟨_, none, _⟩ => .error .isFolder
  | ⟨folder, some name, asksFolder⟩ =>
      if asksFolder then .error .isFolder
      else if maxNameBytes < name.utf8ByteSize then .error .nameTooLong
      else if d.hasFolder (folder ++ [name]) then .error .isFolder
      else .ok (d.put (folder ++ [name]) (.file content))

def write (d : Disk) (path : Path) (content : String) : Except DiskFailure Disk :=
  d.writeBytes path content.toUTF8

/-- Creates one folder in a folder that is there. -/
def createFolder (d : Disk) (path : Path) : Except DiskFailure Disk := do
  match ← d.spot path with
  | ⟨_, none, _⟩ => .error .present
  | ⟨folder, some name, _⟩ =>
      if maxNameBytes < name.utf8ByteSize then .error .nameTooLong
      else if (d.get? (folder ++ [name])).isSome then .error .present
      else .ok (d.put (folder ++ [name]) (.folder .empty))

/-- Creates one folder, unless it is there. -/
def ensureFolder (d : Disk) (path : Path) : Except DiskFailure Unit × Disk :=
  match d.createFolder path with
  | .ok created => (.ok (), created)
  | .error e => (if d.isFolder path then .ok () else .error e, d)

/-- Creates the first of the paths, after the next ones where it cannot stand yet. -/
def ensureFolders (d : Disk) : List Path → Except DiskFailure Unit × Disk
  | [] => (.ok (), d)
  | path :: above =>
      if path.text.isEmpty then (.ok (), d)
      else match d.createFolder path with
        | .error .absent =>
            match d.ensureFolders above with
            | (.ok (), ready) => ready.ensureFolder path
            | failed => failed
        | _ => d.ensureFolder path

/-- Creates a folder with all folders above it. -/
def createFolders (d : Disk) (path : Path) : Except DiskFailure Unit × Disk :=
  d.ensureFolders (path :: path.upward.tail)

/-- The files under `root` that have the given extension, depth first in the order of names.
There are none under a root that is absent or a file. -/
def sources (d : Disk) (root : Path) (extension : String) : List Path :=
  match d.locate root with
  | .ok (.folder inside) =>
      (inside.files.map fun place => place.foldl (fun path name => path.join ⟨name⟩) root).filter
        fun path => path.extension? == some extension
  | _ => []

end Disk

end RibTree
