import RibTree.Disk.Basic
import RibTree.Path.Basic

/-!
# Places on a disk

A path leads from a folder through folders. Unlike its parts, its pieces are followed one by one:
each needs a folder to stand in, a dot stays, two dots go up, and the top is above itself.
-/

namespace RibTree

set_option autoImplicit false

/-- Why a disk refuses a call. -/
inductive DiskFailure
  | absent
  | present
  | notFolder
  | isFolder
  | nameTooLong
  | notText
  | hasNul
  deriving DecidableEq, Repr

/-- The text and number by which a system reports the failure. -/
def DiskFailure.text : DiskFailure → String
  | absent => "No such file or directory (os error 2)"
  | present => "File exists (os error 17)"
  | notFolder => "Not a directory (os error 20)"
  | isFolder => "Is a directory (os error 21)"
  | nameTooLong => "File name too long (os error 36)"
  | notText => "stream did not contain valid UTF-8"
  | hasNul => "file name contained an unexpected NUL byte"

structure Disk where
  /-- What the top folder contains. -/
  top : Listing
  /-- The place of the folder from which relative paths start. -/
  here : List String
  deriving DecidableEq

/-- What one piece of a path does. -/
inductive Hop
  | stay
  | up
  | into (name : String)
  deriving DecidableEq, Repr

/-- Empty pieces do nothing. -/
def Hop.ofPiece? (piece : List Char) : Option Hop :=
  if piece = [] then none
  else if piece = ['.'] then some .stay
  else if piece = ['.', '.'] then some .up
  else some (.into (String.ofList piece))

def maxNameBytes : Nat := 255

def maxPathBytes : Nat := 4095

/-- The place from which a path starts, and its hops. -/
structure Route where
  start : List String
  hops : List Hop
  /-- A slash at the end asks for a folder. -/
  asksFolder : Bool
  deriving DecidableEq, Repr

/-- The place at which a path ends, before the last hop is made. -/
structure Spot where
  folder : List String
  /-- The last name of the path; without one the path stands for a folder that is there. -/
  name? : Option String
  asksFolder : Bool
  deriving DecidableEq, Repr

namespace Disk

def route (d : Disk) (path : Path) : Except DiskFailure Route :=
  let text := path.text.toList
  if '\x00' ∈ text then .error .hasNul
  else if text.isEmpty then .error .absent
  else if maxPathBytes < path.text.utf8ByteSize then .error .nameTooLong
  else
    .ok {
      start := if path.isAbsolute then [] else d.here
      hops := path.pieces.filterMap Hop.ofPiece?
      asksFolder := text.getLast? == some '/' }

def get? (d : Disk) (place : List String) : Option Entry :=
  d.top.get? place

def hasFolder (d : Disk) (place : List String) : Bool :=
  match d.get? place with
  | some (.folder _) => true
  | _ => false

/-- One hop from a place, which has to be a folder. -/
def hop (d : Disk) (place : List String) (hop : Hop) : Except DiskFailure (List String) :=
  if !d.hasFolder place then .error .notFolder
  else match hop with
    | .stay => .ok place
    | .up => .ok place.dropLast
    | .into name =>
        if maxNameBytes < name.utf8ByteSize then .error .nameTooLong
        else if (d.get? (place ++ [name])).isNone then .error .absent
        else .ok (place ++ [name])

def follow (d : Disk) (place : List String) (hops : List Hop) :
    Except DiskFailure (List String) :=
  hops.foldlM d.hop place

/-- What a path leads to. -/
def locate (d : Disk) (path : Path) : Except DiskFailure Entry := do
  let route ← d.route path
  let place ← d.follow route.start route.hops
  match d.get? place with
  | none => .error .absent
  | some (.folder inside) => .ok (.folder inside)
  | some (.file content) =>
      if route.asksFolder then .error .notFolder else .ok (.file content)

/-- Where a path would create something. The folder is there. -/
def spot (d : Disk) (path : Path) : Except DiskFailure Spot := do
  let route ← d.route path
  let folder ← d.follow route.start route.hops.dropLast
  if !d.hasFolder folder then .error .notFolder
  else match route.hops.getLast? with
    | some (.into name) => .ok ⟨folder, some name, route.asksFolder⟩
    | _ => .ok ⟨folder, none, route.asksFolder⟩

end Disk

end RibTree
