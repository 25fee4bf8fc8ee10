import RibTree.Path.Basic

/-!
# Stores

Files and folders held in memory. Paths are compared by their parts, and a file keeps the spelling
of the path under which it was first written. Files and folders are listed in ascending order of
their parts. Writing asks for an existing folder; nothing under a locked path can be written.
-/

namespace RibTree

set_option autoImplicit false

/-- `a` put into an ascending list. An element that compares equal is replaced by what `onEqual`
makes of it and `a`. -/
def insertAscending {α : Type} (cmp : α → α → Ordering) (onEqual : α → α → α) (a : α) :
    List α → List α
  | [] => [a]
  | b :: rest =>
      match cmp a b with
      | .lt => a :: b :: rest
      | .eq => onEqual b a :: rest
      | .gt => b :: insertAscending cmp onEqual a rest

/-- The beginnings of a list, the shortest first, without the empty one. -/
def beginnings {α : Type} : List α → List (List α)
  | [] => []
  | a :: rest => [a] :: (beginnings rest).map (a :: ·)

structure StoredFile where
  path : Path
  content : String
  deriving DecidableEq, Repr

def StoredFile.compareParts (f g : StoredFile) : Ordering :=
  compare f.path.parts g.path.parts

structure Store where
  files : List StoredFile := []
  folders : List (List Path.Part) := []
  /-- Nothing can be created or written at or under these paths. -/
  locked : List Path := []
  /-- The number of files written so far. -/
  writes : Nat := 0
  deriving DecidableEq, Repr

namespace Store

def empty : Store := {}

def isLocked (s : Store) (path : Path) : Bool :=
  s.locked.any fun lock => lock.Contains path

def hasFolder (s : Store) (parts : List Path.Part) : Bool :=
  s.folders.contains parts

def find? (s : Store) (path : Path) : Option StoredFile :=
  s.files.find? fun file => file.path.Same path

def content? (s : Store) (path : Path) : Option String :=
  (s.find? path).map StoredFile.content

def hasFile (s : Store) (path : Path) : Bool :=
  (s.find? path).isSome

def insertFolder (folders : List (List Path.Part)) (parts : List Path.Part) :
    List (List Path.Part) :=
  insertAscending compare (fun old _ => old) parts folders

def insertFile (files : List StoredFile) (file : StoredFile) : List StoredFile :=
  insertAscending StoredFile.compareParts (fun old new => ⟨old.path, new.content⟩) file files

/-- Adds a folder with all folders above it. -/
def addFolders (s : Store) (parts : List Path.Part) : Store :=
  { s with folders := (beginnings parts).foldl insertFolder s.folders }

/-- Puts a file without asking for anything. -/
def put (s : Store) (path : Path) (content : String) : Store :=
  { s with files := insertFile s.files ⟨path, content⟩ }

/-- A store with one more file and the folders above it. This is not counted as a write. -/
def withFile (s : Store) (path : Path) (content : String) : Store :=
  ((Path.Part.parent? path.parts).elim s s.addFolders).put path content

def withLocked (s : Store) (path : Path) : Store :=
  { s with locked := path :: s.locked }

/-- A file can stand here: its parent is absent, empty or a folder. -/
def hasParent (s : Store) (path : Path) : Bool :=
  match Path.Part.parent? path.parts with
  | none | some [] => true
  | some parent => s.hasFolder parent

def createFolders (s : Store) (path : Path) : Except String Store :=
  if s.isLocked path then .error "Permission denied" else .ok (s.addFolders path.parts)

def write (s : Store) (path : Path) (content : String) : Except String Store :=
  if s.isLocked path then .error "Permission denied"
  else if !s.hasParent path then .error "Parent directory does not exist"
  else
    let written := s.put path content
    .ok { written with writes := written.writes + 1 }

def read (s : Store) (path : Path) : Except String String :=
  match s.content? path with
  | some content => .ok content
  | none => .error "No such file"

def isFolder (s : Store) (path : Path) : Bool :=
  s.hasFolder path.parts

def isPresent (s : Store) (path : Path) : Bool :=
  s.hasFile path || s.isFolder path

/-- The files under `root` that have the given extension, in ascending order. -/
def sources (s : Store) (root : Path) (extension : String) : List Path :=
  (s.files.map StoredFile.path).filter fun path =>
    root.Contains path && path.extension? == some extension

end Store

end RibTree
