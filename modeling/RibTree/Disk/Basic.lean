/-!
# Folders

The files and folders of a disk, as a tree. A listing holds what a folder contains, in ascending
order of the names; a place is the list of names that leads from a folder to something below it.
A file holds bytes, which need not be text.
-/

namespace RibTree

set_option autoImplicit false

/-- What a folder contains. -/
inductive Listing
  | empty
  | file (name : String) (content : ByteArray) (rest : Listing)
  | folder (name : String) (inside rest : Listing)
  deriving DecidableEq, Inhabited

inductive Entry
  | file (content : ByteArray)
  | folder (inside : Listing)

namespace Listing

def find? (name : String) : Listing → Option Entry
  | empty => none
  | file own content rest => if own = name then some (.file content) else rest.find? name
  | folder own inside rest => if own = name then some (.folder inside) else rest.find? name

/-- What stands at a place. The empty place is the folder itself. -/
def get? (listing : Listing) : List String → Option Entry
  | [] => some (.folder listing)
  | name :: below =>
      match listing.find? name, below with
      | some (.folder inside), _ => inside.get? below
      | some (.file content), [] => some (.file content)
      | _, _ => none

/-- An entry in front of a listing. -/
def cons (name : String) (entry : Entry) (rest : Listing) : Listing :=
  match entry with
  | .file content => file name content rest
  | .folder inside => folder name inside rest

/-- The listing with an entry under a name, in the place of the one that is there. -/
def set (name : String) (entry : Entry) : Listing → Listing
  | empty => cons name entry empty
  | file own content rest =>
      if own = name then cons name entry rest
      else if name < own then cons name entry (file own content rest)
      else file own content (rest.set name entry)
  | folder own inside rest =>
      if own = name then cons name entry rest
      else if name < own then cons name entry (folder own inside rest)
      else folder own inside (rest.set name entry)

/-- Puts an entry at a place whose parent is a folder. -/
def put (listing : Listing) (entry : Entry) : List String → Listing
  | [] => listing
  | [name] => listing.set name entry
  | name :: below =>
      match listing.find? name with
      | some (.folder inside) => listing.set name (.folder (inside.put entry below))
      | _ => listing

/-- The places of the files and of the empty folders, depth first. An empty folder has no
content. -/
def leaves : Listing → List (List String × Option ByteArray)
  | empty => []
  | file name content rest => ([name], some content) :: rest.leaves
  | folder name empty rest => ([name], none) :: rest.leaves
  | folder name inside rest =>
      inside.leaves.map (fun (below, content) => (name :: below, content)) ++ rest.leaves

/-- The places of the files, depth first. -/
def files (listing : Listing) : List (List String) :=
  listing.leaves.filterMap fun (place, content) => content.map fun _ => place

@[simp] theorem get?_nil (listing : Listing) : listing.get? [] = some (.folder listing) := by
  simp [get?]

@[simp] theorem find?_cons (name own : String) (entry : Entry) (rest : Listing) :
    (cons own entry rest).find? name = if own = name then some entry else rest.find? name := by
  cases entry <;> simp [cons, find?]

@[simp] theorem find?_set (listing : Listing) (name own : String) (entry : Entry) :
    (listing.set own entry).find? name =
      if own = name then some entry else listing.find? name := by
  induction listing with
  | empty => simp [set]
  | file first content rest ih =>
      simp only [set]
      split
      · subst_vars; simp [find?]; grind
      · split
        · simp
        · simp only [find?, ih]; grind
  | folder first inside rest _ ih =>
      simp only [set]
      split
      · subst_vars; simp [find?]; grind
      · split
        · simp
        · simp only [find?, ih]; grind

end Listing

end RibTree
