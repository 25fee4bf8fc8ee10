import RibTree.Text.Line

/-!
# Paths

A path is kept as it was written and is compared by its parts: repeated slashes, a slash at the
end and a dot that is not the first piece do not count. Nothing here looks at a file system, so
`..` is a part like any other.
-/

namespace RibTree

set_option autoImplicit false

structure Path where
  text : String
  deriving DecidableEq, Repr, Inhabited

namespace Path

/-- One step of a path. `here` only begins a path. -/
inductive Part
  | root
  | here
  | up
  | name (text : String)
  deriving DecidableEq, Repr

namespace Part

def text : Part → String
  | root => "/"
  | here => "."
  | up => ".."
  | name text => text

/-- The special parts come before every name. -/
def rank : Part → Nat
  | root => 0
  | here => 1
  | up => 2
  | name _ => 3

instance : Ord Part := ⟨compareLex (compareOn rank) (compareOn text)⟩

instance : Std.TransOrd Part :=
  inferInstanceAs (Std.TransCmp (compareLex (compareOn rank) (compareOn text)))

instance : Std.LawfulEqOrd Part where
  eq_of_compare {a b} h := by
    have h : (compare a.rank b.rank).then (compare a.text b.text) = .eq := h
    obtain ⟨hRank, hText⟩ := Ordering.then_eq_eq.mp h
    have hRank := Std.LawfulEqOrd.eq_of_compare hRank
    have hText := Std.LawfulEqOrd.eq_of_compare hText
    cases a <;> cases b <;> simp_all [rank, text]

/-- What a piece between slashes stands for; an empty piece and a dot stand for nothing. -/
def ofPiece? (piece : List Char) : Option Part :=
  if piece = [] ∨ piece = ['.'] then none
  else if piece = ['.', '.'] then some up
  else some (name (String.ofList piece))

/-- All parts but the last. The root and the empty path have no parent. -/
def parent? (parts : List Part) : Option (List Part) :=
  match parts.getLast? with
  | none | some root => none
  | some _ => some parts.dropLast

end Part

/-- What stands between the slashes of a path. -/
def pieces (p : Path) : List (List Char) :=
  Text.pieces '/' p.text.toList

def isAbsolute (p : Path) : Bool :=
  p.text.toList.head? == some '/'

def parts (p : Path) : List Part :=
  let named := p.pieces.filterMap Part.ofPiece?
  if p.isAbsolute then .root :: named
  else if p.pieces.head? = some ['.'] then .here :: named
  else named

/-- The two paths have the same parts, whatever their spelling. -/
def Same (p q : Path) : Prop := p.parts = q.parts

instance (p q : Path) : Decidable (p.Same q) :=
  inferInstanceAs (Decidable (p.parts = q.parts))

/-- The parts of `p` begin those of `q`. -/
def Contains (p q : Path) : Prop := p.parts <+: q.parts

instance (p q : Path) : Decidable (p.Contains q) :=
  inferInstanceAs (Decidable (p.parts <+: q.parts))

/-- `q` as seen from `p`. An absolute path is seen as itself. -/
def join (p q : Path) : Path :=
  if q.isAbsolute then q
  else if p.text.isEmpty || p.text.toList.getLast? == some '/' then ⟨p.text ++ q.text⟩
  else ⟨p.text ++ "/" ++ q.text⟩

/-- A path with the given parts. -/
def ofParts (parts : List Part) : Path :=
  parts.foldl (fun p part => p.join ⟨part.text⟩) ⟨""⟩

/-- The path and the paths above it, the longest first. -/
def upward (p : Path) : List Path :=
  (List.range (p.parts.length + 1)).reverse.map fun count => ofParts (p.parts.take count)

/-- The way from one place to another, both written from the same start. -/
def wayBetween : List Part → List Part → List Part
  | a :: start, b :: goal =>
      if a = b then wayBetween start goal else (a :: start).map (fun _ => .up) ++ b :: goal
  | start, goal => start.map (fun _ => .up) ++ goal

/-- `q`, which may be seen from `p`, written as it is seen from `p`. -/
def relative (p q : Path) : Path :=
  ofParts (wayBetween p.parts (p.join q).parts)

/-- The last part, if it is a name. -/
def fileName? (p : Path) : Option String :=
  match p.parts.getLast? with
  | some (.name text) => some text
  | _ => none

/-- What stands after the last dot of a file name. A dot that begins the name starts no
extension. -/
def extensionOf? (name : List Char) : Option (List Char) :=
  match name.reverse.dropWhile (· != '.') with
  | [] | [_] => none
  | _ :: _ :: _ => some (name.reverse.takeWhile (· != '.')).reverse

def extension? (p : Path) : Option String :=
  p.fileName?.bind fun name => (extensionOf? name.toList).map String.ofList

@[simp] theorem parts_empty : parts ⟨""⟩ = [] := rfl

theorem join_of_isAbsolute {p q : Path} (h : q.isAbsolute = true) : p.join q = q := by
  simp [join, h]

end Path

end RibTree
