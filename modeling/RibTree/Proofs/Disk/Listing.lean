import Mathlib.Data.List.Basic
import RibTree.Disk.Basic
import RibTree.Proofs.Path.Join
import RibTree.Proofs.Store.Contents

/-!
# What a folder contains

A listing is seen in two ways: by what stands at each place, and as the files below it, depth
first. In a listing whose names ascend the two agree, and the files come in the order of their
paths. Putting a file or an empty folder where its folder is there changes one place and no other.
-/

namespace RibTree

set_option autoImplicit false

/-- What stands at a place, whatever a folder contains. -/
inductive Kind
  | file (content : ByteArray)
  | folder

namespace Entry

def kind : Entry → Kind
  | file content => .file content
  | folder _ => .folder

/-- What stands at a place below an entry. The empty place is the entry itself. -/
def get? : Entry → List String → Option Entry
  | folder inside, place => inside.get? place
  | file content, [] => some (file content)
  | file _, _ :: _ => none

@[simp] theorem get?_nil (e : Entry) : e.get? [] = some e := by
  cases e with
  | file content => rfl
  | folder inside => exact inside.get?_nil

end Entry

namespace Listing

theorem get?_cons (l : Listing) (name : String) (below : List String) :
    l.get? (name :: below) = (l.find? name).bind (·.get? below) := by
  rcases h : l.find? name with _ | ⟨content | inside⟩
  · simp [get?, h]
  · cases below <;> simp [get?, h, Entry.get?]
  · simp [get?, h, Entry.get?]

theorem get?_append (l : Listing) (place below : List String) :
    l.get? (place ++ below) = (l.get? place).bind (·.get? below) := by
  induction place generalizing l with
  | nil => simp [Entry.get?]
  | cons name place ih =>
      rw [List.cons_append, get?_cons, get?_cons]
      cases l.find? name with
      | none => rfl
      | some e =>
          cases e with
          | folder inside => exact ih inside
          | file content => cases place <;> cases below <;> rfl

def kind? (l : Listing) (place : List String) : Option Kind := (l.get? place).map Entry.kind

@[simp] theorem kind?_nil (l : Listing) : l.kind? [] = some .folder := by
  simp [kind?, Entry.kind]

theorem kind?_append_of_folder {l inside : Listing} {place : List String}
    (h : l.get? place = some (.folder inside)) (below : List String) :
    l.kind? (place ++ below) = inside.kind? below := by
  rw [kind?, get?_append, h]
  rfl

theorem kind?_eq_folder_iff {l : Listing} {place : List String} :
    l.kind? place = some .folder ↔ ∃ inside, l.get? place = some (.folder inside) := by
  rw [kind?]
  rcases l.get? place with _ | ⟨_ | _⟩ <;> simp [Entry.kind]

theorem kind?_eq_file_iff {l : Listing} {place : List String} {content : ByteArray} :
    l.kind? place = some (.file content) ↔ l.get? place = some (.file content) := by
  rw [kind?]
  rcases l.get? place with _ | ⟨_ | _⟩ <;> simp [Entry.kind]

theorem kind?_append_of_none {l : Listing} {place : List String} (h : l.kind? place = none)
    (below : List String) : l.kind? (place ++ below) = none := by
  rw [kind?, Option.map_eq_none_iff] at h ⊢
  rw [get?_append, h]
  rfl

/-- Only below a folder can something stand. -/
theorem kind?_eq_folder_of_append {l : Listing} {place below : List String} (hbelow : below ≠ [])
    (h : l.kind? (place ++ below) ≠ none) : l.kind? place = some .folder := by
  rw [kind?, get?_append] at h
  rw [kind?_eq_folder_iff]
  rcases hplace : l.get? place with _ | ⟨content | inside⟩
  · rw [hplace] at h
    exact absurd rfl h
  · rw [hplace] at h
    obtain ⟨name, below, rfl⟩ := List.exists_cons_of_ne_nil hbelow
    exact absurd rfl h
  · exact ⟨inside, rfl⟩

theorem kind?_eq_folder_above {l : Listing} {place other : List String} (h : place <+: other)
    (hother : l.kind? other = some .folder) : l.kind? place = some .folder := by
  obtain ⟨below, rfl⟩ := h
  by_cases hbelow : below = []
  · rw [hbelow, List.append_nil] at hother
    exact hother
  · exact kind?_eq_folder_of_append hbelow (by rw [hother]; simp)

/-! ### Entries in front of a listing -/

/-- A listing has an entry in front of a shorter one, or is empty. -/
@[elab_as_elim]
theorem consInduction {motive : Listing → Prop} (empty : motive empty)
    (cons : ∀ name (e : Entry) rest, (∀ inside, e = .folder inside → motive inside) →
      motive rest → motive (cons name e rest)) (l : Listing) : motive l := by
  induction l with
  | empty => exact empty
  | file name content rest ih => exact cons name (.file content) rest (by simp) ih
  | folder name inside rest ihInside ihRest =>
      exact cons name (.folder inside) rest (by rintro _ ⟨⟩; exact ihInside) ihRest

theorem set_cons (own name : String) (old e : Entry) (rest : Listing) :
    (cons own old rest).set name e =
      if own = name then cons name e rest
      else if name < own then cons name e (cons own old rest)
      else cons own old (rest.set name e) := by
  cases old <;> rfl

def names : Listing → List String
  | empty => []
  | file name _ rest => name :: rest.names
  | folder name _ rest => name :: rest.names

@[simp] theorem names_cons (name : String) (e : Entry) (rest : Listing) :
    (cons name e rest).names = name :: rest.names := by
  cases e <;> rfl

/-- The names can be parts of a path, and those in one folder ascend. -/
def Sound : Listing → Prop
  | empty => True
  | file name _ rest => Path.IsName name ∧ (∀ other ∈ rest.names, name < other) ∧ rest.Sound
  | folder name inside rest =>
      Path.IsName name ∧ (∀ other ∈ rest.names, name < other) ∧ inside.Sound ∧ rest.Sound

def decideSound : (l : Listing) → Decidable l.Sound
  | empty => .isTrue trivial
  | file _ _ rest => have := rest.decideSound; inferInstanceAs (Decidable (_ ∧ _ ∧ _))
  | folder _ inside rest =>
      have := inside.decideSound
      have := rest.decideSound
      inferInstanceAs (Decidable (_ ∧ _ ∧ _ ∧ _))

instance : DecidablePred Sound := decideSound

end Listing

def Entry.Sound : Entry → Prop
  | file _ => True
  | folder inside => inside.Sound

namespace Listing

theorem sound_cons_iff {name : String} {e : Entry} {rest : Listing} :
    (cons name e rest).Sound ↔
      Path.IsName name ∧ (∀ other ∈ rest.names, name < other) ∧ e.Sound ∧ rest.Sound := by
  cases e <;> simp [cons, Sound, Entry.Sound]

theorem mem_names_of_find? {l : Listing} {name : String} {e : Entry} (h : l.find? name = some e) :
    name ∈ l.names := by
  induction l using consInduction with
  | empty => simp [find?] at h
  | cons own old rest _ ih =>
      rw [find?_cons] at h
      rw [names_cons, List.mem_cons]
      split at h
      · rename_i hown
        exact Or.inl hown.symm
      · exact Or.inr (ih h)

theorem Sound.isName {l : Listing} (h : l.Sound) {name : String} (hname : name ∈ l.names) :
    Path.IsName name := by
  induction l using consInduction with
  | empty => simp [names] at hname
  | cons own e rest _ ih =>
      obtain ⟨hown, -, -, hrest⟩ := sound_cons_iff.mp h
      rw [names_cons] at hname
      rcases List.mem_cons.mp hname with rfl | hname
      · exact hown
      · exact ih hrest hname

theorem Sound.find? {l : Listing} (h : l.Sound) {name : String} {e : Entry}
    (he : l.find? name = some e) : e.Sound := by
  induction l using consInduction with
  | empty => simp [Listing.find?] at he
  | cons own old rest _ ih =>
      obtain ⟨-, -, hold, hrest⟩ := sound_cons_iff.mp h
      rw [find?_cons] at he
      split at he
      · rw [← Option.some.inj he]
        exact hold
      · exact ih hrest he

theorem Sound.of_get? {l : Listing} (h : l.Sound) {place : List String} {e : Entry}
    (he : l.get? place = some e) : e.Sound ∧ ∀ name ∈ place, Path.IsName name := by
  induction place generalizing l with
  | nil =>
      rw [get?_nil] at he
      rw [← Option.some.inj he]
      exact ⟨h, by simp⟩
  | cons name place ih =>
      rw [get?_cons] at he
      obtain ⟨first, hfirst, he⟩ := Option.bind_eq_some_iff.mp he
      have hname := h.isName (mem_names_of_find? hfirst)
      rw [List.forall_mem_cons]
      cases first with
      | folder inside =>
          obtain ⟨hsound, hnames⟩ := ih (h.find? hfirst) he
          exact ⟨hsound, hname, hnames⟩
      | file content =>
          cases place with
          | nil =>
              rw [← Option.some.inj he]
              exact ⟨trivial, hname, by simp⟩
          | cons _ _ => exact absurd he (by simp [Entry.get?])

theorem Sound.get? {l : Listing} (h : l.Sound) {place : List String} {e : Entry}
    (he : l.get? place = some e) : e.Sound :=
  (h.of_get? he).1

theorem Sound.isName_of_get? {l : Listing} (h : l.Sound) {place : List String} {e : Entry}
    (he : l.get? place = some e) : ∀ name ∈ place, Path.IsName name :=
  (h.of_get? he).2

theorem mem_names_set {l : Listing} {name other : String} {e : Entry}
    (h : other ∈ (l.set name e).names) : other = name ∨ other ∈ l.names := by
  induction l using consInduction with
  | empty => simpa [set, names] using h
  | cons own old rest _ ih =>
      rw [set_cons] at h
      rw [names_cons, List.mem_cons]
      split at h
      · rw [names_cons, List.mem_cons] at h
        exact h.imp_right Or.inr
      · split at h
        · rwa [names_cons, List.mem_cons, names_cons, List.mem_cons] at h
        · rw [names_cons, List.mem_cons] at h
          rcases h with rfl | h
          · exact Or.inr (Or.inl rfl)
          · exact (ih h).imp_right Or.inr

theorem Sound.set {l : Listing} (h : l.Sound) {name : String} (hname : Path.IsName name)
    {e : Entry} (he : e.Sound) : (l.set name e).Sound := by
  induction l using consInduction with
  | empty => exact sound_cons_iff.mpr ⟨hname, by simp [names], he, trivial⟩
  | cons own old rest _ ih =>
      obtain ⟨hown, hlater, hold, hrest⟩ := sound_cons_iff.mp h
      rw [set_cons]
      split
      · rename_i heq
        exact sound_cons_iff.mpr ⟨hname, heq ▸ hlater, he, hrest⟩
      · rename_i hne
        split
        · rename_i hlt
          refine sound_cons_iff.mpr ⟨hname, ?_, he, h⟩
          rw [names_cons]
          intro other hother
          rcases List.mem_cons.mp hother with rfl | hother
          · exact hlt
          · exact String.lt_trans hlt (hlater other hother)
        · rename_i hnlt
          refine sound_cons_iff.mpr ⟨hown, ?_, hold, ih hrest⟩
          intro other hother
          rcases mem_names_set hother with rfl | hother
          · rcases Std.lt_trichotomy own other with hlt | heq | hlt
            · exact hlt
            · exact absurd heq hne
            · exact absurd hlt hnlt
          · exact hlater other hother

/-! ### Putting an entry at a place -/

theorem put_cons (l : Listing) (e : Entry) (name : String) {below : List String}
    (hbelow : below ≠ []) :
    l.put e (name :: below) = match l.find? name with
      | some (.folder inside) => l.set name (.folder (inside.put e below))
      | _ => l := by
  obtain ⟨next, below, rfl⟩ := List.exists_cons_of_ne_nil hbelow
  rfl

theorem Sound.put {l : Listing} (h : l.Sound) {e : Entry} (he : e.Sound) {name : String}
    (hname : Path.IsName name) (place : List String) : (l.put e (place ++ [name])).Sound := by
  induction place generalizing l with
  | nil => exact h.set hname he
  | cons first place ih =>
      rw [List.cons_append, put_cons l e first (by simp)]
      rcases hfirst : l.find? first with _ | ⟨content | inside⟩
      · exact h
      · exact h
      · exact h.set (h.isName (mem_names_of_find? hfirst)) (ih (h.find? hfirst))

/-- Where a folder has no other folder, a file or an empty folder is put without any other
change. -/
theorem kind?_put {l : Listing} {e : Entry} {place : List String} {name : String}
    (hleaf : ∀ below ≠ [], e.get? below = none) (hfolder : l.kind? place = some .folder)
    (hplace : l.kind? (place ++ [name]) ≠ some .folder) (other : List String) :
    (l.put e (place ++ [name])).kind? other =
      if other = place ++ [name] then some e.kind else l.kind? other := by
  induction place generalizing l other with
  | nil =>
      cases other with
      | nil => simp
      | cons first below =>
          rw [List.nil_append] at hplace ⊢
          rw [put, kind?, get?_cons, find?_set, kind?, get?_cons]
          by_cases hfirst : name = first
          · rw [← hfirst, if_pos rfl]
            by_cases hbelow : below = []
            · simp [hbelow]
            · -- No folder stood there, so that nothing below it is lost.
              have hnone : l.kind? (name :: below) = none := by
                by_contra hthere
                have hfirst : l.kind? [name] = some .folder :=
                  kind?_eq_folder_of_append hbelow hthere
                exact hplace hfirst
              rw [kind?, get?_cons] at hnone
              rw [Option.bind_some, hleaf below hbelow, hnone, if_neg (by simp [hbelow])]
              rfl
          · rw [if_neg hfirst, if_neg (by simp [Ne.symm hfirst])]
  | cons first place ih =>
      obtain ⟨inside, hfirst⟩ :=
        kind?_eq_folder_iff.mp (kind?_eq_folder_above ⟨place, rfl⟩ hfolder : l.kind? [first] = _)
      have hinside : ∀ below, l.kind? (first :: below) = inside.kind? below :=
        kind?_append_of_folder hfirst
      have hfind : l.find? first = some (.folder inside) := by
        rw [get?_cons] at hfirst
        simpa using hfirst
      rw [hinside] at hfolder
      rw [List.cons_append, hinside] at hplace
      rw [List.cons_append, put_cons l e first (by simp), hfind]
      cases other with
      | nil => simp
      | cons next below =>
          rw [kind?, get?_cons, find?_set]
          by_cases hnext : first = next
          · rw [← hnext, if_pos rfl, hinside]
            simp only [List.cons.injEq, true_and]
            exact ih hfolder hplace below
          · rw [if_neg hnext, if_neg (by simp [Ne.symm hnext]), ← get?_cons]
            rfl

/-! ### Files with their contents -/

/-- The places of the files with what they contain, depth first. -/
def contents (l : Listing) : List (List String × ByteArray) :=
  l.leaves.filterMap fun (place, content) => content.map (place, ·)

theorem files_eq_map_contents (l : Listing) : l.files = l.contents.map Prod.fst := by
  rw [files, contents, List.map_filterMap]
  congr 1
  funext ⟨place, content⟩
  cases content <;> rfl

end Listing

def Entry.contents : Entry → List (List String × ByteArray)
  | file content => [([], content)]
  | folder inside => inside.contents

namespace Listing

theorem contents_cons (name : String) (e : Entry) (rest : Listing) :
    (cons name e rest).contents =
      e.contents.map (fun (below, content) => (name :: below, content)) ++ rest.contents := by
  cases e with
  | file content => rfl
  | folder inside =>
      have hname : ∀ leaf : List String × Option ByteArray,
          (leaf.2.map fun content => (name :: leaf.1, content)) =
            (leaf.2.map fun content => (leaf.1, content)).map
              fun (below, content) => (name :: below, content) := by
        rintro ⟨below, _ | _⟩ <;> rfl
      have hinside : (inside.leaves.map fun (below, content) => (name :: below, content)).filterMap
          (fun (place, content) => content.map (place, ·)) =
            inside.contents.map fun (below, content) => (name :: below, content) := by
        rw [List.filterMap_map, contents, List.map_filterMap]
        congr 1
        exact funext hname
      rw [Entry.contents, ← hinside]
      cases inside <;> simp [cons, contents, leaves]

theorem mem_contents_iff {l : Listing} (h : l.Sound) {place : List String} {content : ByteArray} :
    (place, content) ∈ l.contents ↔ l.get? place = some (.file content) := by
  induction l using consInduction generalizing place with
  | empty => cases place <;> simp [contents, leaves, get?_cons, find?]
  | cons own e rest ihInside ihRest =>
      obtain ⟨-, hlater, he, hrest⟩ := sound_cons_iff.mp h
      have hentry : ∀ below,
          (below, content) ∈ e.contents ↔ e.get? below = some (.file content) := by
        intro below
        cases e with
        | file other => cases below <;> simp [Entry.contents, Entry.get?, eq_comm]
        | folder inside => exact ihInside inside rfl he
      rw [contents_cons, List.mem_append, ihRest hrest]
      cases place with
      | nil => simp
      | cons name below =>
          have hfirst : (name :: below, content) ∈
              e.contents.map (fun (below, content) => (own :: below, content)) ↔
                own = name ∧ e.get? below = some (.file content) := by
            rw [← hentry, List.mem_map]
            constructor
            · rintro ⟨⟨other, c⟩, hmem, heq⟩
              obtain ⟨hplace, rfl⟩ := Prod.mk.inj heq
              obtain ⟨hown, rfl⟩ := List.cons.inj hplace
              exact ⟨hown, hmem⟩
            · rintro ⟨rfl, hmem⟩
              exact ⟨_, hmem, rfl⟩
          rw [hfirst, get?_cons, get?_cons, find?_cons]
          by_cases hown : own = name
          · have hnone : rest.find? name = none := by
              rw [Option.eq_none_iff_forall_not_mem]
              intro other hother
              exact String.lt_irrefl own (hown ▸ hlater name (mem_names_of_find? hother))
            simp [hown, hnone]
          · simp [hown]

theorem exists_name_of_mem_contents {l : Listing} {place : List String} {content : ByteArray}
    (h : (place, content) ∈ l.contents) : ∃ name ∈ l.names, ∃ below, place = name :: below := by
  induction l using consInduction generalizing place with
  | empty => simp [contents, leaves] at h
  | cons own e rest _ ih =>
      rw [names_cons]
      rw [contents_cons] at h
      rcases List.mem_append.mp h with h | h
      · obtain ⟨⟨below, _⟩, -, heq⟩ := List.mem_map.mp h
        exact ⟨own, List.mem_cons_self, below, (Prod.mk.inj heq).1.symm⟩
      · obtain ⟨name, hname, hplace⟩ := ih h
        exact ⟨name, List.mem_cons_of_mem _ hname, hplace⟩

theorem compare_names (name other : String) (below others : List String) :
    compare ((name :: below).map Path.Part.name) ((other :: others).map Path.Part.name) =
      (compare name other).then
        (compare (below.map Path.Part.name) (others.map Path.Part.name)) := by
  rw [List.map_cons, List.map_cons, List.compare_cons_cons]
  rfl

/-- The files of a listing come in the order in which a store keeps their paths. -/
theorem ascending_contents {l : Listing} (h : l.Sound) :
    Ascending compare (l.contents.map fun entry => entry.1.map Path.Part.name) := by
  induction l using consInduction with
  | empty => exact .nil
  | cons own e rest ihInside ihRest =>
      obtain ⟨-, hlater, he, hrest⟩ := sound_cons_iff.mp h
      have hentry : Ascending compare (e.contents.map fun entry => entry.1.map Path.Part.name) := by
        cases e with
        | file content => exact List.pairwise_singleton _ _
        | folder inside => exact ihInside inside rfl he
      rw [contents_cons, List.map_append, List.map_map]
      refine List.pairwise_append.mpr ⟨?_, ihRest hrest, ?_⟩
      · rw [List.pairwise_map]
        refine (List.pairwise_map.mp hentry).imp ?_
        rintro ⟨place, _⟩ ⟨other, _⟩ hlt
        rw [Function.comp_apply, Function.comp_apply, compare_names, Std.ReflOrd.compare_self]
        exact hlt
      · intro first hfirst later hlater'
        obtain ⟨⟨place, -⟩, -, rfl⟩ := List.mem_map.mp hfirst
        obtain ⟨⟨other, content⟩, hother, rfl⟩ := List.mem_map.mp hlater'
        obtain ⟨name, hname, below, rfl⟩ := exists_name_of_mem_contents hother
        have hlt : compare own name = .lt := compareOfLessAndEq_eq_lt.mpr (hlater name hname)
        rw [Function.comp_apply, compare_names, hlt]
        rfl

end Listing

end RibTree
