import Mathlib.Data.List.Basic
import RibTree.Proofs.Path.Join
import RibTree.Store.Basic

/-!
# What a store contains

Every operation is described by what it does to the content of a path and to the folders; later
arguments need not know how files are kept. `Built` says which stores there are: those made from
the empty one by the operations.
-/

namespace RibTree

set_option autoImplicit false

section Ascending

variable {α : Type} {cmp : α → α → Ordering}

def Ascending (cmp : α → α → Ordering) (l : List α) : Prop := l.Pairwise fun a b => cmp a b = .lt

theorem mem_insertAscending {a x : α} {l : List α}
    (h : x ∈ insertAscending cmp (fun old _ => old) a l) : x = a ∨ x ∈ l := by
  induction l with
  | nil => simpa [insertAscending] using h
  | cons b l ih =>
      simp only [insertAscending] at h
      split at h
      · simpa using h
      · exact Or.inr h
      · rcases List.mem_cons.mp h with rfl | h
        · exact Or.inr List.mem_cons_self
        · exact (ih h).imp_right (List.mem_cons_of_mem b)

theorem mem_insertAscending_of_mem {a x : α} {l : List α} (h : x ∈ l) :
    x ∈ insertAscending cmp (fun old _ => old) a l := by
  induction l with
  | nil => simp at h
  | cons b l ih =>
      simp only [insertAscending]
      split
      · exact List.mem_cons_of_mem a h
      · exact h
      · rcases List.mem_cons.mp h with rfl | h
        · exact List.mem_cons_self
        · exact List.mem_cons_of_mem b (ih h)

theorem mem_insertAscending_self [Std.LawfulEqCmp cmp] (a : α) (l : List α) :
    a ∈ insertAscending cmp (fun old _ => old) a l := by
  induction l with
  | nil => simp [insertAscending]
  | cons b l ih =>
      simp only [insertAscending]
      split
      · exact List.mem_cons_self
      · rename_i h
        rw [Std.LawfulEqCmp.eq_of_compare h]
        exact List.mem_cons_self
      · exact List.mem_cons_of_mem b ih

theorem Ascending.insert [Std.TransCmp cmp] {l : List α} (h : Ascending cmp l) (a : α) :
    Ascending cmp (insertAscending cmp (fun old _ => old) a l) := by
  induction l with
  | nil => simp [Ascending, insertAscending]
  | cons b l ih =>
      have hb := List.pairwise_cons.mp h
      simp only [insertAscending]
      split
      · rename_i hab
        apply List.pairwise_cons.mpr
        refine ⟨?_, h⟩
        intro c hc
        rcases List.mem_cons.mp hc with rfl | hc
        · exact hab
        · exact Std.TransCmp.lt_trans hab (hb.1 c hc)
      · exact h
      · rename_i hab
        apply List.pairwise_cons.mpr
        refine ⟨?_, ih hb.2⟩
        intro c hc
        rcases mem_insertAscending hc with rfl | hc
        · exact Std.OrientedCmp.lt_of_gt hab
        · exact hb.1 c hc

end Ascending

namespace Store

def fileParts (s : Store) : List (List Path.Part) := s.files.map fun f => f.path.parts

theorem map_parts_insertFile (files : List StoredFile) (f : StoredFile) :
    (insertFile files f).map (fun g => g.path.parts) =
      insertAscending compare (fun old _ => old) f.path.parts
        (files.map fun g => g.path.parts) := by
  induction files with
  | nil => rfl
  | cons g files ih =>
      simp only [insertFile, insertAscending, StoredFile.compareParts, List.map_cons] at ih ⊢
      split <;> simp_all

theorem hasFile_iff (s : Store) (q : Path) : s.hasFile q = true ↔ q.parts ∈ s.fileParts := by
  simp only [hasFile, find?, List.find?_isSome, fileParts, List.mem_map, decide_eq_true_eq]
  rfl

theorem hasFile_iff_content? (s : Store) (q : Path) :
    s.hasFile q = true ↔ ∃ c, s.content? q = some c := by
  rw [hasFile, content?, Option.isSome_iff_exists]
  constructor
  · rintro ⟨f, hf⟩
    exact ⟨f.content, by rw [hf]; rfl⟩
  · rintro ⟨c, hc⟩
    obtain ⟨f, hf, -⟩ := Option.map_eq_some_iff.mp hc
    exact ⟨f, hf⟩

theorem content?_congr (s : Store) {p q : Path} (h : p.Same q) : s.content? p = s.content? q := by
  have hfun : (fun f : StoredFile => decide (f.path.Same p)) = fun f => decide (f.path.Same q) := by
    funext f
    exact decide_eq_decide.mpr ⟨fun hf => hf.trans h, fun hf => hf.trans h.symm⟩
  rw [content?, content?, find?, find?, hfun]

theorem find?_insertFile (files : List StoredFile) (p q : Path) (content : String) :
    ((insertFile files ⟨p, content⟩).find? fun f => f.path.Same q).map StoredFile.content =
      if p.Same q then some content
      else (files.find? fun f => f.path.Same q).map StoredFile.content := by
  induction files with
  | nil =>
      by_cases h : p.Same q <;> simp [insertFile, insertAscending, h]
  | cons g files ih =>
      simp only [insertFile, insertAscending, StoredFile.compareParts] at ih ⊢
      split
      · by_cases h : p.Same q <;> simp [h]
      · rename_i heq
        have hpg : p.parts = g.path.parts := Std.LawfulEqOrd.eq_of_compare heq
        by_cases h : p.Same q
        · have hg : g.path.Same q := hpg.symm.trans h
          simp [h, hg]
        · have hg : ¬ g.path.Same q := fun hg => h (hpg.trans hg)
          simp [h, hg]
      · rename_i hgt
        by_cases hg : g.path.Same q
        · have h : ¬ p.Same q := by
            intro h
            rw [show p.parts = g.path.parts from Eq.trans h (Eq.symm hg), Std.ReflOrd.compare_self]
              at hgt
            exact absurd hgt (by decide)
          simp [h, hg]
        · rw [List.find?_cons_of_neg (by simpa using hg), ih,
            List.find?_cons_of_neg (by simpa using hg)]

@[simp] theorem content?_put (s : Store) (p q : Path) (content : String) :
    (s.put p content).content? q = if p.Same q then some content else s.content? q :=
  find?_insertFile s.files p q content

theorem mem_foldl_insertFolder_of_mem {folders : List (List Path.Part)} {parts : List Path.Part}
    (h : parts ∈ folders) (new : List (List Path.Part)) : parts ∈ new.foldl insertFolder folders := by
  induction new generalizing folders with
  | nil => exact h
  | cons a new ih => exact ih (mem_insertAscending_of_mem h)

theorem hasFolder_addFolders_of_hasFolder {s : Store} {parts : List Path.Part}
    (h : s.hasFolder parts = true) (new : List Path.Part) :
    (s.addFolders new).hasFolder parts = true := by
  simp only [hasFolder, addFolders, List.contains_iff_mem] at h ⊢
  exact mem_foldl_insertFolder_of_mem h _

theorem getLast?_beginnings {α : Type} {l : List α} (h : l ≠ []) :
    (beginnings l).getLast? = some l := by
  induction l with
  | nil => exact absurd rfl h
  | cons a l ih =>
      by_cases hl : l = []
      · simp [hl, beginnings]
      · rw [beginnings, List.getLast?_cons, List.getLast?_map, ih hl]
        rfl

/-- A folder that is added is there, unless its path is empty. -/
theorem hasFolder_addFolders {s : Store} {parts : List Path.Part} (h : parts ≠ []) :
    (s.addFolders parts).hasFolder parts = true := by
  obtain ⟨init, hinit⟩ := List.getLast?_eq_some_iff.mp (getLast?_beginnings h)
  simp only [hasFolder, addFolders, List.contains_iff_mem, hinit, List.foldl_append,
    List.foldl_cons, List.foldl_nil]
  exact mem_insertAscending_self _ _

/-- A folder that is there or empty, which is all that a write asks of the place of a file. -/
def HoldsFiles (s : Store) (parts : List Path.Part) : Prop :=
  parts = [] ∨ s.hasFolder parts = true

theorem hasParent_iff (s : Store) (p : Path) :
    s.hasParent p = true ↔ ∀ parts ∈ Path.Part.parent? p.parts, s.HoldsFiles parts := by
  rw [hasParent]
  split <;> simp_all [HoldsFiles]

theorem holdsFiles_addFolders (s : Store) (parts : List Path.Part) :
    (s.addFolders parts).HoldsFiles parts := by
  by_cases h : parts = []
  · exact Or.inl h
  · exact Or.inr (hasFolder_addFolders h)

def KeepsFolders (s t : Store) : Prop := ∀ parts, s.hasFolder parts = true → t.hasFolder parts = true

theorem KeepsFolders.hasParent {s t : Store} (h : s.KeepsFolders t) {p : Path}
    (hp : s.hasParent p = true) : t.hasParent p = true := by
  rw [hasParent_iff] at hp ⊢
  exact fun parts hparts => (hp parts hparts).imp_right (h parts)

theorem keepsFolders_addFolders (s : Store) (parts : List Path.Part) :
    s.KeepsFolders (s.addFolders parts) :=
  fun _ h => hasFolder_addFolders_of_hasFolder h parts

/-- What the operations leave true of every store. -/
structure WellFormed (s : Store) : Prop where
  ascending : Ascending compare s.fileParts
  parents : ∀ f ∈ s.files, s.hasParent f.path = true

namespace WellFormed

variable {s t : Store}

theorem of_files_eq (h : s.WellFormed) (hfiles : t.files = s.files) (hfolders : s.KeepsFolders t) :
    t.WellFormed where
  ascending := by
    rw [fileParts, hfiles]
    exact h.ascending
  parents := by
    rw [hfiles]
    exact fun f hf => hfolders.hasParent (h.parents f hf)

theorem mem_insertFile {files : List StoredFile} {f g : StoredFile}
    (h : g ∈ insertFile files f) : g.path.parts = f.path.parts ∨ g ∈ files := by
  induction files with
  | nil => exact Or.inl (by rw [List.mem_singleton.mp h])
  | cons a files ih =>
      simp only [insertFile, insertAscending] at h ih
      split at h
      · rcases List.mem_cons.mp h with rfl | h
        · exact Or.inl rfl
        · exact Or.inr h
      · rename_i heq
        rcases List.mem_cons.mp h with rfl | h
        · exact Or.inl (Std.LawfulEqOrd.eq_of_compare heq).symm
        · exact Or.inr (List.mem_cons_of_mem a h)
      · rcases List.mem_cons.mp h with rfl | h
        · exact Or.inr List.mem_cons_self
        · exact (ih h).imp_right (List.mem_cons_of_mem a)

theorem put (h : s.WellFormed) {p : Path} (hp : s.hasParent p = true) (content : String) :
    (s.put p content).WellFormed where
  ascending := by
    have hm : (s.put p content).fileParts =
        insertAscending compare (fun old _ => old) p.parts s.fileParts :=
      map_parts_insertFile s.files ⟨p, content⟩
    rw [hm]
    exact h.ascending.insert p.parts
  parents := by
    intro f hf
    have hsame : ∀ q, (s.put p content).hasParent q = s.hasParent q := fun _ => rfl
    rw [hsame]
    rcases mem_insertFile hf with he | hf
    · rw [hasParent_iff, he, ← hasParent_iff]
      exact hp
    · exact h.parents f hf

theorem addFolders (h : s.WellFormed) (parts : List Path.Part) :
    (s.addFolders parts).WellFormed :=
  h.of_files_eq rfl (keepsFolders_addFolders s parts)

end WellFormed

/-- The stores that the operations make from the empty one. -/
inductive Built : Store → Prop
  | empty : Built Store.empty
  | withFile {s : Store} (path : Path) (content : String) :
      Built s → Built (s.withFile path content)
  | withLocked {s : Store} (path : Path) : Built s → Built (s.withLocked path)
  | createFolders {s t : Store} (path : Path) :
      Built s → s.createFolders path = .ok t → Built t
  | write {s t : Store} (path : Path) (content : String) :
      Built s → s.write path content = .ok t → Built t

theorem createFolders_eq_ok_iff {s t : Store} {path : Path} :
    s.createFolders path = .ok t ↔ s.isLocked path = false ∧ t = s.addFolders path.parts := by
  rw [createFolders]
  cases s.isLocked path <;> simp [eq_comm]

theorem write_eq_ok_iff {s t : Store} {path : Path} {content : String} :
    s.write path content = .ok t ↔ s.isLocked path = false ∧ s.hasParent path = true ∧
      t = { s.put path content with writes := s.writes + 1 } := by
  rw [write]
  cases s.isLocked path <;> cases s.hasParent path <;> simp [eq_comm, put]

theorem WellFormed.createFolders {s t : Store} {path : Path} (h : s.WellFormed)
    (ht : s.createFolders path = .ok t) : t.WellFormed := by
  obtain ⟨-, rfl⟩ := createFolders_eq_ok_iff.mp ht
  exact h.addFolders path.parts

theorem WellFormed.write {s t : Store} {path : Path} {content : String} (h : s.WellFormed)
    (ht : s.write path content = .ok t) : t.WellFormed := by
  obtain ⟨-, hp, rfl⟩ := write_eq_ok_iff.mp ht
  exact (h.put hp content).of_files_eq rfl fun _ hf => hf

theorem Built.wellFormed {s : Store} (h : s.Built) : s.WellFormed := by
  induction h with
  | empty => exact ⟨List.Pairwise.nil, by simp [Store.empty]⟩
  | @withFile s path content _ ih =>
      cases hp : Path.Part.parent? path.parts with
      | none =>
          have hparent : s.hasParent path = true := by simp [hasParent, hp]
          rw [Store.withFile, hp]
          exact ih.put hparent content
      | some parts =>
          have hparent : (s.addFolders parts).hasParent path = true := by
            rw [hasParent_iff, hp]
            intro q hq
            rw [← Option.mem_some_iff.mp hq]
            exact holdsFiles_addFolders s parts
          rw [Store.withFile, hp]
          exact (ih.addFolders parts).put hparent content
  | withLocked path _ ih => exact ih.of_files_eq rfl fun _ h => h
  | createFolders path _ ht ih => exact ih.createFolders ht
  | write path content _ ht ih => exact ih.write ht

end Store

end RibTree
