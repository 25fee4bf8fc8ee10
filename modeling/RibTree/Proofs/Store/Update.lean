import Mathlib.Data.List.Perm.Basic
import RibTree.Proofs.Store.Contents
import RibTree.Step

/-!
# Updates of a store

Two things are done to a store: a folder is made sure of, and a file is written. Updates that
concern different files commute, and folders can be made sure of in any order, also when one of
them is above the other. The stores that come out are equal as they stand, not only in what they
contain.
-/

namespace RibTree

set_option autoImplicit false

section Insertion

variable {α : Type} {cmp : α → α → Ordering} {onEqual : α → α → α}

/-- Elements that compare different are inserted in any order, whatever the list is. -/
theorem insertAscending_comm [Std.TransCmp cmp]
    (hkept : ∀ old new x, cmp x (onEqual old new) = cmp x old) {a b : α} (hab : cmp a b ≠ .eq)
    (l : List α) :
    insertAscending cmp onEqual a (insertAscending cmp onEqual b l) =
      insertAscending cmp onEqual b (insertAscending cmp onEqual a l) := by
  have hswap : ∀ {x y : α}, cmp y x = (cmp x y).swap := Std.OrientedCmp.eq_swap
  induction l with
  | nil =>
      cases h : cmp a b with
      | lt => simp [insertAscending, h, hswap (x := a)]
      | eq => exact absurd h hab
      | gt => simp [insertAscending, h, hswap (x := a)]
  | cons c l ih =>
      cases ha : cmp a c <;> cases hb : cmp b c
      case lt.lt =>
        cases h : cmp a b with
        | lt => simp [insertAscending, ha, hb, h, hswap (x := a)]
        | eq => exact absurd h hab
        | gt => simp [insertAscending, ha, hb, h, hswap (x := a)]
      case lt.eq =>
        have h : cmp a b = .lt := Std.TransCmp.lt_of_lt_of_eq ha (Std.OrientedCmp.eq_symm hb)
        simp [insertAscending, hkept, ha, hb, h, hswap (x := a)]
      case lt.gt =>
        have h : cmp a b = .lt := Std.TransCmp.lt_trans ha (Std.OrientedCmp.lt_of_gt hb)
        simp [insertAscending, ha, hb, h, hswap (x := a)]
      case eq.lt =>
        have h : cmp b a = .lt := Std.TransCmp.lt_of_lt_of_eq hb (Std.OrientedCmp.eq_symm ha)
        simp [insertAscending, hkept, ha, hb, h, hswap (x := b)]
      case eq.eq => exact absurd (Std.TransCmp.eq_trans ha (Std.OrientedCmp.eq_symm hb)) hab
      case eq.gt => simp [insertAscending, hkept, ha, hb]
      case gt.lt =>
        have h : cmp b a = .lt := Std.TransCmp.lt_trans hb (Std.OrientedCmp.lt_of_gt ha)
        simp [insertAscending, ha, hb, h, hswap (x := b)]
      case gt.eq => simp [insertAscending, hkept, ha, hb]
      case gt.gt => simp [insertAscending, ha, hb, ih]

theorem insertAscending_idem [Std.ReflCmp cmp] (a : α) (l : List α) :
    insertAscending cmp (fun old _ => old) a (insertAscending cmp (fun old _ => old) a l) =
      insertAscending cmp (fun old _ => old) a l := by
  induction l with
  | nil => simp [insertAscending, Std.ReflCmp.compare_self]
  | cons b l ih =>
      cases h : cmp a b with
      | lt => simp [insertAscending, h, Std.ReflCmp.compare_self]
      | eq => simp [insertAscending, h]
      | gt => simp [insertAscending, h, ih]

end Insertion

namespace Store

instance : RightCommutative insertFolder where
  right_comm folders p q := by
    by_cases h : compare q p = .eq
    · rw [Std.LawfulEqOrd.eq_of_compare h]
    · exact insertAscending_comm (fun _ _ _ => rfl) h folders

theorem foldl_insertFolder_comm (folders l m : List (List Path.Part)) :
    m.foldl insertFolder (l.foldl insertFolder folders) =
      l.foldl insertFolder (m.foldl insertFolder folders) := by
  rw [← List.foldl_append, ← List.foldl_append]
  exact List.perm_append_comm.foldl_eq folders

theorem foldl_insertFolder_idem (folders l : List (List Path.Part)) :
    l.foldl insertFolder (l.foldl insertFolder folders) = l.foldl insertFolder folders := by
  induction l generalizing folders with
  | nil => rfl
  | cons p l ih =>
      have hfirst : insertFolder (l.foldl insertFolder (insertFolder folders p)) p =
          l.foldl insertFolder (insertFolder (insertFolder folders p) p) :=
        foldl_insertFolder_comm (insertFolder folders p) l [p]
      have htwice : insertFolder (insertFolder folders p) p = insertFolder folders p :=
        insertAscending_idem p folders
      rw [List.foldl_cons, List.foldl_cons, hfirst, htwice, ih]

theorem beginnings_append {α : Type} (l m : List α) :
    beginnings (l ++ m) = beginnings l ++ (beginnings m).map (l ++ ·) := by
  induction l with
  | nil => simp [beginnings]
  | cons a l ih => simp [beginnings, ih, Function.comp_def]

theorem mem_beginnings_iff {α : Type} {l m : List α} : l ∈ beginnings m ↔ l ≠ [] ∧ l <+: m := by
  induction m generalizing l with
  | nil => simp [beginnings]
  | cons a m ih =>
      cases l with
      | nil => simp [beginnings]
      | cons b l =>
          rw [beginnings, List.mem_cons, List.mem_map, List.cons_prefix_cons]
          constructor
          · rintro (h | ⟨k, hk, h⟩)
            · obtain ⟨rfl, rfl⟩ := List.cons.inj h
              exact ⟨by simp, rfl, List.nil_prefix⟩
            · obtain ⟨rfl, rfl⟩ := List.cons.inj h
              exact ⟨by simp, rfl, (ih.mp hk).2⟩
          · rintro ⟨-, rfl, h⟩
            by_cases hl : l = []
            · exact Or.inl (by rw [hl])
            · exact Or.inr ⟨l, ih.mpr ⟨hl, h⟩, rfl⟩

variable {s t : Store}

theorem addFolders_comm (s : Store) (p q : List Path.Part) :
    (s.addFolders p).addFolders q = (s.addFolders q).addFolders p := by
  unfold addFolders
  rw [foldl_insertFolder_comm]

/-- Adding a folder adds those above it, so that they need not be added before. -/
theorem addFolders_of_prefix {p q : List Path.Part} (h : p <+: q) (s : Store) :
    (s.addFolders p).addFolders q = s.addFolders q := by
  obtain ⟨rest, rfl⟩ := h
  unfold addFolders
  rw [beginnings_append, List.foldl_append, List.foldl_append, foldl_insertFolder_idem]

theorem hasFolder_addFolders_iff {p q : List Path.Part} :
    (s.addFolders p).hasFolder q = true ↔ s.hasFolder q = true ∨ q ≠ [] ∧ q <+: p := by
  have hmem : ∀ (l folders : List (List Path.Part)),
      q ∈ l.foldl insertFolder folders ↔ q ∈ folders ∨ q ∈ l := by
    intro l
    induction l with
    | nil => simp
    | cons a l ih =>
        intro folders
        rw [List.foldl_cons, ih, List.mem_cons, ← or_assoc]
        apply or_congr_left
        constructor
        · intro h
          exact (mem_insertAscending h).symm
        · rintro (h | rfl)
          · exact mem_insertAscending_of_mem h
          · exact mem_insertAscending_self q folders
  rw [← mem_beginnings_iff]
  simp only [hasFolder, addFolders, List.contains_iff_mem]
  exact hmem _ _

/-- The store with a folder, which is left as it is if it is there. -/
def ensure (s : Store) (folder : Path) : Store :=
  if s.isFolder folder then s else s.addFolders folder.parts

/-- The folder is there or can be created. -/
def admits (s : Store) (folder : Path) : Bool := s.isFolder folder || !s.isLocked folder

def overwrite (s : Store) (file : SourceFile) : Store :=
  { s.put file.path file.content with writes := s.writes + 1 }

def overwriteAll (s : Store) (files : List SourceFile) : Store := files.foldl overwrite s

@[simp] theorem overwriteAll_cons (s : Store) (file : SourceFile) (files : List SourceFile) :
    s.overwriteAll (file :: files) = (s.overwrite file).overwriteAll files := rfl

@[simp] theorem locked_ensure (s : Store) (folder : Path) : (s.ensure folder).locked = s.locked := by
  unfold ensure
  split <;> rfl

@[simp] theorem files_ensure (s : Store) (folder : Path) : (s.ensure folder).files = s.files := by
  unfold ensure
  split <;> rfl

@[simp] theorem writes_ensure (s : Store) (folder : Path) : (s.ensure folder).writes = s.writes := by
  unfold ensure
  split <;> rfl

@[simp] theorem locked_overwriteAll (s : Store) (files : List SourceFile) :
    (s.overwriteAll files).locked = s.locked := by
  induction files generalizing s with
  | nil => rfl
  | cons file files ih => exact ih (s.overwrite file)

@[simp] theorem folders_overwriteAll (s : Store) (files : List SourceFile) :
    (s.overwriteAll files).folders = s.folders := by
  induction files generalizing s with
  | nil => rfl
  | cons file files ih => exact ih (s.overwrite file)

@[simp] theorem writes_overwriteAll (s : Store) (files : List SourceFile) :
    (s.overwriteAll files).writes = s.writes + files.length := by
  induction files generalizing s with
  | nil => rfl
  | cons file files ih =>
      rw [overwriteAll_cons, ih, List.length_cons]
      change s.writes + 1 + files.length = _
      omega

theorem isLocked_congr (h : t.locked = s.locked) (path : Path) : t.isLocked path = s.isLocked path := by
  rw [isLocked, isLocked, h]

/-- What stands under a locked path is locked. -/
theorem isLocked_of_contains {p q : Path} (h : p.Contains q) (hp : s.isLocked p = true) :
    s.isLocked q = true := by
  obtain ⟨lock, hlock, hcontains⟩ := List.any_eq_true.mp hp
  apply List.any_eq_true.mpr
  refine ⟨lock, hlock, ?_⟩
  rw [decide_eq_true_eq] at hcontains ⊢
  exact hcontains.trans h

theorem isFolder_ensure_iff {folder p : Path} :
    (s.ensure folder).isFolder p = true ↔ s.isFolder p = true ∨
      s.isFolder folder = false ∧ p.parts ≠ [] ∧ p.Contains folder := by
  unfold ensure
  split
  · rename_i h
    simp [h]
  · rename_i h
    rw [isFolder, hasFolder_addFolders_iff]
    simp only [h, true_and]
    rfl

theorem ensure_of_isFolder {folder : Path} (h : s.isFolder folder = true) :
    s.ensure folder = s :=
  if_pos h

theorem ensure_of_isFolder_eq_false {folder : Path} (h : s.isFolder folder = false) :
    s.ensure folder = s.addFolders folder.parts :=
  if_neg (by simp [h])

theorem holdsFiles_ensure (s : Store) (folder : Path) :
    (s.ensure folder).HoldsFiles folder.parts := by
  cases h : s.isFolder folder with
  | true =>
      rw [ensure_of_isFolder h]
      exact Or.inr h
  | false =>
      rw [ensure_of_isFolder_eq_false h]
      exact holdsFiles_addFolders s folder.parts

theorem hasParent_ensure (s : Store) {folder p : Path}
    (h : Path.Part.parent? p.parts = some folder.parts) : (s.ensure folder).hasParent p = true := by
  rw [hasParent_iff, h]
  intro parts hparts
  rw [← Option.mem_some_iff.mp hparts]
  exact holdsFiles_ensure s folder

theorem ensure_addFolders_of_contains {p q : Path} (h : q.Contains p) :
    (s.addFolders p.parts).ensure q = s.addFolders p.parts := by
  by_cases hq : q.parts = []
  · cases hthere : (s.addFolders p.parts).isFolder q with
    | true => exact ensure_of_isFolder hthere
    | false =>
        rw [ensure_of_isFolder_eq_false hthere, hq]
        rfl
  · exact ensure_of_isFolder (hasFolder_addFolders_iff.mpr (Or.inr ⟨hq, h⟩))

theorem ensure_addFolders_of_not_contains {p q : Path} (hq : s.isFolder q = false)
    (h : ¬ q.Contains p) :
    (s.addFolders p.parts).ensure q = (s.addFolders p.parts).addFolders q.parts := by
  apply ensure_of_isFolder_eq_false
  rw [← Bool.not_eq_true, isFolder, hasFolder_addFolders_iff]
  rintro (hthere | ⟨-, hprefix⟩)
  · rw [show s.hasFolder q.parts = false from hq] at hthere
    exact absurd hthere (by simp)
  · exact h hprefix

theorem ensure_comm (s : Store) (p q : Path) : (s.ensure p).ensure q = (s.ensure q).ensure p := by
  cases hp : s.isFolder p with
  | true =>
      have hstill : (s.ensure q).isFolder p = true := isFolder_ensure_iff.mpr (Or.inl hp)
      rw [ensure_of_isFolder hp, ensure_of_isFolder hstill]
  | false =>
      cases hq : s.isFolder q with
      | true =>
          have hstill : (s.ensure p).isFolder q = true := isFolder_ensure_iff.mpr (Or.inl hq)
          rw [ensure_of_isFolder hq, ensure_of_isFolder hstill]
      | false =>
          rw [ensure_of_isFolder_eq_false hp, ensure_of_isFolder_eq_false hq]
          -- Either folder may be above the other; then it comes with the other.
          by_cases hqp : q.Contains p <;> by_cases hpq : p.Contains q
          · have hsame : p.parts = q.parts := hpq.eq_of_length_le hqp.length_le
            rw [ensure_addFolders_of_contains hqp, ensure_addFolders_of_contains hpq, hsame]
          · rw [ensure_addFolders_of_contains hqp, ensure_addFolders_of_not_contains hp hpq,
              addFolders_of_prefix hqp]
          · rw [ensure_addFolders_of_contains hpq, ensure_addFolders_of_not_contains hq hqp,
              addFolders_of_prefix hpq]
          · rw [ensure_addFolders_of_not_contains hq hqp,
              ensure_addFolders_of_not_contains hp hpq, addFolders_comm]

/-- No folder that is locked is made on the way to one that is not. -/
theorem admits_ensure {folder : Path} (h : s.admits folder = true) (p : Path) :
    (s.ensure folder).admits p = s.admits p := by
  have hlocked : (s.ensure folder).isLocked p = s.isLocked p := isLocked_congr (by simp) p
  rw [Bool.eq_iff_iff, admits, admits, Bool.or_eq_true, Bool.or_eq_true, hlocked,
    isFolder_ensure_iff]
  constructor
  · rintro ((hthere | ⟨hnew, -, habove⟩) | hfree)
    · exact Or.inl hthere
    · rw [admits, hnew, Bool.false_or, Bool.not_eq_true'] at h
      cases hp : s.isLocked p with
      | true =>
          rw [isLocked_of_contains habove hp] at h
          exact absurd h (by decide)
      | false => exact Or.inr rfl
    · exact Or.inr hfree
  · exact Or.imp_left Or.inl

instance : Std.TransCmp StoredFile.compareParts :=
  inferInstanceAs (Std.TransCmp (compareOn fun f : StoredFile => f.path.parts))

theorem overwrite_comm {f g : SourceFile} (h : ¬ f.path.Same g.path) (s : Store) :
    (s.overwrite f).overwrite g = (s.overwrite g).overwrite f := by
  have hdifferent : StoredFile.compareParts ⟨g.path, g.content⟩ ⟨f.path, f.content⟩ ≠ .eq :=
    fun he => h (Std.LawfulEqOrd.eq_of_compare he).symm
  have hkept : ∀ old new x : StoredFile,
      StoredFile.compareParts x ⟨old.path, new.content⟩ = StoredFile.compareParts x old :=
    fun _ _ _ => rfl
  have hfiles : insertFile (insertFile s.files ⟨f.path, f.content⟩) ⟨g.path, g.content⟩ =
      insertFile (insertFile s.files ⟨g.path, g.content⟩) ⟨f.path, f.content⟩ :=
    insertAscending_comm hkept hdifferent s.files
  simp only [overwrite, put, hfiles]

theorem overwriteAll_overwrite {f : SourceFile} {files : List SourceFile}
    (h : ∀ g ∈ files, ¬ f.path.Same g.path) (s : Store) :
    (s.overwrite f).overwriteAll files = (s.overwriteAll files).overwrite f := by
  induction files generalizing s with
  | nil => rfl
  | cons g files ih =>
      obtain ⟨hfirst, hrest⟩ := List.forall_mem_cons.mp h
      rw [overwriteAll_cons, overwrite_comm hfirst, ih hrest, overwriteAll_cons]

theorem overwriteAll_comm {files others : List SourceFile}
    (h : ∀ f ∈ files, ∀ g ∈ others, ¬ f.path.Same g.path) (s : Store) :
    (s.overwriteAll files).overwriteAll others = (s.overwriteAll others).overwriteAll files := by
  induction files generalizing s with
  | nil => rfl
  | cons f files ih =>
      obtain ⟨hfirst, hrest⟩ := List.forall_mem_cons.mp h
      rw [overwriteAll_cons, ih hrest, overwriteAll_overwrite hfirst, overwriteAll_cons]

theorem content?_overwriteAll {files : List SourceFile} {q : Path}
    (h : ∀ f ∈ files, ¬ f.path.Same q) (s : Store) :
    (s.overwriteAll files).content? q = s.content? q := by
  induction files generalizing s with
  | nil => rfl
  | cons f files ih =>
      obtain ⟨hfirst, hrest⟩ := List.forall_mem_cons.mp h
      have hput : (s.overwrite f).content? q = s.content? q :=
        (content?_put s f.path q f.content).trans (if_neg hfirst)
      rw [overwriteAll_cons, ih hrest, hput]

theorem content?_overwriteAll_of_mem {files : List SourceFile}
    (hapart : files.Pairwise fun f g => ¬ g.path.Same f.path) {file : SourceFile}
    (hfile : file ∈ files) (s : Store) :
    (s.overwriteAll files).content? file.path = some file.content := by
  induction files generalizing s with
  | nil => simp at hfile
  | cons f files ih =>
      obtain ⟨hfirst, hrest⟩ := List.pairwise_cons.mp hapart
      rw [overwriteAll_cons]
      rcases List.mem_cons.mp hfile with rfl | hfile
      · have hput : (s.overwrite file).content? file.path = some file.content :=
          (content?_put s file.path file.path file.content).trans (if_pos rfl)
        rw [content?_overwriteAll hfirst, hput]
      · exact ih hrest hfile _

theorem overwriteAll_ensure (s : Store) (folder : Path) (files : List SourceFile) :
    (s.ensure folder).overwriteAll files = (s.overwriteAll files).ensure folder := by
  induction files generalizing s with
  | nil => rfl
  | cons f files ih =>
      have hfirst : (s.ensure folder).overwrite f = (s.overwrite f).ensure folder := by
        have hsame : (s.overwrite f).isFolder folder = s.isFolder folder := rfl
        cases hthere : s.isFolder folder with
        | true => rw [ensure_of_isFolder hthere, ensure_of_isFolder (hsame.trans hthere)]
        | false =>
            rw [ensure_of_isFolder_eq_false hthere,
              ensure_of_isFolder_eq_false (hsame.trans hthere)]
            rfl
      rw [overwriteAll_cons, hfirst, ih, overwriteAll_cons]

end Store

end RibTree
