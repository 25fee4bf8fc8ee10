import RibTree.Proofs.Fault.Computation
import RibTree.Proofs.Store.Update

/-!
# The journal of a store

Any sequence of operations is done on a store that is empty at first, and a journal keeps each of
them with its answer, the latest first. What was done tells everything about the store: which text
a path has, which folders there are, what is locked and how often a file was written. One operation
changes the store by no more than its own entry says.
-/

namespace RibTree.Store

set_option autoImplicit false

/-- A store is prepared by the first two, which nothing refuses, and called by the others. -/
inductive Operation
  | withFile (path : Path) (content : String)
  | withLocked (path : Path)
  | createFolders (path : Path)
  | write (path : Path) (content : String)
  deriving DecidableEq, Repr

namespace Operation

def path : Operation → Path
  | withFile path _ | withLocked path | createFolders path | write path _ => path

def apply (s : Store) : Operation → Except String Store
  | withFile path content => .ok (s.withFile path content)
  | withLocked path => .ok (s.withLocked path)
  | createFolders path => s.createFolders path
  | write path content => s.write path content

def run (operation : Operation) : StateM Store (Except StorageFailure Unit) :=
  update operation.path operation.apply

/-- The text that is left at `p`, if one is. -/
def text? (p : Path) : Operation → Option String
  | withFile path content | write path content => if path.Same p then some content else none
  | _ => none

/-- The folder that is there afterwards. The empty one stands for none. -/
def folder : Operation → List Path.Part
  | withFile path _ => (Path.Part.parent? path.parts).getD []
  | createFolders path => path.parts
  | _ => []

def lock? : Operation → Option Path
  | withLocked path => some path
  | _ => none

def isWrite : Operation → Bool
  | write _ _ => true
  | _ => false

end Operation

structure Event where
  operation : Operation
  answer : Except StorageFailure Unit
  deriving Repr

structure Journal where
  events : List Event := []
  store : Store := .empty

namespace Journal

def note (j : Journal) (operation : Operation) : Journal :=
  let (answer, store) := operation.run.run j.store
  ⟨⟨operation, answer⟩ :: j.events, store⟩

def ofOperations (operations : List Operation) : Journal := operations.foldl note {}

/-- The operations that succeeded, the latest first. -/
def done (j : Journal) : List Operation :=
  (j.events.filter (·.answer.isOk)).map Event.operation

end Journal

section Steps

variable {s t : Store} {operation : Operation}

/-- What a store becomes by an operation that succeeds, and nothing else. -/
structure Follows (s : Store) (operation : Operation) (t : Store) : Prop where
  content? : ∀ p, t.content? p = (operation.text? p).or (s.content? p)
  hasFolder : ∀ parts, t.hasFolder parts = true ↔
    (parts ≠ [] ∧ parts <+: operation.folder) ∨ s.hasFolder parts = true
  locked : t.locked = operation.lock?.toList ++ s.locked
  writes : t.writes = operation.isWrite.toNat + s.writes

theorem withFile_eq (s : Store) (path : Path) (content : String) :
    s.withFile path content =
      (s.addFolders ((Path.Part.parent? path.parts).getD [])).put path content := by
  rw [withFile]
  cases Path.Part.parent? path.parts <;> rfl

theorem content?_put_eq_or (s : Store) (path p : Path) (content : String) :
    (s.put path content).content? p =
      (if path.Same p then some content else none).or (s.content? p) := by
  rw [content?_put]
  split <;> rfl

theorem follows_of_apply (h : operation.apply s = .ok t) : s.Follows operation t := by
  have hnone : ∀ parts : List Path.Part, ¬ (parts ≠ [] ∧ parts <+: []) :=
    fun parts h => h.1 (List.prefix_nil.mp h.2)
  cases operation with
  | withFile path content =>
      obtain rfl : s.withFile path content = t := Except.ok.inj h
      rw [withFile_eq]
      refine ⟨fun p => content?_put_eq_or _ path p content, fun parts => ?_, rfl,
        (Nat.zero_add _).symm⟩
      exact hasFolder_addFolders_iff.trans or_comm
  | withLocked path =>
      obtain rfl : s.withLocked path = t := Except.ok.inj h
      exact ⟨fun _ => rfl, fun parts => (or_iff_right (hnone parts)).symm, rfl,
        (Nat.zero_add _).symm⟩
  | createFolders path =>
      obtain ⟨-, rfl⟩ := createFolders_eq_ok_iff.mp h
      exact ⟨fun _ => rfl, fun _ => hasFolder_addFolders_iff.trans or_comm, rfl,
        (Nat.zero_add _).symm⟩
  | write path content =>
      obtain ⟨-, -, rfl⟩ := write_eq_ok_iff.mp h
      exact ⟨fun p => content?_put_eq_or s path p content,
        fun parts => (or_iff_right (hnone parts)).symm, rfl, Nat.add_comm _ _⟩

theorem Built.apply (hs : s.Built) (h : operation.apply s = .ok t) : t.Built := by
  cases operation with
  | withFile path content =>
      obtain rfl : s.withFile path content = t := Except.ok.inj h
      exact hs.withFile path content
  | withLocked path =>
      obtain rfl : s.withLocked path = t := Except.ok.inj h
      exact hs.withLocked path
  | createFolders path => exact hs.createFolders path h
  | write path content => exact hs.write path content h

end Steps

/-- The store is the one that the operations, the latest first, have made. -/
structure Told (done : List Operation) (s : Store) : Prop where
  built : s.Built
  content? : ∀ p, s.content? p = done.findSome? (·.text? p)
  hasFolder : ∀ parts, s.hasFolder parts = true ↔
    parts ≠ [] ∧ ∃ operation ∈ done, parts <+: operation.folder
  locked : s.locked = done.filterMap Operation.lock?
  writes : s.writes = done.countP Operation.isWrite

namespace Told

variable {done : List Operation} {s t : Store}

theorem empty : Told [] Store.empty where
  built := .empty
  content? _ := rfl
  hasFolder parts := by
    constructor
    · intro h
      exact absurd h Bool.false_ne_true
    · rintro ⟨-, operation, h, -⟩
      exact absurd h List.not_mem_nil
  locked := rfl
  writes := rfl

theorem cons (h : Told done s) {operation : Operation} (happly : operation.apply s = .ok t) :
    Told (operation :: done) t := by
  have hfollows := follows_of_apply happly
  refine ⟨h.built.apply happly, fun p => ?_, fun parts => ?_, ?_, ?_⟩
  · rw [hfollows.content?, h.content?, List.findSome?_cons]
    cases operation.text? p <;> rfl
  · rw [hfollows.hasFolder, h.hasFolder, List.exists_mem_cons_iff, and_or_left]
  · rw [hfollows.locked, h.locked, List.filterMap_cons]
    cases operation.lock? <;> rfl
  · rw [hfollows.writes, h.writes, List.countP_cons, Nat.add_comm]
    cases operation.isWrite <;> rfl

theorem hasFolder_of_prefix (h : Told done s) {p q : List Path.Part} (hq : s.hasFolder q = true)
    (hp : p ≠ []) (hpq : p <+: q) : s.hasFolder p = true := by
  obtain ⟨-, operation, hdone, hfolder⟩ := (h.hasFolder q).mp hq
  exact (h.hasFolder p).mpr ⟨hp, operation, hdone, hpq.trans hfolder⟩

theorem parents (h : Told done s) {file : StoredFile} (hfile : file ∈ s.files) :
    ∀ parts ∈ Path.Part.parent? file.path.parts, s.HoldsFiles parts :=
  (hasParent_iff s file.path).mp (h.built.wellFormed.parents file hfile)

theorem isLocked_eq_false_iff (h : Told done s) (p : Path) :
    s.isLocked p = false ↔ ∀ lock, .withLocked lock ∈ done → ¬ lock.Contains p := by
  rw [isLocked, h.locked, List.any_eq_false]
  constructor
  · intro hfree lock hlock hcontains
    exact hfree lock (List.mem_filterMap.mpr ⟨_, hlock, rfl⟩) (decide_eq_true hcontains)
  · intro hfree lock hlock hcontains
    obtain ⟨operation, hdone, hlock⟩ := List.mem_filterMap.mp hlock
    cases operation with
    | withLocked path =>
        obtain rfl : path = lock := Option.some.inj hlock
        exact hfree path hdone (of_decide_eq_true hcontains)
    | withFile | createFolders | write => exact absurd hlock (by simp [Operation.lock?])

end Told

namespace Journal

section Notes

variable {j : Journal} {operation : Operation} {t : Store} {reason : String}

theorem note_of_ok (h : operation.apply j.store = .ok t) :
    j.note operation = ⟨⟨operation, .ok ()⟩ :: j.events, t⟩ := by
  have hrun : operation.run.run j.store = (.ok (), t) := by
    change update operation.path operation.apply j.store = _
    rw [update, h]
  rw [note, hrun]

theorem note_of_error (h : operation.apply j.store = .error reason) :
    j.note operation = ⟨⟨operation, .error ⟨operation.path, reason⟩⟩ :: j.events, j.store⟩ := by
  have hrun : operation.run.run j.store = (.error ⟨operation.path, reason⟩, j.store) := by
    change update operation.path operation.apply j.store = _
    rw [update, h]
  rw [note, hrun]

theorem told_note (h : Told j.done j.store) (operation : Operation) :
    Told (j.note operation).done (j.note operation).store := by
  cases happly : operation.apply j.store with
  | ok t =>
      rw [note_of_ok happly]
      exact h.cons happly
  | error reason =>
      rw [note_of_error happly]
      exact h

theorem withLocked_mem_note (j : Journal) (operation : Operation) (lock : Path) :
    .withLocked lock ∈ (j.note operation).done ↔
      .withLocked lock = operation ∨ .withLocked lock ∈ j.done := by
  cases happly : operation.apply j.store with
  | ok t =>
      rw [note_of_ok happly]
      exact List.mem_cons
  | error reason =>
      have hother : .withLocked lock ≠ operation := by
        rintro rfl
        simp [Operation.apply] at happly
      rw [note_of_error happly]
      exact (or_iff_right hother).symm

end Notes

theorem told_foldl (operations : List Operation) (j : Journal) (h : Told j.done j.store) :
    Told (operations.foldl note j).done (operations.foldl note j).store := by
  induction operations generalizing j with
  | nil => exact h
  | cons operation operations ih => exact ih _ (told_note h operation)

theorem told (operations : List Operation) :
    Told (ofOperations operations).done (ofOperations operations).store :=
  told_foldl operations {} Told.empty

theorem operations_foldl (operations : List Operation) (j : Journal) :
    (operations.foldl note j).events.map Event.operation =
      operations.reverse ++ j.events.map Event.operation := by
  induction operations generalizing j with
  | nil => rfl
  | cons operation operations ih =>
      rw [List.foldl_cons, ih, List.reverse_cons, List.append_assoc]
      rfl

theorem withLocked_mem_foldl (operations : List Operation) (j : Journal) (lock : Path) :
    .withLocked lock ∈ (operations.foldl note j).done ↔
      .withLocked lock ∈ operations ∨ .withLocked lock ∈ j.done := by
  induction operations generalizing j with
  | nil => exact (or_iff_right List.not_mem_nil).symm
  | cons operation operations ih =>
      rw [List.foldl_cons, ih, withLocked_mem_note, List.mem_cons, or_left_comm, or_assoc]

end Journal

section Host

variable (template : TemplateKey → Except TemplateFailure String) {s t : Store}

theorem run_host_read (s : Store) (p : Path) :
    ((host template).read p).run s =
      ((s.content? p).elim (.error ⟨p, "No such file"⟩) .ok, s) := by
  change ((s.read p).mapError (StorageFailure.mk p), s) = _
  rw [read]
  cases s.content? p <;> rfl

theorem run_host_write_iff (s : Store) (p : Path) (content : String) :
    (((host template).write p content).run s).1 = .ok () ↔
      s.isLocked p = false ∧ s.hasParent p = true := by
  change (update p (·.write p content) s).1 = _ ↔ _
  rw [update]
  cases h : s.write p content with
  | ok t =>
      obtain ⟨hfree, hparent, -⟩ := write_eq_ok_iff.mp h
      exact iff_of_true rfl ⟨hfree, hparent⟩
  | error reason =>
      refine iff_of_false (fun he => by cases he) ?_
      rintro ⟨hfree, hparent⟩
      rw [write_eq_ok_iff.mpr ⟨hfree, hparent, rfl⟩] at h
      cases h

theorem Operation.run_createFolders (path : Path) :
    (Operation.createFolders path).run = (host template).createFolders path := rfl

theorem Operation.run_write (path : Path) (content : String) :
    (Operation.write path content).run = (host template).write path content := rfl

end Host

/-- After any operations, a store that works as a host is a finite map from parts to texts with a
closed set of folders, and what was done with success decides both. -/
theorem Journal.describes_store (template : TemplateKey → Except TemplateFailure String)
    (operations : List Operation) :
    let j := ofOperations operations
    j.events.map Event.operation = operations.reverse ∧
    (∀ p, ((host template).read p).run j.store =
      ((j.done.findSome? (·.text? p)).elim (.error ⟨p, "No such file"⟩) .ok, j.store)) ∧
    (∀ (operation : Operation) (e : StorageFailure), (operation.run.run j.store).1 = .error e →
      (operation.run.run j.store).2 = j.store) ∧
    j.store.writes = j.done.countP Operation.isWrite ∧
    (∀ file ∈ j.store.files, ∀ parts ∈ Path.Part.parent? file.path.parts,
      j.store.HoldsFiles parts) ∧
    (∀ p q, j.store.hasFolder q = true → p ≠ [] → p <+: q → j.store.hasFolder p = true) ∧
    (∀ parts, j.store.hasFolder parts = true ↔
      parts ≠ [] ∧ ∃ operation ∈ j.done, parts <+: operation.folder) ∧
    ∀ p content, (((host template).write p content).run j.store).1 = .ok () ↔
      (∀ lock, .withLocked lock ∈ operations → ¬ lock.Contains p) ∧
        ∀ parts ∈ Path.Part.parent? p.parts, j.store.HoldsFiles parts := by
  intro j
  have htold : Told j.done j.store := told operations
  have hlocks : ∀ lock, .withLocked lock ∈ j.done ↔ .withLocked lock ∈ operations := fun lock =>
    (withLocked_mem_foldl operations {} lock).trans (or_iff_left List.not_mem_nil)
  refine ⟨?_, fun p => ?_, fun operation e he => ?_, htold.writes, fun file => htold.parents,
    fun p q => htold.hasFolder_of_prefix, htold.hasFolder, fun p content => ?_⟩
  · exact (operations_foldl operations {}).trans (List.append_nil _)
  · rw [run_host_read, htold.content?]
  · obtain ⟨⟨answer, store⟩, hrun⟩ : ∃ result, operation.run.run j.store = result := ⟨_, rfl⟩
    rw [hrun] at he ⊢
    rcases update_cases hrun with ⟨-, -, hstays⟩ | ⟨rfl, -⟩
    · exact hstays
    · cases he
  · rw [run_host_write_iff, htold.isLocked_eq_false_iff, hasParent_iff]
    simp only [hlocks]

end RibTree.Store
