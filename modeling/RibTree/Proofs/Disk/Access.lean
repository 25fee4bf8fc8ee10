import RibTree.Disk.Access
import RibTree.Proofs.Disk.Place

/-!
# What a call does to a disk

A file that could be written stands at the place of its path and nothing else has changed. Creating
folders, whether it succeeds or not, fills places where nothing stood. Sources are the files below
their root.
-/

namespace RibTree

set_option autoImplicit false

namespace Disk

/-- `d'` has a file or an empty folder at one place, and all else as in `d`. -/
structure Puts (d : Disk) (place : List String) (kind : Kind) (d' : Disk) : Prop where
  here : d'.here = d.here
  sound : d.top.Sound → d'.top.Sound
  /-- No folder is replaced. -/
  free : d.kind? place ≠ some .folder
  kind? : ∀ other, d'.kind? other = if other = place then some kind else d.kind? other

/-- Folders have been created, and nothing else. -/
structure Grows (d d' : Disk) : Prop where
  here : d'.here = d.here
  sound : d.top.Sound → d'.top.Sound
  kind? : ∀ place, d'.kind? place = d.kind? place ∨
    d.kind? place = none ∧ d'.kind? place = some .folder

variable {d d' d'' : Disk} {p : Path} {names place : List String}

theorem Grows.refl (d : Disk) : d.Grows d := ⟨rfl, id, fun _ => Or.inl rfl⟩

theorem Grows.trans (h : d.Grows d') (h' : d'.Grows d'') : d.Grows d'' where
  here := h'.here.trans h.here
  sound := h'.sound ∘ h.sound
  kind? place := by
    rcases h'.kind? place with hlast | ⟨hnone, hlast⟩
    · rw [hlast]
      exact h.kind? place
    · rcases h.kind? place with hfirst | ⟨-, hfirst⟩
      · exact Or.inr ⟨hfirst ▸ hnone, hlast⟩
      · rw [hfirst] at hnone
        cases hnone

theorem Grows.kind?_eq_file_iff (h : d.Grows d') {content : ByteArray} :
    d'.kind? place = some (.file content) ↔ d.kind? place = some (.file content) := by
  rcases h.kind? place with hsame | ⟨hnone, hfolder⟩
  · rw [hsame]
  · simp [hnone, hfolder]

theorem Grows.kind?_eq_folder (h : d.Grows d') (hplace : d.kind? place = some .folder) :
    d'.kind? place = some .folder := by
  rcases h.kind? place with hsame | ⟨-, hfolder⟩
  · rw [hsame, hplace]
  · exact hfolder

theorem Puts.kind?_eq_folder {kind : Kind} (h : d.Puts place kind d') {other : List String}
    (hother : d.kind? other = some .folder) : d'.kind? other = some .folder := by
  rw [h.kind?, if_neg, hother]
  rintro rfl
  exact h.free hother

theorem Puts.grows (h : d.Puts place .folder d') (hplace : d.kind? place = none) :
    d.Grows d' where
  here := h.here
  sound := h.sound
  kind? other := by
    rw [h.kind?]
    by_cases hother : other = place
    · exact Or.inr ⟨hother ▸ hplace, if_pos hother⟩
    · exact Or.inl (if_neg hother)

theorem Opens.puts {folder : List String} {name : String} (h : d.Opens p folder name) {e : Entry}
    (hleaf : ∀ below ≠ [], e.get? below = none) (he : e.Sound)
    (hplace : d.kind? (folder ++ [name]) ≠ some .folder) :
    d.Puts (folder ++ [name]) e.kind (d.put (folder ++ [name]) e) :=
  ⟨rfl, fun hsound => hsound.put he h.isName folder, hplace,
    Listing.kind?_put hleaf h.folder hplace⟩

/-! ### Folders -/

theorem grows_of_createFolder (h : d.createFolder p = .ok d') : d.Grows d' := by
  rw [createFolder] at h
  obtain ⟨⟨folder, name?, asksFolder⟩, hspot, h⟩ := exists_of_bind_eq_ok h
  cases name? with
  | none => cases h
  | some name =>
      dsimp only at h
      split at h
      · cases h
      · split at h
        · cases h
        · rename_i hnone
          have hnone : d.kind? (folder ++ [name]) = none := by
            rw [kind?, Listing.kind?, Option.map_eq_none_iff]
            simpa [get?] using hnone
          rw [← Except.ok.inj h]
          have hleaf : ∀ below ≠ [], (Entry.folder .empty).get? below = none := by
            intro below hbelow
            obtain ⟨first, below, rfl⟩ := List.exists_cons_of_ne_nil hbelow
            rw [Entry.get?, Listing.get?_cons]
            rfl
          exact ((Opens.of_spot hspot).puts hleaf trivial (by simp [hnone])).grows hnone

theorem grows_ensureFolder (d : Disk) (p : Path) : d.Grows (d.ensureFolder p).2 := by
  rw [ensureFolder]
  split
  · rename_i hcreated
    exact grows_of_createFolder hcreated
  · exact .refl d

theorem grows_ensureFolders (d : Disk) (paths : List Path) : d.Grows (d.ensureFolders paths).2 := by
  induction paths with
  | nil => exact .refl d
  | cons path above ih =>
      rw [ensureFolders]
      split
      · exact .refl d
      · split
        · cases hready : d.ensureFolders above with
          | mk result ready =>
              rw [hready] at ih
              cases result with
              | error e => exact ih
              | ok => exact ih.trans (grows_ensureFolder ready path)
        · exact grows_ensureFolder d path

theorem grows_createFolders (d : Disk) (p : Path) : d.Grows (d.createFolders p).2 :=
  grows_ensureFolders d _

/-! ### Files -/

theorem exists_of_write {text : String} (h : d.write p text = .ok d') :
    ∃ folder name, d.Opens p folder name ∧
      d.Puts (folder ++ [name]) (.file text.toUTF8) d' := by
  rw [write, writeBytes] at h
  obtain ⟨⟨folder, name?, asksFolder⟩, hspot, h⟩ := exists_of_bind_eq_ok h
  cases name? with
  | none => cases h
  | some name =>
      refine ⟨folder, name, .of_spot hspot, ?_⟩
      dsimp only at h
      split at h
      · cases h
      · split at h
        · cases h
        · split at h
          · cases h
          · rename_i hfolder
            rw [← Except.ok.inj h]
            have hleaf : ∀ below ≠ [], (Entry.file text.toUTF8).get? below = none := by
              intro below hbelow
              obtain ⟨first, below, rfl⟩ := List.exists_cons_of_ne_nil hbelow
              rfl
            exact (Opens.of_spot hspot).puts hleaf trivial (mt hasFolder_iff.mpr hfolder)

theorem puts_of_write {text : String} (h : d.write p text = .ok d')
    (hp : p.parts = names.map .name) : d.Puts (d.here ++ names) (.file text.toUTF8) d' := by
  obtain ⟨folder, name, hopens, hputs⟩ := exists_of_write h
  rwa [hopens.place_eq hp] at hputs

theorem toUTF8_of_fromUTF8? {content : ByteArray} {text : String}
    (h : String.fromUTF8? content = some text) : text.toUTF8 = content := by
  unfold String.fromUTF8? at h
  split at h
  · cases h
    rfl
  · cases h

theorem kind?_of_read {text : String} (h : d.read p = .ok text) (hp : p.parts = names.map .name) :
    d.kind? (d.here ++ names) = some (.file text.toUTF8) := by
  rw [read, bytes] at h
  cases hlocate : d.locate p with
  | error e =>
      rw [hlocate] at h
      cases h
  | ok e =>
      have hget := get?_of_locate hlocate hp
      rw [hlocate] at h
      cases e with
      | folder inside => cases h
      | file content =>
          dsimp only at h
          split at h
          · rename_i hutf8
            obtain rfl := Except.ok.inj h
            rw [toUTF8_of_fromUTF8? hutf8]
            exact Listing.kind?_eq_file_iff.mpr hget
          · cases h

/-! ### Sources -/

/-- What is below a root, as it is listed. -/
def below (root : Path) (place : List String) : Path :=
  place.foldl (fun path name => path.join ⟨name⟩) root

theorem parts_below (root : Path) (hplace : ∀ name ∈ place, Path.IsName name) :
    (below root place).parts = root.parts ++ place.map .name := by
  induction place generalizing root with
  | nil => simp [below]
  | cons name place ih =>
      obtain ⟨hname, hrest⟩ := List.forall_mem_cons.mp hplace
      have hfirst : below root (name :: place) = below (root.join ⟨name⟩) place := rfl
      rw [hfirst, ih _ hrest, Path.parts_join hname]
      simp

theorem sources_of_locate {root : Path} {inside : Listing}
    (h : d.locate root = .ok (.folder inside)) (extension : String) :
    d.sources root extension =
      (inside.files.map (below root)).filter fun path => path.extension? == some extension := by
  rw [sources, h]
  rfl

theorem sources_eq_nil {root : Path} (h : ∀ inside, d.locate root ≠ .ok (.folder inside))
    (extension : String) : d.sources root extension = [] := by
  rw [sources]
  split
  · rename_i hlocate
    exact absurd hlocate (h _)
  · rfl

end Disk

end RibTree
