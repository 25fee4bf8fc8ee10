import RibTree.Proofs.Store.Contents
import RibTree.Step

/-!
# Finding a source file by its name

A step looks for a file name among the listed sources. What it finds depends on the files with
that name alone, and rewriting a file does not change it.
-/

namespace RibTree.Store

set_option autoImplicit false

/-- The path is listed under `root` for the extension, and its file has the given name. -/
def Wanted (root : Path) (extension name : String) (p : Path) : Prop :=
  root.Contains p ∧ p.extension? = some extension ∧ p.fileName? = some name

instance (root : Path) (extension name : String) (p : Path) :
    Decidable (Wanted root extension name p) :=
  inferInstanceAs (Decidable (_ ∧ _ ∧ _))

/-- Nothing has an extension with a dot in it. -/
theorem sources_eq_nil {extension : String} (hdot : '.' ∈ extension.toList) (s : Store)
    (root : Path) : s.sources root extension = [] := by
  rw [sources, List.filter_eq_nil_iff]
  intro p _ hp
  rw [Bool.and_eq_true, beq_iff_eq] at hp
  exact Path.dot_notMem_extension? hp.2 hdot

def locate (s : Store) (root : Path) (extension name : String) : Option Path :=
  findFile (s.sources root extension) name

variable {s : Store} {root p q : Path} {extension name content : String}

theorem Wanted.congr (h : Wanted root extension name p) (hpq : p.Same q) :
    Wanted root extension name q :=
  ⟨hpq.contains_iff.mp h.1, hpq.extension?_eq ▸ h.2.1, hpq.fileName?_eq ▸ h.2.2⟩

theorem locate_eq_find? (s : Store) (root : Path) (extension name : String) :
    s.locate root extension name =
      (s.files.map StoredFile.path).find? fun p => Wanted root extension name p := by
  rw [locate, findFile, sources, List.find?_filter]
  congr 1
  funext p
  refine Bool.eq_iff_iff.mpr (Iff.trans ?_ decide_eq_true_iff.symm)
  simp [Wanted, and_assoc]

theorem hasFile_of_mem {f : StoredFile} (hf : f ∈ s.files) : s.hasFile f.path = true := by
  rw [hasFile_iff]
  exact List.mem_map_of_mem (f := fun f : StoredFile => f.path.parts) hf

theorem exists_mem_of_hasFile (h : s.hasFile q = true) : ∃ f ∈ s.files, f.path.Same q := by
  rw [hasFile_iff] at h
  obtain ⟨f, hf, hq⟩ := List.mem_map.mp h
  exact ⟨f, hf, hq⟩

theorem WellFormed.hasParent_of_content? (h : s.WellFormed) (hp : s.content? p = some content) :
    s.hasParent p = true := by
  obtain ⟨f, hf, hsame⟩ := exists_mem_of_hasFile ((hasFile_iff_content? s p).mpr ⟨content, hp⟩)
  have hparent := h.parents f hf
  rw [hasParent_iff] at hparent ⊢
  rw [← show f.path.parts = p.parts from hsame]
  exact hparent

theorem locate_eq_some (h : s.locate root extension name = some p) :
    s.hasFile p = true ∧ Wanted root extension name p := by
  rw [locate_eq_find?] at h
  obtain ⟨f, hf, rfl⟩ := List.mem_map.mp (List.mem_of_find?_eq_some h)
  exact ⟨hasFile_of_mem hf, by simpa using List.find?_some h⟩

theorem locate_isSome_iff : (s.locate root extension name).isSome = true ↔
    ∃ q, s.hasFile q = true ∧ Wanted root extension name q := by
  constructor
  · intro h
    obtain ⟨p, hp⟩ := Option.isSome_iff_exists.mp h
    exact ⟨p, locate_eq_some hp⟩
  · rintro ⟨q, hq, hw⟩
    obtain ⟨f, hf, hfq⟩ := exists_mem_of_hasFile hq
    rw [locate_eq_find?, List.find?_isSome]
    exact ⟨f.path, List.mem_map_of_mem hf, by simpa using hw.congr hfq.symm⟩

theorem locate_congr {t : Store} (h : t.files = s.files) :
    t.locate root extension name = s.locate root extension name := by
  rw [locate_eq_find?, locate_eq_find?, h]

theorem locate_put_of_not_wanted (h : ¬ Wanted root extension name p) :
    (s.put p content).locate root extension name = s.locate root extension name := by
  rw [locate_eq_find?, locate_eq_find?]
  change ((insertFile s.files ⟨p, content⟩).map StoredFile.path).find? _ = _
  induction s.files with
  | nil => simp [insertFile, insertAscending, h]
  | cons g files ih =>
      simp only [insertFile, insertAscending] at ih ⊢
      split
      · simp [h]
      · rfl
      · rw [List.map_cons, List.map_cons, List.find?_cons, List.find?_cons, ih]

theorem map_path_insertFile {files : List StoredFile} {f : StoredFile}
    (hAscending : Ascending compare (files.map fun g => g.path.parts))
    (hf : f.path.parts ∈ files.map fun g => g.path.parts) :
    (insertFile files f).map StoredFile.path = files.map StoredFile.path := by
  induction files with
  | nil => simp at hf
  | cons g files ih =>
      obtain ⟨hlt, hrest⟩ := List.pairwise_cons.mp hAscending
      simp only [insertFile, insertAscending] at ih ⊢
      split
      · rename_i hfg
        rcases List.mem_cons.mp hf with he | hm
        · rw [StoredFile.compareParts, he, Std.ReflOrd.compare_self] at hfg
          exact absurd hfg (by decide)
        · have hfg : compare f.path.parts g.path.parts = .lt := hfg
          have hgt := Std.OrientedCmp.gt_of_lt hfg
          have hgf : compare g.path.parts f.path.parts = .lt := hlt _ hm
          rw [hgf] at hgt
          exact absurd hgt (by decide)
      · rfl
      · rename_i hfg
        rcases List.mem_cons.mp hf with he | hm
        · rw [StoredFile.compareParts, he, Std.ReflOrd.compare_self] at hfg
          exact absurd hfg (by decide)
        · rw [List.map_cons, List.map_cons, ih hrest hm]

theorem WellFormed.locate_put_of_hasFile (h : s.WellFormed) (hp : s.hasFile p = true) :
    (s.put p content).locate root extension name = s.locate root extension name := by
  have hpaths : (s.put p content).files.map StoredFile.path = s.files.map StoredFile.path :=
    map_path_insertFile h.ascending ((hasFile_iff s p).mp hp)
  rw [locate_eq_find?, locate_eq_find?, hpaths]

end RibTree.Store
