import RibTree.Proofs.Run.Agreement

/-!
# The sources of a disk and of a seeded store

A disk lists the sources below a folder by walking it, and a store that is seeded with the same
files by filtering all of them. Both list the same paths in the same order, because the walk visits
the files in the order of their parts. A disk refuses some texts that a store takes for a path: the
empty one, and those that are longer than its limit.
-/

namespace RibTree

set_option autoImplicit false

/-- The names of the files, and of the folders above them, are such as a disk can hold. -/
def Listing.Storable (l : Listing) : Prop :=
  ∀ entry ∈ l.contents, ∀ name ∈ entry.1,
    '\x00' ∉ name.toList ∧ name.utf8ByteSize ≤ maxNameBytes

instance : DecidablePred Listing.Storable := fun l =>
  inferInstanceAs (Decidable (∀ entry ∈ l.contents, ∀ name ∈ entry.1,
    '\x00' ∉ name.toList ∧ name.utf8ByteSize ≤ maxNameBytes))

/-- The folder `tree`, in which the disk starts, and a store with its files have the same sources
under `root`, and so the same builder for every component. -/
def SameSources (d : Disk) (tree : Listing) (root : Path) (extension : String) : Prop :=
  let onDisk := d.sources root extension
  let inStore := (Store.seeded tree.texts).sources root extension
  onDisk.map Path.parts = inStore.map Path.parts ∧
    ∀ s parent, (Step.builder? s onDisk parent).map Path.parts =
      (Step.builder? s inStore parent).map Path.parts

/-! ### Roots that a disk takes -/

theorem Text.exists_mem_pieces {mark c : Char} {s : List Char} (h : c ∈ s) (hc : c ≠ mark) :
    ∃ piece ∈ pieces mark s, c ∈ piece := by
  induction s with
  | nil => simp at h
  | cons a s ih =>
      rw [pieces]
      split
      · rename_i ha
        rcases List.mem_cons.mp h with rfl | h
        · exact absurd ha hc
        · obtain ⟨piece, hpiece, hmem⟩ := ih h
          exact ⟨piece, List.mem_cons_of_mem _ hpiece, hmem⟩
      · cases hs : pieces mark s with
        | nil => exact absurd hs (pieces_ne_nil mark s)
        | cons first rest =>
            rcases List.mem_cons.mp h with rfl | h
            · exact ⟨_, List.mem_cons_self, List.mem_cons_self⟩
            · obtain ⟨piece, hpiece, hmem⟩ := ih h
              rw [hs] at hpiece
              rcases List.mem_cons.mp hpiece with rfl | hpiece
              · exact ⟨_, List.mem_cons_self, List.mem_cons_of_mem a hmem⟩
              · exact ⟨piece, List.mem_cons_of_mem _ hpiece, hmem⟩

/-- A character that no slash or dot is stands in one of the names of a path. -/
theorem Path.exists_mem_names {p : Path} {names : List String} (hp : p.parts = names.map .name)
    {c : Char} (h : c ∈ p.text.toList) (hslash : c ≠ '/') (hdot : c ≠ '.') :
    ∃ name ∈ names, c ∈ name.toList := by
  obtain ⟨piece, hpiece, hc⟩ := Text.exists_mem_pieces h hslash
  have hpart : Part.ofPiece? piece = some (.name (String.ofList piece)) := by
    have hne : ∀ dots : List Char, c ∉ dots → piece ≠ dots := by
      rintro dots hdots rfl
      exact hdots hc
    simp [Part.ofPiece?, hne [] (by simp), hne ['.'] (by simpa), hne ['.', '.'] (by simpa)]
  have hmem : Part.name (String.ofList piece) ∈ names.map Part.name := by
    rw [← filterMap_hops_of_parts hp, filterMap_hops]
    exact List.mem_filterMap.mpr ⟨piece, hpiece, hpart⟩
  obtain ⟨name, hname, heq⟩ := List.mem_map.mp hmem
  refine ⟨name, hname, ?_⟩
  rw [Part.name.inj heq, String.toList_ofList]
  exact hc

namespace Disk

variable {d : Disk} {root : Path} {target place : List String} {inside tree : Listing}

/-- A way along names leads to a folder that is there. -/
theorem follow_of_names {hops : List Hop} (hnames : hops.filterMap Hop.part? = target.map .name)
    (hsize : ∀ name ∈ target, name.utf8ByteSize ≤ maxNameBytes)
    (hfolder : d.kind? (place ++ target) = some .folder) :
    d.follow place hops = .ok (place ++ target) := by
  induction hops generalizing place target with
  | nil =>
      obtain rfl : target = [] := by simpa using hnames.symm
      rw [List.append_nil]
      rfl
  | cons hop hops ih =>
      obtain ⟨first, rest, rfl, hpart, hrest⟩ := Hop.exists_of_filterMap_cons hnames
      obtain ⟨hfirst, hlater⟩ := List.forall_mem_append.mp hsize
      rw [← List.append_assoc] at hfolder ⊢
      have hmid : d.kind? (place ++ first) = some .folder :=
        Listing.kind?_eq_folder_above (List.prefix_append _ _) hfolder
      have hhop : d.hop place hop = .ok (place ++ first) := by
        refine hop_eq_ok_iff.mpr
          ⟨Listing.kind?_eq_folder_above (List.prefix_append _ _) hmid, ?_⟩
        cases hop with
        | stay =>
            obtain rfl : first = [] := by simpa [Hop.part?] using hpart.symm
            exact (List.append_nil place).symm
        | up => cases first <;> simp [Hop.part?] at hpart
        | into name =>
            obtain rfl : first = [name] := by cases first <;> simp_all [Hop.part?]
            exact ⟨hfirst name List.mem_cons_self, by rw [hmid]; simp, rfl⟩
      rw [follow, List.foldlM_cons, hhop]
      exact ih hrest hlater hfolder

/-- What a store lists under a root that is no file can be walked on the disk. -/
theorem locate_of_mem_contents (htree : d.get? d.here = some (.folder tree)) (hsound : tree.Sound)
    (hstorable : tree.Storable) (hroot : root.parts = target.map .name) (htarget : target ≠ [])
    (hsize : root.text.utf8ByteSize ≤ maxPathBytes)
    (hfile : ∀ content, tree.get? target ≠ some (.file content))
    {entry : List String × ByteArray} (hentry : entry ∈ tree.contents) (habove : target <+: entry.1) :
    ∃ inside, d.locate root = .ok (.folder inside) := by
  have hget := (Listing.mem_contents_iff hsound).mp hentry
  obtain ⟨below, hbelow⟩ := habove
  have hnames : ∀ name ∈ target, '\x00' ∉ name.toList ∧ name.utf8ByteSize ≤ maxNameBytes :=
    fun name hname => hstorable entry hentry name (hbelow ▸ List.mem_append_left below hname)
  have hfolder : d.kind? (d.here ++ target) = some .folder := by
    rw [kind?, Listing.kind?_append_of_folder htree]
    rw [← hbelow] at hget
    refine Listing.kind?_eq_folder_of_append (?_ : below ≠ []) ?_
    · rintro rfl
      rw [List.append_nil] at hget
      exact hfile _ hget
    · rw [Listing.kind?_eq_file_iff.mpr hget]
      simp
  obtain ⟨inside, hinside⟩ := Listing.kind?_eq_folder_iff.mp hfolder
  refine ⟨inside, locate_of_follow ⟨?_, ?_, hsize⟩ ?_ hinside⟩
  · intro hnul
    obtain ⟨name, hname, hmem⟩ := Path.exists_mem_names hroot hnul (by decide) (by decide)
    exact (hnames name hname).1 hmem
  · intro htext
    rw [Path.parts_of_text_eq_empty htext] at hroot
    exact htarget (List.map_eq_nil_iff.mp hroot.symm)
  · rw [start_of_parts hroot]
    exact follow_of_names (Path.filterMap_hops_of_parts hroot) (fun name hname => (hnames name hname).2)
      hfolder

end Disk

/-! ### The two listings -/

theorem Path.map_parts_filter {l m : List Path} (h : l.map parts = m.map parts)
    {accepts : Path → Bool} (hsame : ∀ p q : Path, p.Same q → accepts p = accepts q) :
    (l.filter accepts).map parts = (m.filter accepts).map parts := by
  induction l generalizing m with
  | nil =>
      obtain rfl : m = [] := List.map_eq_nil_iff.mp h.symm
      rfl
  | cons p l ih =>
      obtain ⟨q, m, rfl, hfirst, hrest⟩ := List.map_eq_cons_iff.mp h.symm
      rw [List.filter_cons, List.filter_cons, hsame q p hfirst]
      split
      · rw [List.map_cons, List.map_cons, hfirst, ih hrest.symm]
      · exact ih hrest.symm

namespace Store

theorem mem_fileParts_withFile {s : Store} {path : Path} {content : String}
    {parts : List Path.Part} :
    parts ∈ (s.withFile path content).fileParts ↔ parts = path.parts ∨ parts ∈ s.fileParts := by
  rw [fileParts, files_withFile, map_parts_insertFile]
  constructor
  · exact mem_insertAscending
  · rintro (rfl | h)
    · exact mem_insertAscending_self _ _
    · exact mem_insertAscending_of_mem h

theorem mem_fileParts_seeded {files : List SourceFile} {parts : List Path.Part} :
    parts ∈ (seeded files).fileParts ↔ ∃ file ∈ files, file.path.parts = parts := by
  have hfold : ∀ s : Store, parts ∈
      (files.foldl (fun store file => store.withFile file.path file.content) s).fileParts ↔
        parts ∈ s.fileParts ∨ ∃ file ∈ files, file.path.parts = parts := by
    induction files with
    | nil => simp
    | cons file files ih =>
        intro s
        rw [List.foldl_cons, ih, mem_fileParts_withFile, List.exists_mem_cons_iff, or_assoc,
          or_left_comm, eq_comm]
  exact (hfold .empty).trans (or_iff_right List.not_mem_nil)

end Store

namespace Listing

variable {l inside : Listing} {target : List String}

/-- The parts of the paths of the files. -/
def fileParts (l : Listing) : List (List Path.Part) := l.contents.map fun entry => entry.1.map .name

theorem ascending_fileParts (h : l.Sound) : Ascending compare l.fileParts := ascending_contents h

theorem mem_fileParts_iff (h : l.Sound) {names : List String} :
    names.map Path.Part.name ∈ l.fileParts ↔ ∃ content, l.get? names = some (.file content) := by
  constructor
  · intro hmem
    obtain ⟨⟨place, content⟩, hentry, heq⟩ := List.mem_map.mp hmem
    obtain rfl : place = names := Path.map_name_injective heq
    exact ⟨content, (mem_contents_iff h).mp hentry⟩
  · rintro ⟨content, hget⟩
    exact List.mem_map.mpr ⟨(names, content), (mem_contents_iff h).mpr hget, rfl⟩

/-- A seeded store has its files in the order of the walk. -/
theorem fileParts_seeded (h : l.Sound) : (Store.seeded l.texts).fileParts = l.fileParts := by
  refine (Store.built_seeded _).wellFormed.ascending.eq_of_mem_iff (ascending_fileParts h) ?_
  intro parts
  rw [Store.mem_fileParts_seeded, fileParts, List.mem_map]
  constructor
  · rintro ⟨file, hfile, rfl⟩
    obtain ⟨entry, hentry, rfl⟩ := List.mem_map.mp hfile
    exact ⟨entry, hentry, (parts_of_mem_contents h hentry).symm⟩
  · rintro ⟨entry, hentry, rfl⟩
    exact ⟨_, List.mem_map_of_mem hentry, parts_of_mem_contents h hentry⟩

/-- The walk of a folder is a part of the walk of one above it. -/
theorem map_append_fileParts (h : l.Sound) (hinside : l.get? target = some (.folder inside)) :
    inside.fileParts.map (target.map Path.Part.name ++ ·) =
      l.fileParts.filter (target.map Path.Part.name <+: ·) := by
  have hsound : inside.Sound := h.get? hinside
  have hbelow : ∀ place, l.get? (target ++ place) = inside.get? place := by
    intro place
    rw [get?_append, hinside]
    rfl
  have hascending : Ascending compare (inside.fileParts.map (target.map Path.Part.name ++ ·)) := by
    refine List.pairwise_map.mpr ((ascending_fileParts hsound).imp ?_)
    intro place other hlt
    rw [compare_append_left]
    exact hlt
  refine hascending.eq_of_mem_iff ((ascending_fileParts h).sublist List.filter_sublist) ?_
  intro parts
  rw [List.mem_filter, decide_eq_true_eq]
  constructor
  · intro hmem
    obtain ⟨place, hplace, rfl⟩ := List.mem_map.mp hmem
    obtain ⟨⟨names, content⟩, hentry, rfl⟩ := List.mem_map.mp hplace
    have hget := (mem_contents_iff hsound).mp hentry
    refine ⟨?_, List.prefix_append _ _⟩
    rw [← List.map_append]
    exact (mem_fileParts_iff h).mpr ⟨content, (hbelow names).trans hget⟩
  · rintro ⟨hmem, hprefix⟩
    obtain ⟨⟨names, content⟩, hentry, rfl⟩ := List.mem_map.mp hmem
    obtain ⟨place, rfl⟩ := Path.prefix_of_map_name hprefix
    have hget := (mem_contents_iff h).mp hentry
    refine List.mem_map.mpr ⟨place.map .name, ?_, List.map_append.symm⟩
    exact (mem_fileParts_iff hsound).mpr ⟨content, (hbelow place).symm.trans hget⟩

end Listing

section

variable {d : Disk} {tree inside : Listing} {root : Path} {target : List String}

theorem map_parts_below (hsound : inside.Sound) (hroot : root.parts = target.map .name) :
    (inside.files.map (Disk.below root)).map Path.parts =
      inside.fileParts.map (target.map Path.Part.name ++ ·) := by
  rw [Listing.files_eq_map_contents, Listing.fileParts, List.map_map, List.map_map, List.map_map]
  refine List.map_congr_left fun entry hentry => ?_
  have hnames := hsound.isName_of_get? ((Listing.mem_contents_iff hsound).mp hentry)
  exact (Disk.parts_below root hnames).trans (by rw [hroot]; rfl)

theorem map_parts_contained (hsound : tree.Sound) (hroot : root.parts = target.map .name) :
    (((Store.seeded tree.texts).files.map StoredFile.path).filter
        fun p => root.Contains p).map Path.parts =
      tree.fileParts.filter (target.map Path.Part.name <+: ·) := by
  rw [← Listing.fileParts_seeded hsound, Store.fileParts, ← hroot, List.filter_map, List.filter_map,
    List.map_map]
  rfl

theorem Store.sources_eq (t : Store) (root : Path) (extension : String) :
    t.sources root extension =
      ((t.files.map StoredFile.path).filter fun p => root.Contains p).filter
        fun p => p.extension? == some extension := by
  rw [Store.sources, List.filter_filter]
  exact List.filter_congr fun p _ => Bool.and_comm ..

theorem map_parts_sources (htree : d.get? d.here = some (.folder tree)) (hsound : tree.Sound)
    (hstorable : tree.Storable) (hroot : root.parts = target.map .name) (htarget : target ≠ [])
    (hsize : root.text.utf8ByteSize ≤ maxPathBytes)
    (hfile : ∀ content, tree.get? target ≠ some (.file content)) (extension : String) :
    (d.sources root extension).map Path.parts =
      ((Store.seeded tree.texts).sources root extension).map Path.parts := by
  have hextension : ∀ p q : Path, p.Same q →
      (p.extension? == some extension) = (q.extension? == some extension) := by
    intro p q hpq
    rw [hpq.extension?_eq]
  rw [Store.sources_eq]
  by_cases hlocate : ∃ inside, d.locate root = .ok (.folder inside)
  · obtain ⟨inside, hlocate⟩ := hlocate
    have hinside : tree.get? target = some (.folder inside) := by
      have hget := Disk.get?_of_locate hlocate hroot
      rw [Disk.get?, Listing.get?_append, show d.top.get? d.here = _ from htree] at hget
      exact hget
    rw [Disk.sources_of_locate hlocate]
    refine Path.map_parts_filter ?_ hextension
    rw [map_parts_below (hsound.get? hinside) hroot, map_parts_contained hsound hroot,
      Listing.map_append_fileParts hsound hinside]
  · have hnone : tree.fileParts.filter (target.map Path.Part.name <+: ·) = [] := by
      refine List.filter_eq_nil_iff.mpr ?_
      intro parts hparts hprefix
      obtain ⟨entry, hentry, rfl⟩ := List.mem_map.mp hparts
      exact hlocate (Disk.locate_of_mem_contents htree hsound hstorable hroot htarget hsize hfile
        hentry (Path.prefix_of_map_name (of_decide_eq_true hprefix)))
    rw [Disk.sources_eq_nil fun inside h => hlocate ⟨inside, h⟩]
    rw [← map_parts_contained hsound hroot, List.map_eq_nil_iff] at hnone
    rw [hnone]
    rfl

end

/-- Where the text of a root is no longer than a disk allows, names at least one part and stands
for no file, the disk and the store list the same. -/
theorem sources_agree {d : Disk} {tree : Listing}
    (htree : d.get? d.here = some (.folder tree)) (hsound : tree.Sound) (hstorable : tree.Storable)
    {root : Path} {target : List String} (hroot : root.parts = target.map .name)
    (htarget : target ≠ []) (hsize : root.text.utf8ByteSize ≤ maxPathBytes)
    (hfile : ∀ content, tree.get? target ≠ some (.file content)) (extension : String) :
    SameSources d tree root extension := by
  have hlists := map_parts_sources htree hsound hstorable hroot htarget hsize hfile extension
  refine ⟨hlists, fun s parent => ?_⟩
  refine find?_of_map_parts_eq hlists fun p q hpq => ?_
  rw [hpq.fileName?_eq]

/-- Files of one name in folders whose names begin alike, under a root that is not written in the
shortest way. -/
theorem sources_agree_of_like_names :
    let folder : Listing := .file "ABuilder.swift" "".toUTF8 .empty
    let inside : Listing := .folder "a" folder (.folder "a-b" folder (.file "a.swift" "".toUTF8 .empty))
    let tree : Listing := .folder "Sources" inside .empty
    tree.Sound ∧ tree.Storable ∧ SameSources ⟨tree, []⟩ tree ⟨"Sources//"⟩ "swift" := by
  intro folder inside tree
  have hsound : tree.Sound := by decide
  have hstorable : tree.Storable := by decide +kernel
  have hroot : (⟨"Sources//"⟩ : Path).parts = ["Sources"].map .name := by decide
  refine ⟨hsound, hstorable, sources_agree (d := ⟨tree, []⟩) rfl hsound hstorable hroot (by decide)
    (by decide) (fun content h => ?_) "swift"⟩
  have hfolder : tree.get? ["Sources"] = some (.folder inside) := rfl
  rw [hfolder] at h
  cases h

theorem Store.sources_congr {p q : Path} (h : p.Same q) (t : Store) (extension : String) :
    t.sources p extension = t.sources q extension := by
  have hcontains : ∀ path, p.Contains path ↔ q.Contains path := fun path =>
    Iff.of_eq (congrArg (· <+: path.parts) h)
  simp only [sources, hcontains]

/-- A name with slashes behind it. -/
def Path.slashed (count : Nat) : Path := ⟨String.ofList ('S' :: List.replicate count '/')⟩

theorem Path.parts_slashed (count : Nat) : (slashed count).parts = [.name "S"] := by
  have hslashes : ∀ n, Text.pieces '/' (List.replicate n '/') = List.replicate (n + 1) [] := by
    intro n
    induction n with
    | zero => rfl
    | succ n ih => rw [List.replicate_succ, Text.pieces, if_pos rfl, ih, ← List.replicate_succ]
  have hpieces : (slashed count).pieces = ['S'] :: List.replicate count [] := by
    rw [pieces, slashed, String.toList_ofList, Text.pieces, if_neg (by decide), hslashes,
      List.replicate_succ]
  have hnone : (List.replicate count ([] : List Char)).filterMap Part.ofPiece? = [] := by
    refine List.filterMap_eq_nil_iff.mpr fun piece hpiece => ?_
    rw [List.eq_of_mem_replicate hpiece]
    rfl
  have hrelative : (slashed count).isAbsolute = false := by
    rw [isAbsolute, slashed, String.toList_ofList]
    rfl
  have hname : Part.ofPiece? ['S'] = some (.name "S") := rfl
  rw [parts, hrelative, hpieces, List.filterMap_cons_some hname, hnone]
  rfl

theorem Path.utf8ByteSize_slashed (count : Nat) : (slashed count).text.utf8ByteSize = count + 1 := by
  have hslashes : ∀ n, (String.ofList (List.replicate n '/')).utf8ByteSize = n := by
    intro n
    induction n with
    | zero => rfl
    | succ n ih =>
        rw [List.replicate_succ', String.ofList_append, String.utf8ByteSize_append, ih]
        rfl
  rw [slashed, ← List.singleton_append, String.ofList_append, String.utf8ByteSize_append, hslashes,
    Nat.add_comm]
  rfl

/-- The empty path is nowhere on a disk, and a text that is too long is refused. A store takes the
one for the folder that all files are in and the other for a path like any other. -/
theorem not_sources_agree :
    let inside : Listing := .file "A.swift" "".toUTF8 .empty
    let tree : Listing := .folder "S" inside .empty
    let root : Path := .slashed 4095
    tree.Sound ∧ tree.Storable ∧
      (⟨""⟩ : Path).parts = [].map .name ∧ ¬ SameSources ⟨tree, []⟩ tree ⟨""⟩ "swift" ∧
      root.parts = ["S"].map .name ∧ tree.get? ["S"] = some (.folder inside) ∧
      ¬ SameSources ⟨tree, []⟩ tree root "swift" := by
  intro inside tree root
  have hroot : root.parts = ["S"].map .name := Path.parts_slashed 4095
  refine ⟨by decide, by decide +kernel, rfl, ?_, hroot, rfl, ?_⟩
  · intro h
    exact absurd (congrArg List.length h.1) (by decide +kernel)
  · intro h
    have hnone : (⟨tree, []⟩ : Disk).sources root "swift" = [] := by
      refine Disk.sources_eq_nil (fun inside hlocate => ?_) "swift"
      rw [Disk.locate] at hlocate
      obtain ⟨route, hroute, -⟩ := exists_of_bind_eq_ok hlocate
      have hsize := (Disk.fits_of_route hroute).2.2
      rw [Path.utf8ByteSize_slashed] at hsize
      exact absurd hsize (by decide)
    have hsame : root.Same ⟨"S"⟩ := hroot
    have hlengths := congrArg List.length h.1
    rw [hnone, Store.sources_congr hsame] at hlengths
    exact absurd hlengths (by decide +kernel)

end RibTree
