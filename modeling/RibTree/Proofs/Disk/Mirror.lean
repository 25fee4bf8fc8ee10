import Mathlib.Data.List.Nodup
import Mathlib.Data.List.Sort
import RibTree.Proofs.Disk.Access
import RibTree.Proofs.Store.Listing
import RibTree.Proofs.Store.Update

/-!
# A store as the mirror of a disk

A store mirrors what stands below a folder of a disk when it holds the same files. It may know of
other folders, because it creates none of its own accord and never lists them. What is written to
both stays mirrored, and a folder of the disk lists the files that the store lists under its path,
in the same order.
-/

namespace RibTree

set_option autoImplicit false

/-- Ascending lists with the same members are equal. -/
theorem Ascending.eq_of_mem_iff {α : Type} {cmp : α → α → Ordering} [Std.OrientedCmp cmp]
    {l m : List α} (hl : Ascending cmp l) (hm : Ascending cmp m) (h : ∀ a, a ∈ l ↔ a ∈ m) :
    l = m := by
  have hirrefl : Std.Irrefl fun a b => cmp a b = .lt :=
    ⟨fun a ha => by simp [Std.ReflCmp.compare_self] at ha⟩
  have hantisymm : Std.Antisymm fun a b => cmp a b = .lt :=
    ⟨fun a b hab hba => by simp [Std.OrientedCmp.gt_of_lt hab] at hba⟩
  exact List.Pairwise.eq_of_mem_iff hl hm h

theorem compare_append_left (start l m : List Path.Part) :
    compare (start ++ l) (start ++ m) = compare l m := by
  induction start with
  | nil => rfl
  | cons part start ih =>
      rw [List.cons_append, List.cons_append, List.compare_cons_cons, Std.ReflOrd.compare_self, ih]
      rfl

theorem Path.map_name_injective : Function.Injective (List.map Part.name) :=
  List.map_injective_iff.mpr fun _ _ => Part.name.inj

theorem Path.prefix_of_map_name {names others : List String}
    (h : names.map Part.name <+: others.map Part.name) : names <+: others := by
  obtain ⟨rest, hrest⟩ := h
  obtain ⟨first, last, rfl, hfirst, -⟩ := List.map_eq_append_iff.mp hrest.symm
  exact ⟨last, by rw [Path.map_name_injective hfirst]⟩

/-- What is looked for by its parts is found under any spelling. -/
theorem find?_of_map_parts_eq {l m : List Path} (h : l.map Path.parts = m.map Path.parts)
    {accepts : Path → Bool} (hsame : ∀ p q : Path, p.Same q → accepts p = accepts q) :
    (l.find? accepts).map Path.parts = (m.find? accepts).map Path.parts := by
  induction l generalizing m with
  | nil =>
      obtain rfl : m = [] := List.map_eq_nil_iff.mp h.symm
      rfl
  | cons p l ih =>
      obtain ⟨q, m, rfl, hfirst, hrest⟩ := List.map_eq_cons_iff.mp h.symm
      rw [List.find?_cons, List.find?_cons, hsame q p hfirst]
      cases accepts p with
      | true => exact congrArg some hfirst.symm
      | false => exact ih hrest.symm

theorem Store.WellFormed.content?_of_mem {t : Store} (h : t.WellFormed) {f : StoredFile}
    (hf : f ∈ t.files) : t.content? f.path = some f.content := by
  have hnodup : (t.files.map fun f => f.path.parts).Nodup := by
    refine h.ascending.imp ?_
    intro parts others hlt heq
    simp [heq, Std.ReflOrd.compare_self] at hlt
  obtain ⟨g, hg⟩ := Option.isSome_iff_exists.mp (Store.hasFile_of_mem hf)
  have hsame : g.path.Same f.path := by simpa using List.find?_some hg
  have hsame : g.path.parts = f.path.parts := hsame
  rw [content?, hg, List.inj_on_of_nodup_map hnodup (List.mem_of_find?_eq_some hg) hf hsame]
  rfl

theorem Store.WellFormed.ensure {t : Store} (h : t.WellFormed) (folder : Path) :
    (t.ensure folder).WellFormed := by
  unfold Store.ensure
  split
  · exact h
  · exact h.addFolders folder.parts

/-- The store `t` holds the files that stand on `d` below the folder from which paths start. -/
structure Mirrors (home : List String) (d : Disk) (t : Store) : Prop where
  here : d.here = home
  folder : d.kind? home = some .folder
  sound : d.top.Sound
  /-- The files are texts. -/
  text : ∀ names content, d.kind? (home ++ names) = some (.file content) →
    ∃ text : String, text.toUTF8 = content
  wellFormed : t.WellFormed
  free : t.locked = []
  /-- The store has no other files than those below the folder. -/
  named : ∀ f ∈ t.files, ∃ names : List String, f.path.parts = names.map .name
  content : ∀ (p : Path) (names : List String), p.parts = names.map .name → ∀ text : String,
    t.content? p = some text ↔ d.kind? (home ++ names) = some (.file text.toUTF8)

namespace Mirrors

variable {home : List String} {d d' : Disk} {t : Store}

theorem ensure (h : Mirrors home d t) (hgrows : d.Grows d') (folder : Path) :
    Mirrors home d' (t.ensure folder) where
  here := hgrows.here.trans h.here
  folder := hgrows.kind?_eq_folder h.folder
  sound := hgrows.sound h.sound
  text names content hfile := h.text names content (hgrows.kind?_eq_file_iff.mp hfile)
  wellFormed := h.wellFormed.ensure folder
  free := by rw [Store.locked_ensure, h.free]
  named := by
    rw [Store.files_ensure]
    exact h.named
  content p names hp text := by
    have hsame : (t.ensure folder).content? p = t.content? p := by
      rw [Store.content?, Store.find?, Store.files_ensure]
      rfl
    rw [hsame, hgrows.kind?_eq_file_iff]
    exact h.content p names hp text

/-- A text is written on the disk and, under any spelling of the path, in the store. -/
theorem overwrite (h : Mirrors home d t) {p q : Path} {names : List String} {text : String}
    (hwrite : d.write p text = .ok d') (hp : p.parts = names.map .name) (hsame : q.Same p)
    (hparent : t.hasParent q = true) : Mirrors home d' (t.overwrite ⟨q, text⟩) := by
  have hputs := Disk.puts_of_write hwrite hp
  rw [h.here] at hputs
  refine ⟨hputs.here.trans h.here, hputs.kind?_eq_folder h.folder, hputs.sound h.sound, ?_,
    (h.wellFormed.put hparent text).of_files_eq rfl fun _ hf => hf, h.free, ?_, ?_⟩
  · intro others content hfile
    rw [hputs.kind?] at hfile
    split at hfile
    · exact ⟨text, Kind.file.inj (Option.some.inj hfile)⟩
    · exact h.text others content hfile
  · intro f hf
    rcases Store.WellFormed.mem_insertFile hf with hparts | hf
    · exact ⟨names, hparts.trans (Eq.trans hsame hp)⟩
    · exact h.named f hf
  · intro r others hr other
    have hplace : q.Same r ↔ home ++ others = home ++ names := by
      rw [Path.Same, show q.parts = p.parts from hsame, hp, hr, List.append_right_inj,
        Path.map_name_injective.eq_iff, eq_comm]
    have hput : (t.overwrite ⟨q, text⟩).content? r =
        if q.Same r then some text else t.content? r := Store.content?_put t q r text
    rw [hput, hputs.kind?]
    by_cases hother : q.Same r
    · rw [if_pos hother, if_pos (hplace.mp hother)]
      simp [String.toByteArray_inj]
    · rw [if_neg hother, if_neg (mt hplace.mpr hother)]
      exact h.content r others hr other

theorem hasFile_iff (h : Mirrors home d t) {p : Path} {names : List String}
    (hp : p.parts = names.map .name) :
    t.hasFile p = true ↔ ∃ content, d.kind? (home ++ names) = some (.file content) := by
  rw [Store.hasFile_iff_content?]
  constructor
  · rintro ⟨text, htext⟩
    exact ⟨_, (h.content p names hp text).mp htext⟩
  · rintro ⟨content, hfile⟩
    obtain ⟨text, rfl⟩ := h.text names content hfile
    exact ⟨text, (h.content p names hp text).mpr hfile⟩

theorem names_of_hasFile (h : Mirrors home d t) {p : Path} (hp : t.hasFile p = true) :
    ∃ names : List String, p.parts = names.map .name := by
  obtain ⟨f, hf, hsame⟩ := Store.exists_mem_of_hasFile hp
  obtain ⟨names, hnames⟩ := h.named f hf
  exact ⟨names, Eq.trans (Eq.symm hsame) hnames⟩

/-- The files below a folder, with what they contain, are those of the store under its path. -/
theorem contents_eq (h : Mirrors home d t) {target : List String} {inside : Listing}
    (hinside : d.get? (home ++ target) = some (.folder inside)) :
    (inside.contents.map fun (place, content) => ((target ++ place).map Path.Part.name, content)) =
      (t.files.filter fun f => target.map Path.Part.name <+: f.path.parts).map
        fun f => (f.path.parts, f.content.toUTF8) := by
  have hsound : inside.Sound := h.sound.get? hinside
  have hplace : ∀ place content, inside.get? place = some (.file content) ↔
      d.kind? (home ++ (target ++ place)) = some (.file content) := by
    intro place content
    rw [← Listing.kind?_eq_file_iff, ← List.append_assoc, Disk.kind?,
      Listing.kind?_append_of_folder hinside]
  have hlisting : Ascending (compareOn Prod.fst) (inside.contents.map
      fun (place, content) => ((target ++ place).map Path.Part.name, content)) := by
    refine List.pairwise_map.mpr ((List.pairwise_map.mp (Listing.ascending_contents hsound)).imp ?_)
    rintro ⟨place, _⟩ ⟨other, _⟩ hlt
    simpa [compareOn, compare_append_left] using hlt
  have hfiles : Ascending (compareOn Prod.fst)
      ((t.files.filter fun f => target.map Path.Part.name <+: f.path.parts).map
        fun f => (f.path.parts, f.content.toUTF8)) :=
    List.pairwise_map.mpr ((List.pairwise_map.mp h.wellFormed.ascending).sublist
      List.filter_sublist)
  refine hlisting.eq_of_mem_iff hfiles ?_
  rintro ⟨parts, content⟩
  constructor
  · intro hmem
    obtain ⟨⟨place, own⟩, hentry, heq⟩ := List.mem_map.mp hmem
    obtain ⟨rfl, rfl⟩ := Prod.mk.inj heq
    have hget := (Listing.mem_contents_iff hsound).mp hentry
    have hfile := (hplace place own).mp hget
    have hnames : ∀ name ∈ home ++ (target ++ place), Path.IsName name :=
      h.sound.isName_of_get? (Listing.kind?_eq_file_iff.mp hfile)
    have hp : (Disk.below ⟨""⟩ (target ++ place)).parts = (target ++ place).map .name :=
      Disk.parts_below ⟨""⟩ fun name hname => hnames name (List.mem_append_right _ hname)
    obtain ⟨f, hf, hsame⟩ := Store.exists_mem_of_hasFile ((h.hasFile_iff hp).mpr ⟨own, hfile⟩)
    have hparts : f.path.parts = (target ++ place).map .name := Eq.trans hsame hp
    refine List.mem_map.mpr ⟨f, List.mem_filter.mpr ⟨hf, ?_⟩, ?_⟩
    · rw [decide_eq_true_eq, hparts, List.map_append]
      exact List.prefix_append _ _
    · have hcontent := (h.content f.path _ hparts f.content).mp (h.wellFormed.content?_of_mem hf)
      rw [hfile] at hcontent
      rw [hparts, Kind.file.inj (Option.some.inj hcontent)]
  · intro hmem
    obtain ⟨f, hf, heq⟩ := List.mem_map.mp hmem
    obtain ⟨rfl, rfl⟩ := Prod.mk.inj heq
    obtain ⟨hfiles, hprefix⟩ := List.mem_filter.mp hf
    obtain ⟨names, hnames⟩ := h.named f hfiles
    rw [decide_eq_true_eq, hnames] at hprefix
    obtain ⟨place, rfl⟩ := Path.prefix_of_map_name hprefix
    have hcontent := (h.content f.path _ hnames f.content).mp (h.wellFormed.content?_of_mem hfiles)
    refine List.mem_map.mpr ⟨(place, f.content.toUTF8), ?_, by rw [hnames]⟩
    exact (Listing.mem_contents_iff hsound).mpr ((hplace _ _).mpr hcontent)

/-- A folder of the disk and the store find a source under the same path. -/
theorem findFile_sources (h : Mirrors home d t) {root : Path} {target : List String}
    {inside : Listing} (hroot : root.parts = target.map .name)
    (hlocate : d.locate root = .ok (.folder inside)) (extension name : String) :
    (findFile (d.sources root extension) name).map Path.parts =
      (t.locate root extension name).map Path.parts := by
  have hinside : d.get? (home ++ target) = some (.folder inside) := by
    rw [← h.here]
    exact Disk.get?_of_locate hlocate hroot
  have hbelow : ∀ entry ∈ inside.contents,
      (Disk.below root entry.1).parts = (target ++ entry.1).map .name := by
    intro entry hentry
    have hsound : inside.Sound := h.sound.get? hinside
    rw [Disk.parts_below root (hsound.isName_of_get? ((Listing.mem_contents_iff hsound).mp hentry)),
      hroot, List.map_append]
  have hparts : (inside.files.map (Disk.below root)).map Path.parts =
      ((t.files.map StoredFile.path).filter fun p => root.Contains p).map Path.parts := by
    have hcontents := congrArg (List.map Prod.fst) (h.contents_eq hinside)
    rw [List.map_map, List.map_map] at hcontents
    rw [Listing.files_eq_map_contents, List.map_map, List.map_map, List.filter_map, List.map_map]
    refine (List.map_congr_left hbelow).trans (hcontents.trans ?_)
    rw [← hroot]
    rfl
  have hlisted : t.sources root extension =
      ((t.files.map StoredFile.path).filter fun p => root.Contains p).filter
        fun p => p.extension? == some extension := by
    rw [Store.sources, List.filter_filter]
    exact List.filter_congr fun p _ => Bool.and_comm ..
  rw [Disk.sources_of_locate hlocate, Store.locate, hlisted, findFile, findFile, List.find?_filter,
    List.find?_filter]
  refine find?_of_map_parts_eq hparts ?_
  intro p q hpq
  rw [hpq.extension?_eq, hpq.fileName?_eq]

/-- A root with files in the store could be listed if something could be written below it. -/
theorem locate_of_write (h : Mirrors home d t) {d'' : Disk} {root p q : Path}
    {target names : List String} {text : String} (hroot : root.parts = target.map .name)
    (htarget : target ≠ []) (hp : t.hasFile p = true) (hcontains : root.Contains p)
    (hgrows : d.Grows d') (hwrite : d'.write q text = .ok d'') (hq : q.parts = names.map .name)
    (habove : root.Above q) : ∃ inside, d.locate root = .ok (.folder inside) := by
  obtain ⟨folder, name, hopens, -⟩ := Disk.exists_of_write hwrite
  have htext : root.text ≠ "" := by
    intro htext
    rw [Path.parts_of_text_eq_empty htext] at hroot
    exact htarget (List.map_eq_nil_iff.mp hroot.symm)
  refine hopens.locate_of_above hq hgrows.here habove htext hroot ?_
  have hthen : d'.kind? (d.here ++ target) = some .folder := by
    rw [← hgrows.here]
    exact hopens.kind?_of_above hq habove hroot
  rcases hgrows.kind? (d.here ++ target) with hsame | ⟨hnone, -⟩
  · rw [← hsame, hthen]
  · -- Nothing stood at the root, and yet a file below it.
    obtain ⟨others, hothers⟩ := h.names_of_hasFile hp
    obtain ⟨content, hfile⟩ := (h.hasFile_iff hothers).mp hp
    rw [Path.Contains, hroot, hothers] at hcontains
    obtain ⟨place, rfl⟩ := Path.prefix_of_map_name hcontains
    rw [h.here] at hnone
    rw [← List.append_assoc, Disk.kind?, Listing.kind?_append_of_none hnone] at hfile
    cases hfile

end Mirrors

end RibTree
