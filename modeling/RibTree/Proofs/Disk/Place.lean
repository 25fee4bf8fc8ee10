import RibTree.Disk.Place
import RibTree.Proofs.Disk.Listing

/-!
# Where a path leads

A relative path whose parts are names leads, if it leads anywhere, to the place that the names
spell below the folder where it starts. That a longer path could be followed shows that the
beginning of it can be followed wherever its folders stand.
-/

namespace RibTree

set_option autoImplicit false

theorem exists_of_bind_eq_ok {ε α β : Type} {x : Except ε α} {f : α → Except ε β} {b : β}
    (h : x >>= f = .ok b) : ∃ a, x = .ok a ∧ f a = .ok b := by
  cases x with
  | error e => cases h
  | ok a => exact ⟨a, rfl, h⟩

namespace Hop

/-- What a hop adds to the parts of a path. -/
def part? : Hop → Option Path.Part
  | stay => none
  | up => some .up
  | into name => some (.name name)

theorem bind_part?_ofPiece? (piece : List Char) :
    (ofPiece? piece).bind part? = Path.Part.ofPiece? piece := by
  unfold ofPiece? Path.Part.ofPiece?
  by_cases hEmpty : piece = []
  · simp [hEmpty]
  · by_cases hHere : piece = ['.']
    · simp [hHere, part?]
    · by_cases hUp : piece = ['.', '.']
      · simp [hUp, part?]
      · simp [hEmpty, hHere, hUp, part?]

theorem exists_of_filterMap_cons {hop : Hop} {hops : List Hop} {names : List String}
    (h : (hop :: hops).filterMap part? = names.map .name) :
    ∃ first rest, names = first ++ rest ∧ hop.part?.toList = first.map .name ∧
      hops.filterMap part? = rest.map .name := by
  have hsplit : hop.part?.toList ++ hops.filterMap part? = names.map .name := by
    rw [← h]
    cases hpart : hop.part? <;> simp [hpart]
  obtain ⟨first, rest, hnames, hfirst, hrest⟩ := List.append_eq_map_iff.mp hsplit
  exact ⟨first, rest, hnames, hfirst.symm, hrest.symm⟩

theorem isName_of_ofPiece? {piece : List Char} {name : String} (hslash : '/' ∉ piece)
    (h : ofPiece? piece = some (into name)) : Path.IsName name := by
  unfold ofPiece? at h
  split at h
  · cases h
  · split at h
    · cases h
    · split at h
      · cases h
      · rename_i hEmpty hHere hUp
        have hne : ∀ text : String, piece ≠ text.toList → String.ofList piece ≠ text := by
          rintro text hpiece rfl
          exact hpiece String.toList_ofList.symm
        rw [← Hop.into.inj (Option.some.inj h)]
        exact ⟨hne "" hEmpty, hne "." hHere, hne ".." hUp, by rwa [String.toList_ofList]⟩

theorem ofPiece?_of_isName {name : String} (h : Path.IsName name) :
    ofPiece? name.toList = some (into name) := by
  have hpart := (bind_part?_ofPiece? name.toList).trans (Path.ofPiece?_of_isName h)
  obtain ⟨hop, hhop, hname⟩ := Option.bind_eq_some_iff.mp hpart
  cases hop with
  | stay | up => simp [part?] at hname
  | into own => rw [hhop, Path.Part.name.inj (Option.some.inj hname)]

end Hop

namespace Path

def hops (p : Path) : List Hop := p.pieces.filterMap Hop.ofPiece?

variable {p q : Path} {names : List String} {name : String}

theorem filterMap_hops (p : Path) :
    p.hops.filterMap Hop.part? = p.pieces.filterMap Part.ofPiece? := by
  rw [hops, List.filterMap_filterMap]
  congr 1
  exact funext Hop.bind_part?_ofPiece?

theorem isName_of_mem_hops (h : .into name ∈ p.hops) : IsName name := by
  obtain ⟨piece, hpiece, hname⟩ := List.mem_filterMap.mp h
  exact Hop.isName_of_ofPiece? (Text.notMem_of_mem_pieces hpiece) hname

theorem isAbsolute_of_parts (h : p.parts = names.map .name) : p.isAbsolute = false := by
  rw [← Bool.not_eq_true]
  intro hAbsolute
  rw [parts, if_pos hAbsolute] at h
  cases names <;> simp at h

theorem filterMap_hops_of_parts (h : p.parts = names.map .name) :
    p.hops.filterMap Hop.part? = names.map .name := by
  rw [filterMap_hops]
  rw [parts, isAbsolute_of_parts h, if_neg (by decide)] at h
  split at h
  · cases names <;> simp at h
  · exact h

theorem hops_join (hname : IsName name) : (p.join ⟨name⟩).hops = p.hops ++ [.into name] := by
  have hlast : Hop.ofPiece? name.toList = some (.into name) := Hop.ofPiece?_of_isName hname
  by_cases hp : p.text = ""
  · have hnone : p.hops = [] := by
      rw [hops, pieces, hp]
      rfl
    rw [join_of_text_eq_empty hp, hnone, hops, pieces, Text.pieces_of_notMem hname.2.2.2,
      List.filterMap_cons_some hlast]
    rfl
  · rw [hops, filterMap_pieces_join rfl hp hname.2.2.2, hlast]
    rfl

theorem dropLast_hops_join (p : Path) (hname : IsName name) :
    (p.join ⟨name⟩).hops.dropLast = p.hops := by
  rw [hops_join hname, List.dropLast_concat]

/-- The way to `p` begins the way to `q`, which goes on, and so does its text. -/
structure Above (p q : Path) : Prop where
  text : ∃ rest, q.text = p.text ++ rest
  hops : p.hops <+: q.hops.dropLast

theorem exists_text_join (p : Path) (hname : '/' ∉ name.toList) :
    ∃ rest, (p.join ⟨name⟩).text = p.text ++ rest := by
  rw [join, isAbsolute_eq_false hname, if_neg (by decide)]
  split
  · exact ⟨name, rfl⟩
  · exact ⟨"/" ++ name, String.append_assoc ..⟩

theorem above_join (p : Path) (hname : IsName name) : p.Above (p.join ⟨name⟩) where
  text := exists_text_join p hname.2.2.2
  hops := (dropLast_hops_join p hname).symm ▸ List.prefix_rfl

theorem Above.join (h : p.Above q) (hname : IsName name) : p.Above (q.join ⟨name⟩) where
  text := by
    obtain ⟨rest, hrest⟩ := h.text
    obtain ⟨more, hmore⟩ := exists_text_join q hname.2.2.2
    exact ⟨rest ++ more, by rw [hmore, hrest, String.append_assoc]⟩
  hops := by
    rw [dropLast_hops_join q hname]
    exact h.hops.trans (List.dropLast_prefix _)

/-- A text that a disk takes as a path. -/
def Fits (p : Path) : Prop :=
  '\x00' ∉ p.text.toList ∧ p.text ≠ "" ∧ p.text.utf8ByteSize ≤ maxPathBytes

theorem Above.fits (h : p.Above q) (hp : p.text ≠ "") (hq : q.Fits) : p.Fits := by
  obtain ⟨hnul, -, hsize⟩ := hq
  obtain ⟨rest, hrest⟩ := h.text
  rw [hrest, String.toList_append] at hnul
  rw [hrest, String.utf8ByteSize_append] at hsize
  exact ⟨fun hm => hnul (List.mem_append_left _ hm), hp, by omega⟩

end Path

namespace Disk

def kind? (d : Disk) (place : List String) : Option Kind := d.top.kind? place

variable {d d' : Disk} {p q : Path} {names : List String} {place after : List String}

theorem hasFolder_iff : d.hasFolder place = true ↔ d.kind? place = some .folder := by
  rw [kind?, Listing.kind?_eq_folder_iff, hasFolder, get?]
  rcases d.top.get? place with _ | ⟨_ | _⟩ <;> simp

/-- Where a path starts. -/
def start (d : Disk) (p : Path) : List String := if p.isAbsolute then [] else d.here

theorem start_of_parts (h : p.parts = names.map .name) : d.start p = d.here :=
  if_neg (Bool.eq_false_iff.mp (Path.isAbsolute_of_parts h))

theorem route_of_fits (h : p.Fits) :
    d.route p = .ok ⟨d.start p, p.hops, p.text.toList.getLast? == some '/'⟩ := by
  obtain ⟨hnul, htext, hsize⟩ := h
  simp [route, hnul, htext, Nat.not_lt.mpr hsize, Path.hops, start]

theorem fits_of_route {r : Route} (h : d.route p = .ok r) : p.Fits := by
  simp only [route] at h
  split at h
  · cases h
  · split at h
    · cases h
    · split at h
      · cases h
      · rename_i hnul htext hsize
        exact ⟨hnul, by simpa using htext, Nat.not_lt.mp hsize⟩

/-- What it takes to make a hop, and where it ends. -/
theorem hop_eq_ok_iff {hop : Hop} :
    d.hop place hop = .ok after ↔ d.kind? place = some .folder ∧ match hop with
      | .stay => place = after
      | .up => place.dropLast = after
      | .into name =>
          name.utf8ByteSize ≤ maxNameBytes ∧ d.kind? (place ++ [name]) ≠ none ∧
            place ++ [name] = after := by
  rw [← hasFolder_iff]
  unfold Disk.hop
  cases d.hasFolder place with
  | false => simp
  | true =>
      cases hop with
      | stay | up => simp
      | into name =>
          have hnone : (d.get? (place ++ [name])).isNone = true ↔
              d.kind? (place ++ [name]) = none := by
            simp [kind?, Listing.kind?, get?]
          by_cases hsize : maxNameBytes < name.utf8ByteSize
          · simp [hsize, Nat.not_le.mpr hsize]
          · by_cases hthere : d.kind? (place ++ [name]) = none
            · simp [hsize, hnone.mpr hthere, hthere]
            · have hsome := Bool.eq_false_iff.mpr (mt hnone.mp hthere)
              simp [hsize, hsome, hthere, Nat.not_lt.mp hsize]

theorem exists_of_follow_cons {hop : Hop} {hops : List Hop}
    (h : d.follow place (hop :: hops) = .ok after) :
    ∃ mid, d.hop place hop = .ok mid ∧ d.follow mid hops = .ok after := by
  rw [follow, List.foldlM_cons] at h
  exact exists_of_bind_eq_ok h

theorem exists_of_follow_append {hops more : List Hop}
    (h : d.follow place (hops ++ more) = .ok after) :
    ∃ mid, d.follow place hops = .ok mid ∧ d.follow mid more = .ok after := by
  rw [follow, List.foldlM_append] at h
  exact exists_of_bind_eq_ok h

/-- A hop that names nothing stays, unless it goes up. -/
theorem hop_eq_ok {hop : Hop} {names : List String} (h : d.hop place hop = .ok after)
    (hpart : hop.part?.toList = names.map .name) : after = place ++ names := by
  obtain ⟨-, hafter⟩ := hop_eq_ok_iff.mp h
  cases hop with
  | stay =>
      obtain rfl : names = [] := by simpa [Hop.part?] using hpart.symm
      rw [← hafter, List.append_nil]
  | up =>
      rw [Hop.part?] at hpart
      cases names <;> simp at hpart
  | into name =>
      rw [Hop.part?] at hpart
      obtain rfl : names = [name] := by
        cases names <;> simp_all
      exact hafter.2.2.symm

theorem follow_eq_ok {hops : List Hop} (h : d.follow place hops = .ok after)
    (hnames : hops.filterMap Hop.part? = names.map .name) : after = place ++ names := by
  induction hops generalizing place names with
  | nil =>
      obtain rfl : names = [] := by simpa using hnames.symm
      rw [List.append_nil]
      exact (Except.ok.inj h).symm
  | cons hop hops ih =>
      obtain ⟨mid, hfirst, hrest⟩ := exists_of_follow_cons h
      obtain ⟨first, rest, rfl, hpart, hparts⟩ := Hop.exists_of_filterMap_cons hnames
      rw [ih hrest hparts, hop_eq_ok hfirst hpart, List.append_assoc]

/-- What was followed once can be followed in another state, if it ends at a folder there. -/
theorem follow_of_folder {hops : List Hop} (h : d'.follow place hops = .ok after)
    (hnames : hops.filterMap Hop.part? = names.map .name) (hafter : d.kind? after = some .folder) :
    d.follow place hops = .ok after := by
  induction hops generalizing place names with
  | nil => exact h
  | cons hop hops ih =>
      obtain ⟨mid, hfirst, hrest⟩ := exists_of_follow_cons h
      obtain ⟨first, rest, rfl, hpart, hparts⟩ := Hop.exists_of_filterMap_cons hnames
      have hmid : mid = place ++ first := hop_eq_ok hfirst hpart
      have hend : after = mid ++ rest := follow_eq_ok hrest hparts
      have hfolder : ∀ {start : List String}, start <+: after → d.kind? start = some .folder :=
        fun hstart => Listing.kind?_eq_folder_above hstart hafter
      -- A hop asks for what is on the way to `after`, and that is there.
      have hagain : d.hop place hop = .ok mid := by
        rw [hop_eq_ok_iff] at hfirst ⊢
        refine ⟨hfolder ⟨first ++ rest, by rw [hend, hmid, List.append_assoc]⟩, ?_⟩
        cases hop with
        | stay | up => exact hfirst.2
        | into name =>
            obtain ⟨-, hsize, -, hname⟩ := hfirst
            refine ⟨hsize, ?_, hname⟩
            rw [hname, hfolder ⟨rest, hend.symm⟩]
            simp
      rw [follow, List.foldlM_cons, hagain]
      exact ih hrest hparts

theorem get?_of_locate {e : Entry} (h : d.locate p = .ok e) (hp : p.parts = names.map .name) :
    d.get? (d.here ++ names) = some e := by
  rw [locate] at h
  obtain ⟨r, hroute, h⟩ := exists_of_bind_eq_ok h
  obtain ⟨place, hfollow, h⟩ := exists_of_bind_eq_ok h
  rw [route_of_fits (fits_of_route hroute)] at hroute
  rw [← Except.ok.inj hroute, start_of_parts hp] at hfollow h
  rw [← follow_eq_ok hfollow (Path.filterMap_hops_of_parts hp)]
  rcases hplace : d.get? place with _ | ⟨content | inside⟩
  · rw [hplace] at h
    cases h
  · rw [hplace] at h
    dsimp only at h
    split at h
    · cases h
    · rw [Except.ok.inj h]
  · rw [hplace] at h
    rw [Except.ok.inj h]

theorem locate_of_follow {inside : Listing} (hfits : p.Fits)
    (hfollow : d.follow (d.start p) p.hops = .ok place)
    (hplace : d.get? place = some (.folder inside)) : d.locate p = .ok (.folder inside) := by
  simp [locate, route_of_fits hfits, hfollow, hplace, bind, Except.bind]

/-- The path can be followed to a folder, where it asks for one more name. -/
structure Opens (d : Disk) (p : Path) (folder : List String) (name : String) : Prop where
  fits : p.Fits
  follow : d.follow (d.start p) p.hops.dropLast = .ok folder
  folder : d.kind? folder = some .folder
  hops : p.hops = p.hops.dropLast ++ [.into name]

namespace Opens

variable {folder : List String} {name : String}

theorem of_spot {asksFolder : Bool} (h : d.spot p = .ok ⟨folder, some name, asksFolder⟩) :
    d.Opens p folder name := by
  rw [spot] at h
  obtain ⟨r, hroute, h⟩ := exists_of_bind_eq_ok h
  obtain ⟨place, hfollow, h⟩ := exists_of_bind_eq_ok h
  have hfits := fits_of_route hroute
  rw [route_of_fits hfits] at hroute
  rw [← Except.ok.inj hroute] at hfollow h
  split at h
  · cases h
  · rename_i hfolder
    split at h
    · rename_i last hlast
      obtain ⟨rfl, hname, -⟩ := Spot.mk.inj (Except.ok.inj h)
      obtain rfl := Option.some.inj hname
      obtain ⟨hops, hhops⟩ := List.getLast?_eq_some_iff.mp hlast
      dsimp only at hhops
      refine ⟨hfits, hfollow, hasFolder_iff.mp (by simpa using hfolder), ?_⟩
      rw [hhops, List.dropLast_concat]
    · cases h

theorem isName (h : d.Opens p folder name) : Path.IsName name := by
  have hmem : .into name ∈ p.hops := by
    rw [h.hops]
    exact List.mem_append_right _ List.mem_cons_self
  exact Path.isName_of_mem_hops hmem

theorem place_eq (h : d.Opens p folder name) (hp : p.parts = names.map .name) :
    folder ++ [name] = d.here ++ names := by
  have hfollow := h.follow
  have hnames := Path.filterMap_hops_of_parts hp
  rw [start_of_parts hp] at hfollow
  rw [h.hops, List.filterMap_append] at hnames
  obtain ⟨first, last, rfl, hfirst, hlast⟩ := List.append_eq_map_iff.mp hnames
  have hlast : last.map Path.Part.name = [.name name] := hlast
  obtain ⟨own, rfl, hname⟩ := List.map_eq_singleton_iff.mp hlast
  obtain rfl := Path.Part.name.inj hname
  rw [follow_eq_ok hfollow hfirst.symm, List.append_assoc]

/-- There are folders on the way to what is opened. -/
theorem kind?_of_above {others : List String} (h : d.Opens q folder name)
    (hq : q.parts = others.map .name) (habove : p.Above q) (hp : p.parts = names.map .name) :
    d.kind? (d.here ++ names) = some .folder := by
  have hfollow := h.follow
  have hothers := Path.filterMap_hops_of_parts hq
  obtain ⟨more, hmore⟩ := habove.hops
  rw [start_of_parts hq, ← hmore] at hfollow
  rw [h.hops, ← hmore, List.filterMap_append, List.filterMap_append] at hothers
  obtain ⟨way, -, -, hway, -⟩ := List.append_eq_map_iff.mp hothers
  obtain ⟨-, rest, -, -, hrest⟩ := List.append_eq_map_iff.mp hway.symm
  obtain ⟨mid, hfirst, hlast⟩ := exists_of_follow_append hfollow
  rw [← follow_eq_ok hfirst (Path.filterMap_hops_of_parts hp)]
  exact Listing.kind?_eq_folder_above ⟨rest, (follow_eq_ok hlast hrest.symm).symm⟩ h.folder

/-- Where something could be opened further down, a folder on the way could be looked up. -/
theorem locate_of_above (h : d'.Opens q folder name) {others : List String}
    (hq : q.parts = others.map .name) (hhere : d'.here = d.here) (habove : p.Above q)
    (htext : p.text ≠ "") (hp : p.parts = names.map .name)
    (hfolder : d.kind? (d.here ++ names) = some .folder) :
    ∃ inside, d.locate p = .ok (.folder inside) := by
  have hfollow := h.follow
  have hnames := Path.filterMap_hops_of_parts hp
  obtain ⟨more, hmore⟩ := habove.hops
  rw [start_of_parts hq, hhere, ← hmore] at hfollow
  obtain ⟨mid, hfirst, -⟩ := exists_of_follow_append hfollow
  obtain rfl := follow_eq_ok hfirst hnames
  obtain ⟨inside, hinside⟩ := Listing.kind?_eq_folder_iff.mp hfolder
  refine ⟨inside, locate_of_follow (habove.fits htext h.fits) ?_ hinside⟩
  rw [start_of_parts hp]
  exact follow_of_folder hfirst hnames hfolder

end Opens

end Disk

end RibTree
