import Mathlib.Data.Set.Function
import RibTree.Proofs.Path.Join
import RibTree.Step

/-!
# Artifacts

The files that the program creates, each with its name and its place. Names without a plus sign
make different artifacts out of different components and pairs, so that among created files a file
name finds one artifact, and every artifact of an extension without a dot is found again when the
sources are listed.
-/

namespace RibTree

set_option autoImplicit false

/-- A file that the program creates. -/
inductive Artifact
  | role (target : String) (role : Role)
  | extension (parent child : String)
  deriving DecidableEq, Repr

/-- A name that is one part of a path and not a pair of names. -/
def IsPlain (name : String) : Prop := '/' ∉ name.toList ∧ '+' ∉ name.toList

instance (name : String) : Decidable (IsPlain name) := inferInstanceAs (Decidable (_ ∧ _))

namespace Artifact

/-- The names of components that it is built from. -/
def names : Artifact → List String
  | role target _ => [target]
  | extension parent child => [parent, child]

def stem : Artifact → String
  | role target r => r.stem target
  | extension parent child => extensionStem parent child

def fileName (s : Settings) (a : Artifact) : String :=
  s.fileName a.stem

def folder (s : Settings) : Artifact → Path
  | role target _ => s.componentFolder target
  | extension parent _ => s.extensionFolder parent

def path (s : Settings) : Artifact → Path
  | role target r => s.roleFile target r
  | extension parent child => s.extensionFile parent child

theorem path_eq_join (s : Settings) (a : Artifact) :
    a.path s = (a.folder s).join ⟨a.fileName s⟩ := by
  cases a <;> rfl

/-- Six characters tell the roles apart, and none of them has fewer. -/
theorem role_eq_of_append {t u : List Char} {r q : Role}
    (h : t ++ r.text.toList = u ++ q.text.toList) : r = q := by
  have hlen : ∀ r : Role, 6 ≤ r.text.toList.length := by
    intro r
    cases r <;> decide
  have hlast : ∀ (t : List Char) (r : Role),
      (t ++ r.text.toList).reverse.take 6 = r.text.toList.reverse.take 6 := by
    intro t r
    have := hlen r
    rw [List.reverse_append, List.take_append_of_le_length (by simpa using this)]
  have hsix : r.text.toList.reverse.take 6 = q.text.toList.reverse.take 6 := by
    rw [← hlast t r, h, hlast u q]
  cases r <;> cases q <;> first | rfl | exact absurd hsix (by decide)

theorem stem_toList (a : Artifact) :
    a.stem.toList = match a with
      | role target r => target.toList ++ r.text.toList
      | extension parent child => (parent.toList ++ "Component".toList) ++ '+' :: child.toList := by
  cases a <;> simp [stem, Role.stem, extensionStem]

theorem plus_notMem_role (r : Role) : '+' ∉ r.text.toList := by cases r <;> decide

theorem stem_injective {a b : Artifact} (ha : ∀ n ∈ a.names, '+' ∉ n.toList)
    (hb : ∀ n ∈ b.names, '+' ∉ n.toList) (h : a.stem = b.stem) : a = b := by
  have hl : a.stem.toList = b.stem.toList := by rw [h]
  rw [stem_toList, stem_toList] at hl
  have hrole : ∀ (target : String) (r : Role), '+' ∉ target.toList →
      '+' ∉ target.toList ++ r.text.toList := by
    intro target r ht hm
    rcases List.mem_append.mp hm with hm | hm
    · exact ht hm
    · exact plus_notMem_role r hm
  have hcomp : ∀ parent : String, '+' ∉ parent.toList →
      '+' ∉ parent.toList ++ "Component".toList := by
    intro parent hp hm
    rcases List.mem_append.mp hm with hm | hm
    · exact hp hm
    · exact absurd hm (by decide)
  cases a with
  | role target r =>
      have ht : '+' ∉ target.toList := ha target (by simp [names])
      cases b with
      | role other q =>
          obtain rfl := role_eq_of_append hl
          rw [String.toList_injective (List.append_cancel_right hl)]
      | extension parent child =>
          have he : target.toList ++ r.text.toList =
              (parent.toList ++ "Component".toList) ++ '+' :: child.toList := hl
          exact absurd (he ▸ List.mem_append_right _ List.mem_cons_self) (hrole target r ht)
  | extension parent child =>
      have hp : '+' ∉ parent.toList := ha parent (by simp [names])
      cases b with
      | role other q =>
          have ho : '+' ∉ other.toList := hb other (by simp [names])
          have he : (parent.toList ++ "Component".toList) ++ '+' :: child.toList =
              other.toList ++ q.text.toList := hl
          exact absurd (he ▸ List.mem_append_right _ List.mem_cons_self) (hrole other q ho)
      | extension parent' child' =>
          have hc : '+' ∉ child.toList := ha child (by simp [names])
          obtain ⟨hfront, -, hback⟩ :=
            (List.append_cons_inj_of_notMem (hcomp parent hp) hc).mp hl
          rw [String.toList_injective (List.append_cancel_right hfront),
            String.toList_injective hback]

theorem fileName_toList (s : Settings) (a : Artifact) :
    (a.fileName s).toList = a.stem.toList ++ '.' :: s.fileExtension.toList := by
  simp [fileName, Settings.fileName]

theorem fileName_injective {s : Settings} {a b : Artifact} (ha : ∀ n ∈ a.names, '+' ∉ n.toList)
    (hb : ∀ n ∈ b.names, '+' ∉ n.toList) (h : a.fileName s = b.fileName s) : a = b := by
  apply stem_injective ha hb
  apply String.toList_injective
  have hsuffix : a.stem.toList ++ '.' :: s.fileExtension.toList =
      b.stem.toList ++ '.' :: s.fileExtension.toList := by
    rw [← fileName_toList, ← fileName_toList, h]
  exact List.append_cancel_right hsuffix

theorem six_le_length_stem (a : Artifact) : 6 ≤ a.stem.toList.length := by
  rw [stem_toList]
  cases a with
  | role target r => cases r <;> simp [Role.text]
  | extension parent child => simp; omega

section

variable {s : Settings} (hslash : '/' ∉ s.fileExtension.toList)
include hslash

theorem isName_fileName {a : Artifact} (ha : ∀ n ∈ a.names, '/' ∉ n.toList) :
    Path.IsName (a.fileName s) := by
  have hlen : 6 ≤ (a.fileName s).toList.length := by
    have := six_le_length_stem a
    rw [fileName_toList, List.length_append]
    omega
  have hshort : ∀ t : String, t.toList.length < 6 → a.fileName s ≠ t := by
    intro t ht he
    rw [he] at hlen
    omega
  refine ⟨hshort _ (by decide), hshort _ (by decide), hshort _ (by decide), ?_⟩
  have hstem : '/' ∉ a.stem.toList := by
    rw [stem_toList]
    cases a with
    | role target r =>
        have ht : '/' ∉ target.toList := ha target (by simp [names])
        cases r <;> simp [Role.text, ht]
    | extension parent child =>
        have hp : '/' ∉ parent.toList := ha parent (by simp [names])
        have hc : '/' ∉ child.toList := ha child (by simp [names])
        simp [hp, hc]
  rw [fileName_toList]
  simp [hstem, hslash]

theorem fileName?_path {a : Artifact} (ha : ∀ n ∈ a.names, '/' ∉ n.toList) :
    (a.path s).fileName? = some (a.fileName s) := by
  rw [path_eq_join, Path.fileName?_join (isName_fileName hslash ha)]

/-- An artifact is told by the name of its file. -/
theorem eq_of_fileName?_path {a b : Artifact} (ha : ∀ n ∈ a.names, IsPlain n)
    (hb : ∀ n ∈ b.names, IsPlain n)
    (h : (a.path s).fileName? = some (b.fileName s)) : a = b := by
  rw [fileName?_path hslash fun n hn => (ha n hn).1] at h
  exact fileName_injective (fun n hn => (ha n hn).2) (fun n hn => (hb n hn).2) (Option.some.inj h)

theorem parent?_parts_path {a : Artifact} (ha : ∀ n ∈ a.names, '/' ∉ n.toList) :
    Path.Part.parent? (a.path s).parts = some (a.folder s).parts := by
  rw [path_eq_join, Path.parent?_parts_join (isName_fileName hslash ha)]

theorem contains_path {a : Artifact} (ha : ∀ n ∈ a.names, '/' ∉ n.toList) :
    s.targetDirectory.Contains (a.path s) := by
  have hlast : (a.folder s).Contains (a.path s) := by
    rw [path_eq_join]
    exact Path.contains_join (isName_fileName hslash ha).2.2.2
  refine Path.Contains.trans ?_ hlast
  cases a with
  | role target r => exact Path.contains_join (ha target (by simp [names]))
  | extension parent child =>
      exact Path.Contains.trans (Path.contains_join (ha parent (by simp [names])))
        (Path.contains_join (by decide))

theorem extension?_path (hdot : '.' ∉ s.fileExtension.toList) {a : Artifact}
    (ha : ∀ n ∈ a.names, '/' ∉ n.toList) : (a.path s).extension? = some s.fileExtension := by
  have hstem : a.stem.toList ≠ [] := by
    intro he
    have := six_le_length_stem a
    simp [he] at this
  rw [Path.extension?, fileName?_path hslash ha, Option.bind_some, fileName_toList,
    Path.extensionOf?_append hstem hdot, Option.map_some, String.ofList_toList]

end

/-- The listing shows the files of these artifacts, however their paths are spelled. -/
def Listed (s : Settings) (made : List Artifact) (listing : List Path) : Prop :=
  List.Forall₂ (fun a path => path.Same (a.path s)) made listing

section

variable {s : Settings} {a b : Artifact} (hslash : '/' ∉ s.fileExtension.toList)
include hslash

theorem findFile_of_listed {made : List Artifact} {listing : List Path}
    (h : Listed s made listing) (hmade : ∀ b ∈ made, ∀ n ∈ b.names, IsPlain n)
    (ha : ∀ n ∈ a.names, IsPlain n) :
    ((findFile listing (a.fileName s)).isSome ↔ a ∈ made) ∧
      ∀ path, findFile listing (a.fileName s) = some path → path.Same (a.path s) := by
  induction h with
  | nil => simp [findFile]
  | @cons b path made listing hsame _ ih =>
      have hrest := ih fun c hc => hmade c (List.mem_cons_of_mem b hc)
      have hb := hmade b List.mem_cons_self
      by_cases hab : b = a
      · have hfound : findFile (path :: listing) (a.fileName s) = some path := by
          have hname := hsame.fileName?_eq.trans (fileName?_path hslash fun n hn => (hb n hn).1)
          rw [findFile, List.find?_cons_of_pos (by simp [hname, hab])]
        rw [hfound]
        refine ⟨by simp [hab], fun found hpath => ?_⟩
        rw [← Option.some.inj hpath, ← hab]
        exact hsame
      · have hskip : findFile (path :: listing) (a.fileName s) =
            findFile listing (a.fileName s) := by
          have hne : ¬ path.fileName? = some (a.fileName s) := fun hname =>
            hab (eq_of_fileName?_path hslash hb ha (hsame.fileName?_eq.symm.trans hname))
          rw [findFile, List.find?_cons_of_neg (by simpa using hne), findFile]
        rw [hskip, hrest.1, List.mem_cons]
        exact ⟨(or_iff_right (Ne.symm hab)).symm, hrest.2⟩

end

/-- Artifacts whose names have no plus sign have different file names. So among generated files a
file name finds the file of its artifact, and finds it exactly if it is there. -/
theorem fileName_identifies (s : Settings) :
    Set.InjOn (fileName s) {a | ∀ n ∈ a.names, '+' ∉ n.toList} ∧
    ('/' ∉ s.fileExtension.toList → ∀ (made : List Artifact) (listing : List Path),
      Listed s made listing → (∀ b ∈ made, ∀ n ∈ b.names, IsPlain n) →
      ∀ a : Artifact, (∀ n ∈ a.names, IsPlain n) →
        ((findFile listing (a.fileName s)).isSome ↔ a ∈ made) ∧
          ∀ path, findFile listing (a.fileName s) = some path → path.Same (a.path s)) := by
  refine ⟨fun a ha b hb h => fileName_injective ha hb h, ?_⟩
  intro hslash made listing hlisted hmade a ha
  exact findFile_of_listed hslash hlisted hmade ha

/-- Names that end like roles, and a file with another spelling of its path. -/
theorem fileName_identifies_of_role_names :
    let s : Settings := { targetDirectory := ⟨"Sources"⟩ }
    let made := [role "ABuilder" .router, extension "A" "Builder", role "A" .builder]
    let listing : List Path := [⟨"Sources/ABuilder/ABuilderRouter.swift"⟩,
      ⟨"Sources//A/./Dependencies/AComponent+Builder.swift"⟩, ⟨"Sources/A/ABuilder.swift"⟩]
    Listed s made listing ∧ (∀ b ∈ made, ∀ n ∈ b.names, IsPlain n) ∧
      (findFile listing "AComponent+Builder.swift").isSome ∧
      ¬ (findFile listing "AComponentBuilder.swift").isSome ∧
      (role "A" .router).fileName s ≠ (role "ABuilder" .router).fileName s := by
  intro s made listing
  have hlisted : Listed s made listing :=
    .cons (by decide +kernel) (.cons (by decide +kernel) (.cons (by decide +kernel) .nil))
  have hmade : ∀ b ∈ made, ∀ n ∈ b.names, IsPlain n := by decide +kernel
  obtain ⟨hinj, hfind⟩ := fileName_identifies s
  have hslash : '/' ∉ s.fileExtension.toList := by decide +kernel
  have hthere := (hfind hslash made listing hlisted hmade (extension "A" "Builder")
    (by decide +kernel)).1
  have hmissing := (hfind hslash made listing hlisted hmade (role "AComponent" .builder)
    (by decide +kernel)).1
  refine ⟨hlisted, hmade, hthere.mpr (by decide), fun h => ?_, fun h => ?_⟩
  · exact absurd (hmissing.mp h) (by decide)
  · exact absurd (hinj (by decide +kernel) (by decide +kernel) h) (by decide)

end Artifact

end RibTree
