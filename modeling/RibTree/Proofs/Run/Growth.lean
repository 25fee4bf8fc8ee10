import RibTree.Proofs.Declaration.Series
import RibTree.Proofs.Step.Success

/-!
# Stores that grow

While a run creates components and links them, the store is the one that it started from with the
files made so far, and every builder among them has a line for each child linked so far. What a
step finds and what it leaves follows from that alone.
-/

namespace RibTree

set_option autoImplicit false

open Declaration

/-- The targets of the edges from a component, in order. -/
def childrenOf (edges : List Edge) (parent : String) : List String :=
  (edges.filter (·.parent = parent)).map Edge.target

/-- A text of the artifact once the edges are linked: a builder declares the children of its
component. -/
def Artifact.grow (s : Settings) (linked : List Edge) (a : Artifact) (text : String) : String :=
  match a with
  | .role target .builder => declaring s.dependencyAnchor (childrenOf linked target) text
  | _ => text

/-- The text of a created file once the edges are linked. -/
def Draft.grownText (template : TemplateKey → Except TemplateFailure String) (s : Settings)
    (linked : List Edge) (d : Draft) : String :=
  d.artifact.grow s linked (d.text template)

/-- The text has the anchor line and does not declare the child. -/
def Lacks (s : Settings) (child text : String) : Prop :=
  HasAnchor (Text.trim s.dependencyAnchor.toList) text.toList ∧ isDeclared child text = false

/-- The store has one source, the builder of the root. -/
structure Start (s : Settings) (root : String) (builder : Path) (source : String)
    (start : Store) : Prop where
  wellFormed : start.WellFormed
  unlocked : start.locked = []
  sources : start.sources s.targetDirectory s.fileExtension = [builder]
  name : builder.fileName? = some ((Artifact.role root .builder).fileName s)
  content : start.content? builder = some source

/-- The store that has grown out of `start` by the files `made` and the edges `linked`. -/
structure Grown (template : TemplateKey → Except TemplateFailure String) (s : Settings)
    (root : String) (builder : Path) (source : String) (start : Store) (made : List Draft)
    (linked : List Edge) (store : Store) : Prop where
  wellFormed : store.WellFormed
  unlocked : store.locked = []
  created : ∀ d ∈ made, store.content? (d.artifact.path s) = some (d.grownText template s linked)
  declared : store.content? builder =
    some (declaring s.dependencyAnchor (childrenOf linked root) source)
  others : ∀ q, ¬ builder.Same q → (∀ d ∈ made, ¬ (d.artifact.path s).Same q) →
    store.content? q = start.content? q

theorem Draft.grownText_builder (template : TemplateKey → Except TemplateFailure String)
    (s : Settings) (linked : List Edge) {d : Draft} {name : String}
    (h : d.artifact = .role name .builder) :
    d.grownText template s linked =
      declaring s.dependencyAnchor (childrenOf linked name) (d.text template) := by
  rw [grownText, h, Artifact.grow]

theorem childrenOf_concat (edges : List Edge) (edge : Edge) (parent : String) :
    childrenOf (edges ++ [edge]) parent =
      childrenOf edges parent ++ if edge.parent = parent then [edge.target] else [] := by
  rw [childrenOf, List.filter_append, List.map_append]
  by_cases h : edge.parent = parent <;> simp [childrenOf, h]

theorem Draft.grownText_concat (template : TemplateKey → Except TemplateFailure String)
    (s : Settings) (linked : List Edge) (edge : Edge) (d : Draft) :
    d.grownText template s (linked ++ [edge]) =
      if d.artifact = .role edge.parent .builder then
        declaring s.dependencyAnchor (childrenOf linked edge.parent ++ [edge.target])
          (d.text template)
      else d.grownText template s linked := by
  obtain ⟨artifact, key, names⟩ := d
  cases artifact with
  | extension parent child => simp [grownText, Artifact.grow]
  | role target r =>
      by_cases hr : r = .builder
      · subst hr
        by_cases ht : target = edge.parent
        · simp [grownText, Artifact.grow, childrenOf_concat, ht]
        · simp [grownText, Artifact.grow, childrenOf_concat, ht, Ne.symm ht]
      · cases r <;> simp [grownText, Artifact.grow] at hr ⊢

variable {template : TemplateKey → Except TemplateFailure String} {s : Settings} {root : String}
variable {builder : Path} {source : String} {start store : Store} {made : List Draft}
variable {linked : List Edge}

theorem Start.grown (h : Start s root builder source start) :
    Grown template s root builder source start [] [] start where
  wellFormed := h.wellFormed
  unlocked := h.unlocked
  created := by simp
  declared := by rw [h.content, childrenOf, List.filter_nil, List.map_nil, declaring_nil]
  others := fun _ _ _ => rfl

/-- What the names and the extension have to be for files to be told apart and found again. -/
structure Distinct (s : Settings) (root : String) (made : List Draft) : Prop where
  slash : '/' ∉ s.fileExtension.toList
  dot : '.' ∉ s.fileExtension.toList
  plainRoot : IsPlain root
  plain : ∀ d ∈ made, ∀ n ∈ d.artifact.names, IsPlain n
  other : ∀ d ∈ made, d.artifact ≠ .role root .builder

theorem Start.same_of_hasFile (h : Start s root builder source start) {q : Path}
    (hq : start.hasFile q = true) (hcontains : s.targetDirectory.Contains q)
    (hextension : q.extension? = some s.fileExtension) : builder.Same q := by
  obtain ⟨f, hf, hfq⟩ := Store.exists_mem_of_hasFile hq
  have hmem : f.path ∈ start.sources s.targetDirectory s.fileExtension := by
    refine List.mem_filter.mpr ⟨List.mem_map_of_mem hf, ?_⟩
    rw [Bool.and_eq_true, decide_eq_true_eq, hfq.contains_iff, hfq.extension?_eq, hextension]
    exact ⟨hcontains, beq_self_eq_true _⟩
  rw [h.sources, List.mem_singleton] at hmem
  exact hmem ▸ hfq

namespace Grown

theorem listed (hgrown : Grown template s root builder source start made linked store)
    (hstart : Start s root builder source start) {q : Path} (hq : store.hasFile q = true)
    (hcontains : s.targetDirectory.Contains q) (hextension : q.extension? = some s.fileExtension) :
    builder.Same q ∨ ∃ d ∈ made, (d.artifact.path s).Same q := by
  by_contra hno
  obtain ⟨hbuilder, hmade⟩ := not_or.mp hno
  have hsame := hgrown.others q hbuilder fun d hd hs => hmade ⟨d, hd, hs⟩
  obtain ⟨c, hc⟩ := (Store.hasFile_iff_content? store q).mp hq
  have hthere : start.hasFile q = true :=
    (Store.hasFile_iff_content? start q).mpr ⟨c, hsame.symm.trans hc⟩
  exact hbuilder (hstart.same_of_hasFile hthere hcontains hextension)

end Grown

theorem Distinct.plainBuilder (h : Distinct s root made) :
    ∀ n ∈ (Artifact.role root .builder).names, IsPlain n := by
  intro n hn
  rw [List.mem_singleton.mp hn]
  exact h.plainRoot

theorem Artifact.eq_of_same_path (hslash : '/' ∉ s.fileExtension.toList) {a b : Artifact}
    (ha : ∀ n ∈ a.names, IsPlain n) (hb : ∀ n ∈ b.names, IsPlain n)
    (h : (a.path s).Same (b.path s)) : a = b := by
  have hname := h.fileName?_eq
  rw [fileName?_path (a := b) hslash fun n hn => (hb n hn).1] at hname
  exact eq_of_fileName?_path hslash ha hb hname

theorem Step.nodup_drafts (step : Step) : ((step.drafts s).map Draft.artifact).Nodup := by
  cases step with
  | component target ownsView => cases ownsView <;> simp [drafts, Role.all, roleDraft]
  | extension parent child => simp [drafts]
  | dependency parent child => simp [drafts]

theorem Step.pairwise_drafts (hslash : '/' ∉ s.fileExtension.toList) {step : Step}
    (hnames : ∀ n ∈ step.names, IsPlain n) :
    ((step.drafts s).map (Draft.file template s)).Pairwise fun f g => ¬ g.path.Same f.path := by
  have hplain : ∀ d ∈ step.drafts s, ∀ n ∈ d.artifact.names, IsPlain n :=
    fun d hd n hn => hnames n (names_of_mem_drafts hd hn)
  rw [List.pairwise_map]
  refine List.Pairwise.imp_of_mem ?_ (List.pairwise_map.mp (nodup_drafts step))
  intro d e hd he hne hsame
  exact hne (Artifact.eq_of_same_path hslash (hplain e he) (hplain d hd) hsame).symm

theorem Start.content?_eq_none (h : Start s root builder source start)
    (hdistinct : Distinct s root made) {d : Draft} (hd : d ∈ made) :
    start.content? (d.artifact.path s) = none := by
  have hslashes : ∀ n ∈ d.artifact.names, '/' ∉ n.toList := fun n hn => (hdistinct.plain d hd n hn).1
  rw [Option.eq_none_iff_forall_ne_some]
  intro c hc
  have hsame : builder.Same (d.artifact.path s) :=
    h.same_of_hasFile ((Store.hasFile_iff_content? start _).mpr ⟨c, hc⟩)
      (Artifact.contains_path hdistinct.slash hslashes)
      (Artifact.extension?_path hdistinct.slash hdistinct.dot hslashes)
  have hname := hsame.fileName?_eq.symm.trans h.name
  exact hdistinct.other d hd
    (Artifact.eq_of_fileName?_path hdistinct.slash (hdistinct.plain d hd) hdistinct.plainBuilder
      hname)

namespace Grown

variable (hgrown : Grown template s root builder source start made linked store)
variable (hstart : Start s root builder source start) (hdistinct : Distinct s root made)
include hgrown hstart hdistinct

/-- What is found under the name of an artifact is the file of that artifact. -/
theorem eq_of_located? {a : Artifact} (ha : ∀ n ∈ a.names, IsPlain n) {p : Path}
    (h : a.located? s store = some p) :
    (a = .role root .builder ∧ builder.Same p) ∨
      ∃ d ∈ made, d.artifact = a ∧ (a.path s).Same p := by
  obtain ⟨hfile, hcontains, hextension, hname⟩ := Store.locate_eq_some h
  rcases hgrown.listed hstart hfile hcontains hextension with hsame | ⟨d, hd, hsame⟩
  · have hnames := hsame.fileName?_eq
    rw [hstart.name, hname] at hnames
    exact Or.inl ⟨(Artifact.fileName_injective (fun n hn => (hdistinct.plainBuilder n hn).2)
      (fun n hn => (ha n hn).2) (Option.some.inj hnames)).symm, hsame⟩
  · have hnames := hsame.fileName?_eq
    rw [hname] at hnames
    obtain rfl : d.artifact = a :=
      Artifact.eq_of_fileName?_path hdistinct.slash (hdistinct.plain d hd) ha hnames
    exact Or.inr ⟨d, hd, rfl, hsame⟩

/-- Of the files that were made, only that of the artifact is found under its name. -/
theorem same_path_iff {a : Artifact} (ha : ∀ n ∈ a.names, IsPlain n) {p : Path}
    (hp : a.located? s store = some p) {d : Draft} (hd : d ∈ made) :
    p.Same (d.artifact.path s) ↔ d.artifact = a := by
  constructor
  · intro hsame
    have hname := hsame.fileName?_eq
    rw [(Store.locate_eq_some hp).2.2.2] at hname
    exact Artifact.eq_of_fileName?_path hdistinct.slash (hdistinct.plain d hd) ha hname.symm
  · rintro rfl
    rcases hgrown.eq_of_located? hstart hdistinct ha hp with ⟨he, -⟩ | ⟨-, -, -, hsame⟩
    · exact absurd he (hdistinct.other d hd)
    · exact hsame.symm

theorem same_builder_iff {a : Artifact} (ha : ∀ n ∈ a.names, IsPlain n) {p : Path}
    (hp : a.located? s store = some p) : p.Same builder ↔ a = .role root .builder := by
  constructor
  · intro hsame
    have hname := hsame.fileName?_eq
    rw [(Store.locate_eq_some hp).2.2.2, hstart.name] at hname
    exact Artifact.fileName_injective (fun n hn => (ha n hn).2)
      (fun n hn => (hdistinct.plainBuilder n hn).2) (Option.some.inj hname)
  · rintro rfl
    rcases hgrown.eq_of_located? hstart hdistinct ha hp with ⟨-, hsame⟩ | ⟨d, hd, he, -⟩
    · exact hsame.symm
    · exact absurd he (hdistinct.other d hd)

theorem located?_eq_none {a : Artifact} (ha : ∀ n ∈ a.names, IsPlain n)
    (hroot : a ≠ .role root .builder) (hmade : ∀ d ∈ made, d.artifact ≠ a) :
    a.located? s store = none := by
  rw [Option.eq_none_iff_forall_not_mem]
  intro p hp
  rcases hgrown.eq_of_located? hstart hdistinct ha hp with ⟨he, -⟩ | ⟨d, hd, he, -⟩
  · exact hroot he
  · exact hmade d hd he

theorem exists_located?_made {d : Draft} (hd : d ∈ made) :
    ∃ p, d.artifact.located? s store = some p ∧ (d.artifact.path s).Same p := by
  have hplain := hdistinct.plain d hd
  have hslashes : ∀ n ∈ d.artifact.names, '/' ∉ n.toList := fun n hn => (hplain n hn).1
  have hfile : store.hasFile (d.artifact.path s) = true :=
    (Store.hasFile_iff_content? store _).mpr ⟨_, hgrown.created d hd⟩
  have hsome : (d.artifact.located? s store).isSome = true :=
    Artifact.isSome_located?_of_hasFile hdistinct.slash hdistinct.dot hslashes hfile rfl
  obtain ⟨p, hp⟩ := Option.isSome_iff_exists.mp hsome
  exact ⟨p, hp, ((hgrown.same_path_iff hstart hdistinct hplain hp hd).mpr rfl).symm⟩

theorem exists_located?_root :
    ∃ p, (Artifact.role root .builder).located? s store = some p ∧ builder.Same p := by
  have hfile : store.hasFile builder = true :=
    (Store.hasFile_iff_content? store _).mpr ⟨_, hgrown.declared⟩
  have hlisted : builder ∈ start.sources s.targetDirectory s.fileExtension := by
    rw [hstart.sources]
    exact List.mem_singleton_self builder
  have hunder := (List.mem_filter.mp hlisted).2
  rw [Bool.and_eq_true, decide_eq_true_eq, beq_iff_eq] at hunder
  have hsome : ((Artifact.role root .builder).located? s store).isSome = true :=
    Store.locate_isSome_iff.mpr ⟨_, hfile, hunder.1, hunder.2, hstart.name⟩
  obtain ⟨p, hp⟩ := Option.isSome_iff_exists.mp hsome
  exact ⟨p, hp,
    ((hgrown.same_builder_iff hstart hdistinct hdistinct.plainBuilder hp).mpr rfl).symm⟩

/-- A step that creates files adds its drafts to what was made. -/
theorem create {step : Step} {a : Artifact} (hlead : step.lead? = some a)
    (hnames : ∀ n ∈ step.names, IsPlain n)
    (hroot : ∀ d ∈ step.drafts s, d.artifact ≠ .role root .builder)
    (hnew : ∀ d ∈ step.drafts s, ∀ e ∈ made, e.artifact ≠ d.artifact)
    (hreadable : ∀ d ∈ step.drafts s, d.Readable template)
    (htext : ∀ d ∈ step.drafts s, d.grownText template s linked = d.text template) :
    ∃ after, (step.run (Store.host template) s).run store = (step.successReport s, after) ∧
      Grown template s root builder source start (made ++ step.drafts s) linked after := by
  have hplain : ∀ d ∈ step.drafts s, ∀ n ∈ d.artifact.names, IsPlain n :=
    fun d hd n hn => hnames n (Step.names_of_mem_drafts hd hn)
  have hmissing : a.located? s store = none := by
    obtain ⟨d, hd, rfl⟩ := Step.mem_drafts_of_lead (s := s) hlead
    exact hgrown.located?_eq_none hstart hdistinct (hplain d hd) (hroot d hd) (hnew d hd)
  obtain ⟨ensured, after, hensured, hwrote, hrun⟩ := Step.run_created hlead hmissing
    hgrown.unlocked hreadable hdistinct.slash fun n hn => (hnames n hn).1
  have hkept : ∀ q, (∀ d ∈ step.drafts s, ¬ (d.artifact.path s).Same q) →
      after.content? q = store.content? q := by
    intro q hq
    rw [hwrote.content?_eq, hensured.content?_eq]
    intro file hf
    obtain ⟨d, hd, rfl⟩ := List.mem_map.mp hf
    exact hq d hd
  refine ⟨after, hrun, ?_⟩
  constructor
  case wellFormed => exact hwrote.wellFormed (hensured.wellFormed hgrown.wellFormed)
  case unlocked => exact hwrote.locked_eq.trans (hensured.locked_eq.trans hgrown.unlocked)
  case created =>
    intro d hd
    rcases List.mem_append.mp hd with hd | hd
    · rw [hkept, hgrown.created d hd]
      intro e he hsame
      exact hnew e he d hd (Artifact.eq_of_same_path hdistinct.slash (hdistinct.plain d hd)
        (hplain e he) hsame.symm)
    · have hfile : d.file template s ∈ (step.drafts s).map (Draft.file template s) :=
        List.mem_map_of_mem hd
      have hapart : ((step.drafts s).map (Draft.file template s)).Pairwise
          fun f g => ¬ g.path.Same f.path := Step.pairwise_drafts hdistinct.slash hnames
      have hcontent := hwrote.content?_of_mem hapart hfile
      rw [htext d hd]
      exact hcontent
  case declared =>
    rw [hkept, hgrown.declared]
    intro d hd hsame
    have hname := hsame.fileName?_eq
    rw [hstart.name] at hname
    exact hroot d hd
      (Artifact.eq_of_fileName?_path hdistinct.slash (hplain d hd) hdistinct.plainBuilder hname)
  case others =>
    intro q hbuilder hq
    rw [hkept q fun d hd => hq d (List.mem_append_right _ hd)]
    exact hgrown.others q hbuilder fun d hd => hq d (List.mem_append_left _ hd)

theorem exists_builder {name : String}
    (hparent : name = root ∨ ∃ d ∈ made, d.artifact = .role name .builder)
    {P : String → Prop} (hsource : name = root → P source)
    (hmade : ∀ d ∈ made, d.artifact = .role name .builder → P (d.text template)) :
    ∃ p text, (Artifact.role name .builder).located? s store = some p ∧
      store.content? p =
        some (declaring s.dependencyAnchor (childrenOf linked name) text) ∧ P text := by
  rcases hparent with rfl | ⟨d, hd, ha⟩
  · obtain ⟨p, hp, hsame⟩ := hgrown.exists_located?_root hstart hdistinct
    exact ⟨p, source, hp, by rw [← store.content?_congr hsame, hgrown.declared], hsource rfl⟩
  · obtain ⟨p, hp, hsame⟩ := hgrown.exists_located?_made hstart hdistinct hd
    rw [ha] at hp
    refine ⟨p, d.text template, hp, ?_, hmade d hd ha⟩
    rw [← store.content?_congr hsame, hgrown.created d hd, d.grownText_builder template s linked ha]

theorem of_edit {edge : Edge} (hplain : IsPlain edge.parent) {p : Path} {text : String}
    {after : Store} (hp : (Artifact.role edge.parent .builder).located? s store = some p)
    (hcontent : store.content? p =
      some (declaring s.dependencyAnchor (childrenOf linked edge.parent) text))
    (hlacks : Lacks s edge.target text)
    (hinsert : ∀ {text : String}, Lacks s edge.target text →
      insertAbove s.dependencyAnchor (statement edge.target)
        (declaring s.dependencyAnchor (childrenOf linked edge.parent) text) =
          some (declaring s.dependencyAnchor
            (childrenOf linked edge.parent ++ [edge.target]) text))
    (hsource : edge.parent = root → Lacks s edge.target source)
    (hmade : ∀ d ∈ made, d.artifact = .role edge.parent .builder →
      Lacks s edge.target (d.text template))
    (hwrite : store.write p (declaring s.dependencyAnchor
      (childrenOf linked edge.parent ++ [edge.target]) text) = .ok after) :
    Grown template s root builder source start made (linked ++ [edge]) after := by
  have ha : ∀ n ∈ (Artifact.role edge.parent .builder).names, IsPlain n := by
    intro n hn
    rw [List.mem_singleton.mp hn]
    exact hplain
  have hbuilder : p.Same builder ↔ edge.parent = root := by
    rw [hgrown.same_builder_iff hstart hdistinct ha hp]
    simp
  have hpath : ∀ {d : Draft}, d ∈ made →
      (p.Same (d.artifact.path s) ↔ d.artifact = .role edge.parent .builder) := fun hd =>
    hgrown.same_path_iff hstart hdistinct ha hp hd
  -- The text in the builder determines the text with one more child.
  have hedited : ∀ {other : String} {q : Path}, p.Same q → Lacks s edge.target other →
      store.content? q =
        some (declaring s.dependencyAnchor (childrenOf linked edge.parent) other) →
      after.content? q = some (declaring s.dependencyAnchor
        (childrenOf linked edge.parent ++ [edge.target]) other) := by
    intro other q hsame hother hq
    rw [← store.content?_congr hsame, hcontent, Option.some.injEq] at hq
    have hinserted := hinsert hlacks
    rw [hq, hinsert hother] at hinserted
    rw [Store.content?_write hwrite, if_pos hsame, hinserted]
  have hkept : ∀ {q : Path}, ¬ p.Same q → after.content? q = store.content? q := by
    intro q hq
    rw [Store.content?_write hwrite, if_neg hq]
  constructor
  case wellFormed => exact hgrown.wellFormed.write hwrite
  case unlocked =>
    obtain ⟨-, -, rfl⟩ := Store.write_eq_ok_iff.mp hwrite
    exact hgrown.unlocked
  case created =>
    intro d hd
    have hcreated := hgrown.created d hd
    rw [d.grownText_concat]
    by_cases hd' : d.artifact = .role edge.parent .builder
    · rw [d.grownText_builder template s linked hd'] at hcreated
      rw [if_pos hd']
      exact hedited ((hpath hd).mpr hd') (hmade d hd hd') hcreated
    · rw [if_neg hd', hkept, hcreated]
      exact fun hsame => hd' ((hpath hd).mp hsame)
  case declared =>
    by_cases hroot : edge.parent = root
    · have hdeclared := hgrown.declared
      rw [← hroot] at hdeclared ⊢
      rw [childrenOf_concat, if_pos rfl]
      exact hedited (hbuilder.mpr hroot) (hsource hroot) hdeclared
    · rw [childrenOf_concat, if_neg hroot, List.append_nil, hkept, hgrown.declared]
      exact fun hsame => hroot (hbuilder.mp hsame)
  case others =>
    intro q hother hq
    rw [hkept, hgrown.others q hother hq]
    intro hsame
    rcases hgrown.eq_of_located? hstart hdistinct ha hp with ⟨-, hp⟩ | ⟨d, hd, he, hp⟩
    · exact hother (hp.trans hsame)
    · exact hq d hd (he ▸ hp.trans hsame)

/-- A dependency step declares the target of its edge below the children that are there. -/
theorem link {edge : Edge} (hplain : IsPlain edge.parent)
    (hanchor : Text.trim s.dependencyAnchor.toList ≠ [])
    (hchildren : ∀ child ∈ childrenOf linked edge.parent, IsWord child ∧
      (statement child).toList ≠ Text.trim s.dependencyAnchor.toList)
    (hword : IsWord edge.target) (hfresh : edge.target ∉ childrenOf linked edge.parent)
    (hparent : edge.parent = root ∨ ∃ d ∈ made, d.artifact = .role edge.parent .builder)
    (hsource : edge.parent = root → Lacks s edge.target source)
    (hmade : ∀ d ∈ made, d.artifact = .role edge.parent .builder →
      Lacks s edge.target (d.text template)) :
    ∃ after, ((Step.dependency edge.parent edge.target).run (Store.host template) s).run store =
        ((Step.dependency edge.parent edge.target).successReport s, after) ∧
      Grown template s root builder source start made (linked ++ [edge]) after := by
  obtain ⟨p, text, hp, hcontent, hlacks⟩ :=
    hgrown.exists_builder hstart hdistinct hparent hsource hmade
  have hinsert : ∀ {text : String}, Lacks s edge.target text →
      insertAbove s.dependencyAnchor (statement edge.target)
        (declaring s.dependencyAnchor (childrenOf linked edge.parent) text) =
          some (declaring s.dependencyAnchor
            (childrenOf linked edge.parent ++ [edge.target]) text) := fun h =>
    insertAbove_declaring h.1 hanchor hchildren edge.target
  have hundeclared : isDeclared edge.target
      (declaring s.dependencyAnchor (childrenOf linked edge.parent) text) = false :=
    isDeclared_declaring_eq_false hlacks.1 hanchor hchildren hword hlacks.2 hfresh
  obtain ⟨after, hwrite, -⟩ := Store.write_eq_ok hgrown.unlocked
    (hgrown.wellFormed.hasParent_of_content? hcontent) (declaring s.dependencyAnchor
      (childrenOf linked edge.parent ++ [edge.target]) text)
  exact ⟨after, Step.run_edited hp hcontent hundeclared (hinsert hlacks) hwrite,
    hgrown.of_edit hstart hdistinct hplain hp hcontent hlacks hinsert hsource hmade hwrite⟩

end Grown

end RibTree
