import RibTree.Proofs.Outline.Order
import RibTree.Proofs.Run.Growth
import RibTree.Proofs.Run.Reports
import RibTree.Proofs.Template.Standard

/-!
# Scaffolds

Working off the edges of an outline in order, a scaffold creates every component and every
extension and declares every child, and it changes nothing else. The argument goes edge by edge:
the store has grown by the edges that were worked off.
-/

namespace RibTree

set_option autoImplicit false

open Declaration

/-- The files that an edge adds, in the order in which they are written. -/
def Edge.drafts (s : Settings) (e : Edge) : List Draft :=
  (Step.component e.target e.ownsView).drafts s ++ (Step.extension e.parent e.target).drafts s

/-- Every target is new, and every parent is the root or a target from before. -/
structure InOrder (root : String) (edges : List Edge) : Prop where
  nodup : (edges.map Edge.target).Nodup
  root_notMem : root ∉ edges.map Edge.target
  parent : ∀ {before after : List Edge} {edge : Edge}, edges = before ++ edge :: after →
    edge.parent = root ∨ edge.parent ∈ before.map Edge.target

/-- A name that is not empty, of letters, digits and underscores. -/
def IsComponentName (name : String) : Prop := name ≠ "" ∧ IsWord name

instance (name : String) : Decidable (IsComponentName name) :=
  inferInstanceAs (Decidable (_ ∧ _))

/-- Templates that a scaffold can work with: all can be read, and the builders are ready for
children. -/
structure Kit (template : TemplateKey → Except TemplateFailure String) (s : Settings) : Prop where
  slash : '/' ∉ s.fileExtension.toList
  dot : '.' ∉ s.fileExtension.toList
  anchor : Text.trim s.dependencyAnchor.toList ≠ []
  statement : ∀ child, (statement child).toList ≠ Text.trim s.dependencyAnchor.toList
  readable : ∀ e : Edge, ∀ d ∈ e.drafts s, d.Readable template
  lacks : ∀ name ownsView child, IsComponentName name →
    Lacks s child ((Step.roleDraft s name ownsView .builder).text template)

theorem IsComponentName.isPlain {name : String} (h : IsComponentName name) : IsPlain name :=
  ⟨h.2.notMem (by decide), h.2.notMem (by decide)⟩

/-- What a scaffold of a store returns, reports and leaves. -/
def scaffolded (template : TemplateKey → Except TemplateFailure String) (s : Settings)
    (edges : List Edge) (store : Store) : (Summary × List StepReport) × Store :=
  ((scaffold (m := StateT (List StepReport) (StateM Store)) (Store.host template).lift s keep
    edges).run []).run store

variable {template : TemplateKey → Except TemplateFailure String} {s : Settings} {root : String}
variable {builder : Path} {source : String} {start store : Store} {edges done rest : List Edge}

theorem Edge.mem_drafts {e : Edge} {d : Draft} (h : d ∈ e.drafts s) :
    (∃ role, d = Step.roleDraft s e.target e.ownsView role) ∨
      d = Step.extensionDraft s e.parent e.target := by
  rcases List.mem_append.mp h with h | h
  · obtain ⟨role, -, rfl⟩ := List.mem_map.mp h
    exact Or.inl ⟨role, rfl⟩
  · exact Or.inr (List.mem_singleton.mp h)

theorem Edge.builder_mem_drafts (s : Settings) (e : Edge) :
    Step.roleDraft s e.target e.ownsView .builder ∈ e.drafts s := by
  refine List.mem_append_left _ (List.mem_map_of_mem ?_)
  cases e.ownsView <;> decide

theorem Edge.target_of_artifact {e f : Edge} {d g : Draft} (hd : d ∈ e.drafts s)
    (hg : g ∈ f.drafts s) (h : d.artifact = g.artifact) : e.target = f.target := by
  rcases e.mem_drafts hd with ⟨r, rfl⟩ | rfl <;> rcases f.mem_drafts hg with ⟨q, rfl⟩ | rfl
  · exact (Artifact.role.inj h).1
  · exact absurd h (by simp [Step.roleDraft, Step.extensionDraft])
  · exact absurd h (by simp [Step.roleDraft, Step.extensionDraft])
  · exact (Artifact.extension.inj h).2

theorem distinct_of_edges (hkit : Kit template s) (horder : InOrder root edges)
    (hroot : IsComponentName root)
    (hnames : ∀ e ∈ edges, IsComponentName e.parent ∧ IsComponentName e.target)
    {made : List Draft} (hmade : ∀ d ∈ made, ∃ e ∈ edges, d ∈ e.drafts s) :
    Distinct s root made where
  slash := hkit.slash
  dot := hkit.dot
  plainRoot := hroot.isPlain
  plain := by
    intro d hd n hn
    obtain ⟨e, he, hd⟩ := hmade d hd
    obtain ⟨hparent, htarget⟩ := hnames e he
    rcases e.mem_drafts hd with ⟨r, rfl⟩ | rfl
    · rw [List.mem_singleton.mp hn]
      exact htarget.isPlain
    · rcases List.mem_cons.mp hn with rfl | hn
      · exact hparent.isPlain
      · rw [List.mem_singleton.mp hn]
        exact htarget.isPlain
  other := by
    intro d hd ha
    obtain ⟨e, he, hd⟩ := hmade d hd
    rcases e.mem_drafts hd with ⟨r, rfl⟩ | rfl
    · have htarget : e.target = root := (Artifact.role.inj ha).1
      exact horder.root_notMem (htarget ▸ List.mem_map_of_mem he)
    · exact absurd ha (by simp [Step.extensionDraft])

theorem Distinct.mono {made kept : List Draft} (h : Distinct s root made)
    (hkept : ∀ d ∈ kept, d ∈ made) : Distinct s root kept where
  slash := h.slash
  dot := h.dot
  plainRoot := h.plainRoot
  plain := fun d hd => h.plain d (hkept d hd)
  other := fun d hd => h.other d (hkept d hd)

theorem mem_childrenOf {edges : List Edge} {parent child : String} :
    child ∈ childrenOf edges parent ↔ ∃ e ∈ edges, e.parent = parent ∧ e.target = child := by
  simp [childrenOf, and_assoc]

section Order

variable {e : Edge} (horder : InOrder root (done ++ e :: rest))
include horder

theorem InOrder.target_notMem : e.target ∉ done.map Edge.target := by
  have hnodup := horder.nodup
  rw [List.map_append, List.map_cons] at hnodup
  exact fun hm => (List.nodup_append.mp hnodup).2.2 _ hm _ List.mem_cons_self rfl

theorem InOrder.artifact_ne {d g : Draft} (hd : d ∈ e.drafts s)
    (hg : g ∈ done.flatMap (Edge.drafts s)) : g.artifact ≠ d.artifact := by
  intro hsame
  obtain ⟨f, hf, hg⟩ := List.mem_flatMap.mp hg
  have htargets := Edge.target_of_artifact hg hd hsame
  exact horder.target_notMem (htargets ▸ List.mem_map_of_mem hf)

theorem InOrder.target_ne_root : e.target ≠ root := by
  intro he
  have hroot := horder.root_notMem
  exact hroot (by simp [← he])

/-- The component of a new target has no children yet. -/
theorem InOrder.childrenOf_eq_nil : childrenOf done e.target = [] := by
  rw [List.eq_nil_iff_forall_not_mem]
  intro child hchild
  obtain ⟨f, hf, hparent, -⟩ := mem_childrenOf.mp hchild
  obtain ⟨before, after, hsplit⟩ := List.append_of_mem hf
  have hcut : done ++ e :: rest = before ++ f :: (after ++ e :: rest) := by simp [hsplit]
  rcases horder.parent hcut with hroot | hbefore
  · exact horder.target_ne_root (hparent.symm.trans hroot)
  · apply horder.target_notMem
    rw [← hparent, hsplit, List.map_append]
    exact List.mem_append_left _ hbefore

theorem InOrder.target_notMem_childrenOf : e.target ∉ childrenOf done e.parent := by
  intro hm
  obtain ⟨f, hf, -, htarget⟩ := mem_childrenOf.mp hm
  exact horder.target_notMem (htarget ▸ List.mem_map_of_mem hf)

end Order

theorem InOrder.take {e : Edge} (h : InOrder root (done ++ e :: rest)) :
    InOrder root (done ++ [e]) := by
  have hsplit : done ++ e :: rest = (done ++ [e]) ++ rest := by simp
  rw [hsplit] at h
  constructor
  case nodup =>
    have hnodup := h.nodup
    rw [List.map_append] at hnodup
    exact (List.nodup_append.mp hnodup).1
  case root_notMem =>
    refine fun hm => h.root_notMem ?_
    rw [List.map_append]
    exact List.mem_append_left _ hm
  case parent =>
    intro before after edge he
    exact h.parent (show (done ++ [e]) ++ rest = before ++ edge :: (after ++ rest) by simp [he])

theorem run_mapM_cons {α β : Type} {f : α → StateM Store β} {a : α} {l : List α} {b : β}
    {bs : List β} {s t u : Store} (h : (f a).run s = (b, t)) (hl : (l.mapM f).run t = (bs, u)) :
    ((a :: l).mapM f).run s = (b :: bs, u) := by
  rw [List.mapM_cons]
  change (((((f a).run s).1 :: ((l.mapM f).run ((f a).run s).2).1)),
    ((l.mapM f).run ((f a).run s).2).2) = _
  rw [h, hl]

theorem Kit.lacks_of_artifact (hkit : Kit template s)
    (hnames : ∀ f ∈ edges, IsComponentName f.target) {d : Draft}
    (hd : d ∈ edges.flatMap (Edge.drafts s)) {name : String}
    (ha : d.artifact = .role name .builder) (child : String) :
    Lacks s child (d.text template) := by
  obtain ⟨f, hf, hd⟩ := List.mem_flatMap.mp hd
  rcases f.mem_drafts hd with ⟨r, rfl⟩ | rfl
  · obtain rfl : r = .builder := (Artifact.role.inj ha).2
    exact hkit.lacks f.target f.ownsView child (hnames f hf)
  · exact absurd ha (by simp [Step.extensionDraft])

theorem grownText_roleDraft {linked : List Edge} {target : String}
    (h : childrenOf linked target = []) (ownsView : Bool) (role : Role) :
    (Step.roleDraft s target ownsView role).grownText template s linked =
      (Step.roleDraft s target ownsView role).text template := by
  cases role with
  | builder => rw [Draft.grownText_builder template s linked rfl, h, declaring_nil]
  | interactor | router | viewController => rfl

section Edge

variable {e : Edge} (hkit : Kit template s) (horder : InOrder root (done ++ e :: rest))
variable (hroot : IsComponentName root)
variable (hnames : ∀ f ∈ done ++ [e], IsComponentName f.parent ∧ IsComponentName f.target)

theorem flatMap_drafts_concat (s : Settings) (done : List Edge) (e : Edge) :
    (done ++ [e]).flatMap (Edge.drafts s) =
      done.flatMap (Edge.drafts s) ++ (Step.component e.target e.ownsView).drafts s ++
        (Step.extension e.parent e.target).drafts s := by
  simp [Edge.drafts]

include hkit horder hroot hnames

theorem distinct_concat : Distinct s root (done.flatMap (Edge.drafts s) ++
    (Step.component e.target e.ownsView).drafts s ++
      (Step.extension e.parent e.target).drafts s) := by
  rw [← flatMap_drafts_concat]
  apply distinct_of_edges hkit horder.take hroot hnames
  intro d hd
  exact List.mem_flatMap.mp hd

variable (hstart : Start s root builder source start)
include hstart

/-- The component of an edge is new, and nobody hangs from it yet. -/
theorem Grown.component
    (hgrown : Grown template s root builder source start (done.flatMap (Edge.drafts s)) done
      store) :
    ∃ after, ((Step.component e.target e.ownsView).run (Store.host template) s).run store =
        ((Step.component e.target e.ownsView).successReport s, after) ∧
      Grown template s root builder source start
        (done.flatMap (Edge.drafts s) ++ (Step.component e.target e.ownsView).drafts s) done
        after := by
  have hdistinct := distinct_concat hkit horder hroot hnames
  have hmem : ∀ d ∈ (Step.component e.target e.ownsView).drafts s, d ∈ e.drafts s :=
    fun d hd => List.mem_append_left _ hd
  apply hgrown.create hstart
  case hdistinct =>
    exact hdistinct.mono fun d hd => List.mem_append_left _ (List.mem_append_left _ hd)
  case hlead => rfl
  case hnames =>
    intro n hn
    rw [List.mem_singleton.mp hn]
    exact (hnames e (by simp)).2.isPlain
  case hroot =>
    intro d hd
    exact hdistinct.other d (List.mem_append_left _ (List.mem_append_right _ hd))
  case hnew => exact fun d hd g hg => horder.artifact_ne (hmem d hd) hg
  case hreadable => exact fun d hd => hkit.readable e d (hmem d hd)
  case htext =>
    intro d hd
    obtain ⟨role, -, rfl⟩ := List.mem_map.mp hd
    exact grownText_roleDraft horder.childrenOf_eq_nil e.ownsView role

theorem Grown.extension
    (hgrown : Grown template s root builder source start
      (done.flatMap (Edge.drafts s) ++ (Step.component e.target e.ownsView).drafts s) done
      store) :
    ∃ after, ((Step.extension e.parent e.target).run (Store.host template) s).run store =
        ((Step.extension e.parent e.target).successReport s, after) ∧
      Grown template s root builder source start
        (done.flatMap (Edge.drafts s) ++ (Step.component e.target e.ownsView).drafts s ++
          (Step.extension e.parent e.target).drafts s) done after := by
  have hdistinct := distinct_concat hkit horder hroot hnames
  obtain ⟨hparent, htarget⟩ := hnames e (by simp)
  have hmem : ∀ d ∈ (Step.extension e.parent e.target).drafts s, d ∈ e.drafts s :=
    fun d hd => List.mem_append_right _ hd
  apply hgrown.create hstart
  case hdistinct => exact hdistinct.mono fun d hd => List.mem_append_left _ hd
  case hlead => rfl
  case hnames =>
    intro n hn
    rcases List.mem_cons.mp hn with rfl | hn
    · exact hparent.isPlain
    · rw [List.mem_singleton.mp hn]
      exact htarget.isPlain
  case hroot => exact fun d hd => hdistinct.other d (List.mem_append_right _ hd)
  case hnew =>
    intro d hd g hg
    rcases List.mem_append.mp hg with hg | hg
    · exact horder.artifact_ne (hmem d hd) hg
    · obtain ⟨role, -, rfl⟩ := List.mem_map.mp hg
      rw [List.mem_singleton.mp hd]
      simp [Step.roleDraft, Step.extensionDraft]
  case hreadable => exact fun d hd => hkit.readable e d (hmem d hd)
  case htext =>
    intro d hd
    rw [List.mem_singleton.mp hd]
    rfl

/-- The builder of the parent is there, and the target is not among the children in it. -/
theorem Grown.dependency (hsource : e.parent = root → Lacks s e.target source)
    (hgrown : Grown template s root builder source start
      (done.flatMap (Edge.drafts s) ++ (Step.component e.target e.ownsView).drafts s ++
        (Step.extension e.parent e.target).drafts s) done store) :
    ∃ after, ((Step.dependency e.parent e.target).run (Store.host template) s).run store =
        ((Step.dependency e.parent e.target).successReport s, after) ∧
      Grown template s root builder source start
        (done.flatMap (Edge.drafts s) ++ (Step.component e.target e.ownsView).drafts s ++
          (Step.extension e.parent e.target).drafts s) (done ++ [e]) after := by
  obtain ⟨hparent, htarget⟩ := hnames e (by simp)
  apply hgrown.link hstart (distinct_concat hkit horder hroot hnames) hparent.isPlain hkit.anchor
  case hchildren =>
    intro child hchild
    obtain ⟨f, hf, -, rfl⟩ := mem_childrenOf.mp hchild
    exact ⟨(hnames f (List.mem_append_left _ hf)).2.2, hkit.statement f.target⟩
  case hword => exact htarget.2
  case hfresh => exact horder.target_notMem_childrenOf
  case hparent =>
    apply (horder.parent rfl).imp_right
    intro hm
    obtain ⟨f, hf, hft⟩ := List.mem_map.mp hm
    refine ⟨Step.roleDraft s f.target f.ownsView .builder, ?_, by rw [← hft]; rfl⟩
    exact List.mem_append_left _ (List.mem_append_left _
      (List.mem_flatMap.mpr ⟨f, hf, f.builder_mem_drafts s⟩))
  case hsource => exact hsource
  case hmade =>
    rw [← flatMap_drafts_concat]
    intro d hd ha
    exact hkit.lacks_of_artifact (fun f hf => (hnames f hf).2) hd ha e.target

/-- What the three steps of an edge do to a store that has grown by the edges before it. -/
theorem Grown.edge (hsource : e.parent = root → Lacks s e.target source)
    (hgrown : Grown template s root builder source start (done.flatMap (Edge.drafts s)) done
      store) :
    ∃ after, ((Step.forEdge e).mapM (Step.run (Store.host template) s)).run store =
        ((Step.forEdge e).map (Step.successReport s), after) ∧
      Grown template s root builder source start ((done ++ [e]).flatMap (Edge.drafts s))
        (done ++ [e]) after := by
  obtain ⟨first, hfirst, hgrown⟩ := hgrown.component hkit horder hroot hnames hstart
  obtain ⟨second, hsecond, hgrown⟩ := hgrown.extension hkit horder hroot hnames hstart
  obtain ⟨third, hthird, hgrown⟩ := hgrown.dependency hkit horder hroot hnames hstart hsource
  rw [flatMap_drafts_concat]
  exact ⟨third, run_mapM_cons hfirst (run_mapM_cons hsecond (run_mapM_cons hthird rfl)), hgrown⟩

end Edge

theorem run_mapM_append {α β : Type} {f : α → StateM Store β} {l k : List α} {bs cs : List β}
    {s t u : Store} (hl : (l.mapM f).run s = (bs, t)) (hk : (k.mapM f).run t = (cs, u)) :
    ((l ++ k).mapM f).run s = (bs ++ cs, u) := by
  rw [List.mapM_append]
  change (((l.mapM f).run s).1 ++ ((k.mapM f).run ((l.mapM f).run s).2).1,
    ((k.mapM f).run ((l.mapM f).run s).2).2) = _
  rw [hl, hk]

theorem Grown.forEdges (hkit : Kit template s) (horder : InOrder root (done ++ rest))
    (hroot : IsComponentName root)
    (hnames : ∀ f ∈ done ++ rest, IsComponentName f.parent ∧ IsComponentName f.target)
    (hsource : ∀ e ∈ rest, e.parent = root → Lacks s e.target source)
    (hstart : Start s root builder source start)
    (hgrown : Grown template s root builder source start (done.flatMap (Edge.drafts s)) done
      store) :
    ∃ after, ((rest.flatMap Step.forEdge).mapM (Step.run (Store.host template) s)).run store =
        ((rest.flatMap Step.forEdge).map (Step.successReport s), after) ∧
      Grown template s root builder source start ((done ++ rest).flatMap (Edge.drafts s))
        (done ++ rest) after := by
  induction rest generalizing done store with
  | nil =>
      rw [List.append_nil]
      exact ⟨store, rfl, hgrown⟩
  | cons e rest ih =>
      obtain ⟨hfirst, hothers⟩ := List.forall_mem_cons.mp hsource
      have hsplit : done ++ e :: rest = (done ++ [e]) ++ rest := by simp
      obtain ⟨between, hedge, hgrown⟩ := hgrown.edge hkit horder hroot
        (fun f hf => hnames f (hsplit ▸ List.mem_append_left _ hf)) hstart hfirst
      rw [hsplit] at horder hnames ⊢
      obtain ⟨after, hedges, hgrown⟩ := ih horder hnames hothers hgrown
      refine ⟨after, ?_, hgrown⟩
      rw [List.flatMap_cons, List.map_append]
      exact run_mapM_append hedge hedges

theorem Start.scaffolded (hkit : Kit template s) (horder : InOrder root edges)
    (hroot : IsComponentName root)
    (hnames : ∀ f ∈ edges, IsComponentName f.parent ∧ IsComponentName f.target)
    (hsource : ∀ e ∈ edges, e.parent = root → Lacks s e.target source)
    (hstart : Start s root builder source start) :
    ∃ final, RibTree.scaffolded template s edges start =
        ((((edges.flatMap Step.forEdge).map (Step.successReport s)).foldl Summary.record {},
          (edges.flatMap Step.forEdge).map (Step.successReport s)), final) ∧
      Grown template s root builder source start (edges.flatMap (Edge.drafts s)) edges final := by
  have hgrown : Grown template s root builder source start ([].flatMap (Edge.drafts s)) [] start :=
    hstart.grown
  obtain ⟨final, hrun, hgrown⟩ := hgrown.forEdges hkit horder hroot hnames hsource hstart
  refine ⟨final, ?_, hgrown⟩
  rw [RibTree.scaffolded, scaffold_eq_runSteps, run_runSteps_keep, StateT.run_map, hrun]
  rfl

theorem Summary.foldl_record_success (s : Settings) (edges : List Edge) (total : Summary) :
    ((edges.flatMap Step.forEdge).map (Step.successReport s)).foldl Summary.record total =
      { total with
        created := total.created + 2 * edges.length
        edited := total.edited + edges.length } := by
  induction edges generalizing total with
  | nil => rfl
  | cons e edges ih =>
      have hfirst : ((Step.forEdge e).map (Step.successReport s)).foldl Summary.record total =
          { total with created := total.created + 1 + 1, edited := total.edited + 1 } := rfl
      rw [List.flatMap_cons, List.map_append, List.foldl_append, hfirst, ih, List.length_cons]
      simp only [Summary.mk.injEq, and_true]
      omega

theorem inOrder_of_compile {text : String} (h : compile text root = .ok edges)
    (hother : ∀ e ∈ edges, e.target ≠ root) : InOrder root edges where
  nodup := nodup_target_of_compile h
  root_notMem := by
    intro hm
    obtain ⟨e, he, htarget⟩ := List.mem_map.mp hm
    exact hother e he htarget
  parent := parent_of_compile h

theorem InOrder.isComponentName (h : InOrder root edges) (hroot : IsComponentName root)
    (htargets : ∀ e ∈ edges, IsComponentName e.target) :
    ∀ e ∈ edges, IsComponentName e.parent ∧ IsComponentName e.target := by
  intro e he
  refine ⟨?_, htargets e he⟩
  obtain ⟨before, after, rfl⟩ := List.append_of_mem he
  rcases h.parent rfl with hparent | hparent
  · rw [hparent]
    exact hroot
  · obtain ⟨f, hf, hparent⟩ := List.mem_map.mp hparent
    rw [← hparent]
    exact htargets f (List.mem_append_left _ hf)

theorem kit_standard (directory : Path) :
    Kit Standard.templates.read { targetDirectory := directory } where
  slash := show '/' ∉ "swift".toList by decide
  dot := show '.' ∉ "swift".toList by decide
  anchor := show Standard.anchor ≠ [] by decide +kernel
  statement := by
    intro child h
    have hstatement : (statement child).toList.head? = some 'l' := by
      rw [statement, String.toList_append, String.toList_append, String.toList_append]
      rfl
    have hanchor : Standard.anchor.head? = some '/' := by decide +kernel
    rw [h] at hstatement
    exact absurd (hstatement.symm.trans hanchor) (by decide)
  readable := by
    intro e d hd
    have hread : ∀ {key : TemplateKey}, (Standard.templates.get? key).isSome = true →
        ∃ text, Standard.templates.read key = .ok text := by
      intro key hkey
      obtain ⟨text, htext⟩ := Option.isSome_iff_exists.mp hkey
      exact ⟨text, by rw [TemplateSet.read, htext]⟩
    rcases List.mem_append.mp hd with hd | hd
    · obtain ⟨role, hrole, rfl⟩ := List.mem_map.mp hd
      exact hread (Standard.isSome_get?_component e.ownsView role hrole)
    · rw [List.mem_singleton.mp hd]
      exact hread (Option.isSome_of_eq_some Standard.get?_extension)
  lacks := by
    intro name ownsView child hname
    have hread : Standard.templates.read (.component .builder ownsView "swift") =
        .ok (Standard.builder ownsView) := by
      rw [TemplateSet.read, Standard.get?_builder]
    have htext : (Step.roleDraft { targetDirectory := directory } name ownsView .builder).text
        Standard.templates.read =
          ({ product := name } : Placeholders).render (Standard.builder ownsView) := by
      rw [Draft.text, Step.roleDraft, hread]
    rw [htext]
    exact ⟨Standard.hasAnchor_render ownsView hname.2 hname.1,
      Standard.isDeclared_render ownsView hname.2 hname.1 child⟩

end RibTree
