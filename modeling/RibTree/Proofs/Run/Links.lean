import RibTree.Proofs.Declaration.Series
import RibTree.Proofs.Run.History
import RibTree.Proofs.Step.Success

/-!
# Links to one parent

Linking children to a parent one after the other declares each of them once, in the order in which
they were first linked. The name of the parent and the settings may be anything: that the builder
of the parent is found is enough to tell its file from those of its extensions.
-/

namespace RibTree

set_option autoImplicit false

open Declaration

/-- The builder of a parent after children were linked to it. -/
structure Linked (s : Settings) (parent : String) (builder : Path) (source : String)
    (children : List String) (store : Store) : Prop where
  wellFormed : store.WellFormed
  unlocked : store.isLocked builder = false
  located : (Artifact.role parent .builder).located? s store = some builder
  content : store.content? builder = some (declaring s.dependencyAnchor children source)

/-- What is reported of the declaration of a child, which may have been linked before. -/
def dependencyReport (s : Settings) (parent child : String) (again : Bool) : StepReport :=
  let step := Step.dependency parent child
  ⟨.addDependency, some parent, child, .ok (if again then step.presence s else step.success s)⟩

variable {template : TemplateKey → Except TemplateFailure String} {s : Settings}
variable {parent child source : String} {builder : Path} {children : List String}
variable {store after : Store}

theorem Step.Creating.locked_eq {folder : Path} {drafts : List Draft}
    {r : Except Failure (List SourceFile)} (h : Creating template s store folder drafts r after) :
    after.locked = store.locked := by
  rcases h.wrote with rfl | ⟨ensured, written, hensured, hwrote, -⟩
  · rfl
  · exact hwrote.locked_eq.trans hensured.locked_eq

/-- The files of a parent's extensions do not have the name of its builder, whatever the names. -/
theorem fileName?_extension_ne (hslash : '/' ∉ child.toList)
    (hname : builder.fileName? = some ((Artifact.role parent .builder).fileName s)) :
    ((Artifact.extension parent child).path s).fileName? ≠
      some ((Artifact.role parent .builder).fileName s) := by
  have hnone := Path.slash_notMem_of_fileName? hname
  rw [Artifact.fileName_toList, Artifact.stem_toList] at hnone
  simp only [List.mem_append, List.mem_cons, not_or] at hnone
  obtain ⟨⟨hparent, -⟩, -, hextension⟩ := hnone
  have hnames : ∀ n ∈ (Artifact.extension parent child).names, '/' ∉ n.toList := by
    intro n hn
    rcases List.mem_cons.mp hn with rfl | hn
    · exact hparent
    · rw [List.mem_singleton.mp hn]
      exact hslash
  rw [Artifact.fileName?_path hextension hnames]
  intro he
  have hlist := congrArg String.toList (Option.some.inj he)
  rw [Artifact.fileName_toList, Artifact.fileName_toList, Artifact.stem_toList,
    Artifact.stem_toList] at hlist
  simp only [List.append_assoc] at hlist
  have hhead := congrArg List.head? (List.append_cancel_left hlist)
  exact absurd hhead (by simp [Role.text])

/-- A line of the source that reads like a child's statement would declare the child. -/
theorem lines_ne_anchor
    (hsource : HasAnchor (Text.trim s.dependencyAnchor.toList) source.toList)
    (hchildren : ∀ c ∈ children, IsWord c ∧ isDeclared c source = false) :
    ∀ c ∈ children, IsWord c ∧ (statement c).toList ≠ Text.trim s.dependencyAnchor.toList := by
  intro c hc
  obtain ⟨hword, hfree⟩ := hchildren c hc
  refine ⟨hword, ?_⟩
  intro he
  rw [← he] at hsource
  have hdeclared : isDeclared c source = true :=
    isDeclared_of_hasAnchor (hword.notMem (by decide)) (hword.notMem (by decide)) hsource
  rw [hfree] at hdeclared
  exact absurd hdeclared (by decide)

namespace Linked

theorem of_creating (h : Linked s parent builder source children store)
    (hslash : '/' ∉ child.toList) {folder : Path} {r : Except Failure (List SourceFile)}
    (hcreating : Step.Creating template s store folder
      ((Step.extension parent child).drafts s) r after) :
    Linked s parent builder source children after := by
  have hname := (Store.locate_eq_some h.located).2.2.2
  have hother : ∀ d ∈ (Step.extension parent child).drafts s,
      (d.artifact.path s).fileName? ≠ some ((Artifact.role parent .builder).fileName s) := by
    intro d hd
    rw [List.mem_singleton.mp hd]
    exact fileName?_extension_ne hslash hname
  constructor
  case wellFormed => exact hcreating.wellFormed h.wellFormed
  case unlocked =>
    unfold Store.isLocked
    rw [hcreating.locked_eq]
    exact h.unlocked
  case located => exact (hcreating.locate_of_fileName?_ne hother).trans h.located
  case content =>
    rw [hcreating.content?_of_not_same, h.content]
    intro d hd hsame
    exact hother d hd (hsame.fileName?_eq.trans hname)

/-- However the creation of an extension ends, the builder of its parent stays as it is. -/
theorem of_outcome (h : Linked s parent builder source children store)
    (hslash : '/' ∉ child.toList) {r : Except Failure Report}
    (houtcome : Step.Outcome template s store (.extension parent child) r after) :
    Linked s parent builder source children after := by
  cases houtcome with
  | unlisted => exact h
  | present => exact h
  | uncreated _ _ hcreating => exact h.of_creating hslash hcreating
  | created _ _ hcreating => exact h.of_creating hslash hcreating

variable (template) in
theorem extension (h : Linked s parent builder source children store)
    (hslash : '/' ∉ child.toList) :
    Linked s parent builder source children
      (moment template s (.extension parent child) [] store).after :=
  h.of_outcome hslash (outcome_moment template s (.extension parent child) [] store)

variable (hsource : HasAnchor (Text.trim s.dependencyAnchor.toList) source.toList)
variable (hanchor : Text.trim s.dependencyAnchor.toList ≠ [])
variable (hchildren : ∀ c ∈ children, IsWord c ∧ isDeclared c source = false)
include hsource hanchor hchildren

variable (template) in
theorem dependency_of_mem (h : Linked s parent builder source children store)
    (hchild : child ∈ children) :
    moment template s (.dependency parent child) [] store =
      ⟨.dependency parent child, [], store, dependencyReport s parent child true, [], store⟩ := by
  apply moment_of_done
  refine ⟨builder, _, h.located, h.content, ?_⟩
  apply (isDeclared_declaring hsource hanchor (lines_ne_anchor hsource hchildren)
    (hchildren child hchild).1).mpr
  exact Or.inr hchild

variable (template) in
theorem dependency_of_notMem (h : Linked s parent builder source children store)
    (hword : IsWord child) (hfree : isDeclared child source = false) (hchild : child ∉ children) :
    ∃ after, moment template s (.dependency parent child) [] store =
        ⟨.dependency parent child, [], store, dependencyReport s parent child false, [], after⟩ ∧
      Linked s parent builder source (children ++ [child]) after := by
  have hlines := lines_ne_anchor hsource hchildren
  have hinsert := insertAbove_declaring hsource hanchor hlines child
  have hundeclared := isDeclared_declaring_eq_false hsource hanchor hlines hword hfree hchild
  have hparent : store.hasParent builder = true :=
    h.wellFormed.hasParent_of_content? h.content
  obtain ⟨after, hwrite⟩ : ∃ after, store.write builder
      (declaring s.dependencyAnchor (children ++ [child]) source) = .ok after :=
    ⟨_, Store.write_eq_ok_iff.mpr ⟨h.unlocked, hparent, rfl⟩⟩
  refine ⟨after, moment_of_run (Step.run_edited h.located h.content hundeclared hinsert hwrite), ?_⟩
  have hediting : Step.Editing s store builder child
      (.ok ((Step.dependency parent child).success s)) after :=
    .edited _ h.content hundeclared hinsert hwrite
  constructor
  case wellFormed => exact h.wellFormed.write hwrite
  case unlocked =>
    obtain ⟨-, -, rfl⟩ := Store.write_eq_ok_iff.mp hwrite
    exact h.unlocked
  case located => exact (hediting.located?_eq h.wellFormed _).trans h.located
  case content => rw [Store.content?_write hwrite, if_pos (show builder.Same builder from rfl)]

variable (template) in
/-- One link more: the child is declared below the others, unless it is one of them. -/
theorem link (h : Linked s parent builder source children store) (hword : IsWord child)
    (hfree : isDeclared child source = false) :
    let linked := play template s (Step.forLink parent child) [] store
    linked.left = [] ∧
      Linked s parent builder source (if child ∈ children then children else children ++ [child])
        linked.after ∧
      linked.reports[1]? = some (dependencyReport s parent child (child ∈ children)) := by
  intro linked
  let first := moment template s (.extension parent child) [] store
  have hfirst : Linked s parent builder source children first.after :=
    h.extension template (hword.notMem (by decide))
  have hlinked : linked =
      let second := moment template s (.dependency parent child) [] first.after
      ⟨[first, second], second.left, second.after⟩ := by
    have hleft : first.left = [] := left_moment (.extension parent child) store
    change (let second := moment template s (.dependency parent child) first.left first.after
      (⟨[first, second], second.left, second.after⟩ : Played)) = _
    rw [hleft]
  by_cases hchild : child ∈ children
  · rw [hlinked, hfirst.dependency_of_mem template hsource hanchor hchildren hchild, if_pos hchild,
      decide_eq_true hchild]
    exact ⟨rfl, hfirst, rfl⟩
  · obtain ⟨after, hsecond, hafter⟩ :=
      hfirst.dependency_of_notMem template hsource hanchor hchildren hword hfree hchild
    rw [hlinked, hsecond, if_neg hchild, decide_eq_false hchild]
    exact ⟨rfl, hafter, rfl⟩

end Linked

theorem eraseDups_concat (children : List String) (child : String) :
    (children ++ [child]).eraseDups =
      if child ∈ children then children.eraseDups else children.eraseDups ++ [child] := by
  rw [List.eraseDups_append]
  split
  · rename_i h
    simp [List.removeAll, h]
  · rename_i h
    simp [List.removeAll, h, List.eraseDups_cons]

variable (template) in
/-- The declarations in the order of the first links, and one report for each link. -/
theorem Linked.links (h : Linked s parent builder source [] store)
    (hsource : HasAnchor (Text.trim s.dependencyAnchor.toList) source.toList)
    (hanchor : Text.trim s.dependencyAnchor.toList ≠ [])
    (hchildren : ∀ c ∈ children, IsWord c ∧ isDeclared c source = false) :
    let linked := play template s (children.flatMap (Step.forLink parent)) [] store
    linked.left = [] ∧ Linked s parent builder source children.eraseDups linked.after ∧
      ∀ i c, children[i]? = some c →
        linked.reports[2 * i + 1]? = some (dependencyReport s parent c (c ∈ children.take i)) := by
  induction children using List.reverseRecOn with
  | nil => exact ⟨rfl, h, by simp⟩
  | append_singleton children last ih =>
      have hfront : ∀ c ∈ children, IsWord c ∧ isDeclared c source = false :=
        fun c hc => hchildren c (List.mem_append_left _ hc)
      obtain ⟨hword, hfree⟩ := hchildren last (by simp)
      obtain ⟨hleft, hlinked, hreports⟩ := ih hfront
      have hdistinct : ∀ c ∈ children.eraseDups, IsWord c ∧ isDeclared c source = false :=
        fun c hc => hfront c (List.mem_eraseDups.mp hc)
      obtain ⟨hend, hlast, hreport⟩ := hlinked.link template hsource hanchor hdistinct hword hfree
      simp only [List.mem_eraseDups] at hlast hreport
      rw [List.flatMap_append, List.flatMap_singleton]
      refine ⟨?_, ?_, ?_⟩
      · simp only [play_append, hleft]
        exact hend
      · simp only [play_append, hleft, eraseDups_concat]
        exact hlast
      · intro i c hc
        have hlength : (play template s (children.flatMap (Step.forLink parent)) []
            store).reports.length = 2 * children.length := by
          rw [length_reports_play, Step.length_flatMap_forLink]
        simp only [reports_play_append, hleft]
        by_cases hi : i < children.length
        · rw [List.getElem?_append_left hi] at hc
          rw [List.getElem?_append_left (by omega), List.take_append_of_le_length (by omega)]
          exact hreports i c hc
        · have hlt := (List.getElem?_eq_some_iff.mp hc).1
          rw [List.length_append, List.length_singleton] at hlt
          obtain rfl : i = children.length := by omega
          obtain rfl : last = c := by simpa using hc
          rw [List.getElem?_append_right (by omega), hlength, Nat.add_sub_cancel_left,
            List.take_left]
          exact hreport

end RibTree
