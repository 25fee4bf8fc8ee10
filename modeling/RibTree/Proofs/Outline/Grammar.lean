import RibTree.Outline.Basic

/-!
# The grammar of outlines

Which lines declare a component, and which break a rule, said without reading them one after the
other. An outline is read exactly when no bullet is indented with a tab and no two lines declare
the same name; otherwise the failure is that of the first line that breaks a rule.
-/

namespace RibTree

set_option autoImplicit false

namespace Text

theorem le_length_of_splitFirst {mark s before after : List Char}
    (h : splitFirst mark s = some (before, after)) {p q : List Char} (hs : s = p ++ mark ++ q) :
    before.length ≤ p.length := by
  induction s generalizing before p with
  | nil => simp [splitFirst] at h
  | cons c s ih =>
      unfold splitFirst at h
      split at h
      · obtain ⟨rfl, -⟩ := Prod.mk.inj (Option.some.inj h)
        exact Nat.zero_le _
      · rename_i hprefix
        obtain ⟨⟨b, a⟩, hb, he⟩ := Option.map_eq_some_iff.mp h
        obtain ⟨rfl, rfl⟩ := Prod.mk.inj he
        cases p with
        | nil =>
            apply absurd _ hprefix
            rw [List.isPrefixOf_iff_prefix]
            exact ⟨q, by simpa using hs.symm⟩
        | cons d p =>
            have hrest : s = p ++ mark ++ q := (List.cons.inj hs).2
            exact Nat.succ_le_succ (ih hb hrest)

theorem splitFirst_isSome {mark s p q : List Char} (hmark : mark ≠ []) (hs : s = p ++ mark ++ q) :
    (splitFirst mark s).isSome = true := by
  induction s generalizing p with
  | nil =>
      have hempty : mark = [] := by simp_all
      exact absurd hempty hmark
  | cons c s ih =>
      unfold splitFirst
      split
      · rfl
      · rename_i hprefix
        rw [Option.isSome_map]
        cases p with
        | nil =>
            apply absurd _ hprefix
            rw [List.isPrefixOf_iff_prefix]
            exact ⟨q, by simpa using hs.symm⟩
        | cons d p => exact ih (List.cons.inj hs).2

end Text

/-- The line is cut at its first bullet mark. -/
structure BulletCut (line indent rest : List Char) : Prop where
  line_eq : line = indent ++ bulletMark ++ rest
  first : ∀ p q, line = p ++ bulletMark ++ q → indent.length ≤ p.length

theorem bulletCut_iff {line indent rest : List Char} :
    BulletCut line indent rest ↔ Text.splitFirst bulletMark line = some (indent, rest) := by
  constructor
  · intro h
    obtain ⟨⟨before, after⟩, hsplit⟩ :=
      Option.isSome_iff_exists.mp (Text.splitFirst_isSome (by decide) h.line_eq)
    have hline := Text.append_of_splitFirst hsplit
    have hlength : before.length = indent.length := by
      apply Nat.le_antisymm
      · exact Text.le_length_of_splitFirst hsplit h.line_eq
      · exact h.first before after hline
    have hcut : before ++ (bulletMark ++ after) = indent ++ (bulletMark ++ rest) := by
      rw [← List.append_assoc, ← List.append_assoc, ← hline, ← h.line_eq]
    obtain ⟨rfl, hafter⟩ := List.append_inj hcut hlength
    rw [List.append_cancel_left hafter] at hsplit
    exact hsplit
  · intro h
    constructor
    · exact Text.append_of_splitFirst h
    · intro p q hs
      exact Text.le_length_of_splitFirst h hs

theorem BulletCut.unique {line indent rest indent' rest' : List Char}
    (h : BulletCut line indent rest) (h' : BulletCut line indent' rest') :
    indent = indent' ∧ rest = rest' := by
  rw [bulletCut_iff] at h h'
  rw [h] at h'
  exact Prod.mk.inj (Option.some.inj h')

/-- Behind a front without a dash stands the first bullet mark. -/
theorem bulletCut_of_notMem {indent : List Char} (h : '-' ∉ indent) (rest : List Char) :
    BulletCut (indent ++ bulletMark ++ rest) indent rest := by
  rw [bulletCut_iff]
  induction indent with
  | nil => rfl
  | cons c indent ih =>
      obtain ⟨hc, hindent⟩ := not_or.mp (mt List.mem_cons.mpr h)
      have hprefix : ¬ bulletMark.isPrefixOf (c :: (indent ++ bulletMark ++ rest)) = true := by
        simp [bulletMark, hc]
      rw [List.cons_append, List.cons_append, Text.splitFirst, if_neg hprefix, ih hindent]
      rfl

/-- A character of a name: neither a blank nor the mark for no view. -/
def isNameChar (c : Char) : Bool :=
  !Text.isBlank c && c != noViewMark

/-- A bullet that is indented with a tab among its blanks. -/
def TabIndented (line : List Char) : Prop :=
  ∃ indent rest, BulletCut line indent rest ∧ (∀ c ∈ indent, Text.isBlank c = true) ∧ '\t' ∈ indent

/-- A bullet with a name, which is what its text has besides blanks and stars. -/
def Declares (line : List Char) (n : Node) : Prop :=
  ∃ indent rest, BulletCut line indent rest ∧ (∀ c ∈ indent, Text.isBlank c = true) ∧
    (∃ c ∈ rest, isNameChar c = true) ∧ n.width = indent.length ∧
    n.name = String.ofList (rest.filter isNameChar) ∧ (n.ownsView = false ↔ noViewMark ∈ rest)

theorem Declares.unique {line : List Char} {m n : Node} (hm : Declares line m)
    (hn : Declares line n) : m = n := by
  obtain ⟨indent, rest, hcut, -, -, hwidth, hname, hview⟩ := hm
  obtain ⟨indent', rest', hcut', -, -, hwidth', hname', hview'⟩ := hn
  obtain ⟨rfl, rfl⟩ := hcut.unique hcut'
  obtain ⟨width, name, ownsView⟩ := m
  obtain ⟨width', name', ownsView'⟩ := n
  simp only at hwidth hname hview hwidth' hname' hview'
  have howns : ownsView = ownsView' := by
    cases ownsView <;> cases ownsView' <;> simp_all
  rw [hwidth, hwidth', hname, hname', howns]

section Line

variable {line indent rest : List Char}

theorem filter_dropBlanks (s : List Char) :
    (Text.dropBlanks s).filter (· != noViewMark) = s.filter isNameChar := by
  unfold Text.dropBlanks
  rw [List.filter_filter]
  apply List.filter_congr
  intro c _
  exact Bool.and_comm _ _

theorem contains_dropBlanks (s : List Char) :
    (Text.dropBlanks s).contains noViewMark = s.contains noViewMark := by
  have hstar : Text.isBlank noViewMark = false := by decide
  rw [Bool.eq_iff_iff, List.contains_iff_mem, List.contains_iff_mem, Text.mem_dropBlanks]
  exact and_iff_left hstar

/-- The reader of a line, in terms of its two parts. -/
theorem ofLine?_of_cut (hcut : BulletCut line indent rest) (number : Nat) :
    Node.ofLine? number line =
      if !indent.all Text.isBlank then .ok none
      else if '\t' ∈ indent then .error (.tabIndent number)
      else if (rest.filter isNameChar).isEmpty then .ok none
      else .ok (some ⟨indent.length, String.ofList (rest.filter isNameChar),
        !rest.contains noViewMark⟩) := by
  unfold Node.ofLine?
  rw [bulletCut_iff.mp hcut]
  simp only [filter_dropBlanks, contains_dropBlanks]

theorem tabIndented_of_cut (hcut : BulletCut line indent rest) :
    TabIndented line ↔ (∀ c ∈ indent, Text.isBlank c = true) ∧ '\t' ∈ indent := by
  constructor
  · rintro ⟨indent', rest', hcut', htab⟩
    obtain ⟨rfl, rfl⟩ := hcut.unique hcut'
    exact htab
  · intro htab
    exact ⟨indent, rest, hcut, htab⟩

/-- A line breaks the rule for tabs, declares a component or is passed over. -/
theorem ofLine?_cases (number : Nat) (line : List Char) :
    (TabIndented line ∧ Node.ofLine? number line = .error (.tabIndent number)) ∨
      (¬ TabIndented line ∧ ∃ n, Declares line n ∧ Node.ofLine? number line = .ok (some n)) ∨
      (¬ TabIndented line ∧ (∀ n, ¬ Declares line n) ∧ Node.ofLine? number line = .ok none) := by
  by_cases hbullet : ∃ indent rest, BulletCut line indent rest
  · obtain ⟨indent, rest, hcut⟩ := hbullet
    rw [ofLine?_of_cut hcut, tabIndented_of_cut hcut]
    by_cases hblank : ∀ c ∈ indent, Text.isBlank c = true
    · have hall : indent.all Text.isBlank = true := List.all_eq_true.mpr hblank
      rw [hall, Bool.not_true, if_neg (by decide)]
      by_cases htab : '\t' ∈ indent
      · rw [if_pos htab]
        exact Or.inl ⟨⟨hblank, htab⟩, rfl⟩
      · rw [if_neg htab]
        right
        cases hname : rest.filter isNameChar with
        | nil =>
            refine Or.inr ⟨fun h => htab h.2, ?_, rfl⟩
            rintro n ⟨indent', rest', hcut', -, ⟨c, hc, hchar⟩, -⟩
            obtain ⟨rfl, rfl⟩ := hcut.unique hcut'
            have hmem : c ∈ rest.filter isNameChar := List.mem_filter.mpr ⟨hc, hchar⟩
            rw [hname] at hmem
            exact absurd hmem List.not_mem_nil
        | cons c name =>
            refine Or.inl ⟨fun h => htab h.2, _, ?_, rfl⟩
            have hmem : c ∈ rest.filter isNameChar := by
              rw [hname]
              exact List.mem_cons_self
            refine ⟨indent, rest, hcut, hblank, ⟨c, List.mem_filter.mp hmem⟩, rfl, ?_, ?_⟩
            · rw [hname]
            · simp
    · have hall : indent.all Text.isBlank = false := by
        rw [Bool.eq_false_iff, Ne, List.all_eq_true]
        exact hblank
      rw [hall, Bool.not_false, if_pos rfl]
      refine Or.inr (Or.inr ⟨fun h => hblank h.1, ?_, rfl⟩)
      rintro n ⟨indent', rest', hcut', hblank', -⟩
      obtain ⟨rfl, rfl⟩ := hcut.unique hcut'
      exact hblank hblank'
  · have hnone : Text.splitFirst bulletMark line = none := by
      rw [Option.eq_none_iff_forall_ne_some]
      rintro ⟨indent, rest⟩ hsplit
      exact hbullet ⟨indent, rest, bulletCut_iff.mpr hsplit⟩
    refine Or.inr (Or.inr ⟨?_, ?_, ?_⟩)
    · rintro ⟨indent, rest, hcut, -⟩
      exact hbullet ⟨indent, rest, hcut⟩
    · rintro n ⟨indent, rest, hcut, -⟩
      exact hbullet ⟨indent, rest, hcut⟩
    · unfold Node.ofLine?
      rw [hnone]

end Line

/-- The components that lines declare, in the order of the lines. -/
inductive Components : List (List Char) → List Node → Prop
  | nil : Components [] []
  | prose {line : List Char} {lines : List (List Char)} {nodes : List Node} :
      (∀ n, ¬ Declares line n) → Components lines nodes → Components (line :: lines) nodes
  | bullet {line : List Char} {n : Node} {lines : List (List Char)} {nodes : List Node} :
      Declares line n → Components lines nodes → Components (line :: lines) (n :: nodes)

theorem Components.unique {lines : List (List Char)} {nodes nodes' : List Node}
    (h : Components lines nodes) (h' : Components lines nodes') : nodes = nodes' := by
  induction h generalizing nodes' with
  | nil =>
      cases h'
      rfl
  | prose hprose _ ih =>
      cases h' with
      | prose _ hrest => exact ih hrest
      | bullet hdeclares _ => exact absurd hdeclares (hprose _)
  | bullet hdeclares _ ih =>
      cases h' with
      | prose hprose _ => exact absurd hdeclares (hprose _)
      | bullet hdeclares' hrest => rw [hdeclares.unique hdeclares', ih hrest]

/-- One of the lines declares the name. -/
def NameIn (lines : List (List Char)) (name : String) : Prop :=
  ∃ line ∈ lines, ∃ n, Declares line n ∧ n.name = name

/-- The line at an index breaks a rule; a tab counts before a name that was declared above. -/
inductive Offends (lines : List (List Char)) (i : Nat) : OutlineFailure → Prop
  | tab {line : List Char} :
      lines[i]? = some line → TabIndented line → Offends lines i (.tabIndent (i + 1))
  | again {line : List Char} {n : Node} :
      lines[i]? = some line → ¬ TabIndented line → Declares line n →
      NameIn (lines.take i) n.name → Offends lines i (.duplicate (i + 1) n.name)

theorem Offends.unique {lines : List (List Char)} {i : Nat} {e e' : OutlineFailure}
    (h : Offends lines i e) (h' : Offends lines i e') : e = e' := by
  cases h with
  | tab hline htab =>
      cases h' with
      | tab => rfl
      | again hline' hno =>
          obtain rfl := Option.some.inj (hline.symm.trans hline')
          exact absurd htab hno
  | again hline hno hdeclares =>
      cases h' with
      | tab hline' htab =>
          obtain rfl := Option.some.inj (hline.symm.trans hline')
          exact absurd htab hno
      | again hline' _ hdeclares' =>
          obtain rfl := Option.some.inj (hline.symm.trans hline')
          rw [hdeclares.unique hdeclares']

theorem Offends.lt_length {lines : List (List Char)} {i : Nat} {e : OutlineFailure}
    (h : Offends lines i e) : i < lines.length := by
  cases h with
  | tab hline _ => exact (List.getElem?_eq_some_iff.mp hline).1
  | again hline _ _ _ => exact (List.getElem?_eq_some_iff.mp hline).1

/-- No line up to an index breaks a rule. -/
def CleanTo (lines : List (List Char)) (i : Nat) : Prop :=
  ∀ j < i, ∀ e, ¬ Offends lines j e

theorem CleanTo.succ {lines : List (List Char)} {i : Nat} (h : CleanTo lines i)
    (hi : ∀ e, ¬ Offends lines i e) : CleanTo lines (i + 1) := by
  intro j hj
  by_cases he : j = i
  · rw [he]
    exact hi
  · exact h j (by omega)

theorem nameIn_concat {lines : List (List Char)} {line : List Char} {name : String} :
    NameIn (lines ++ [line]) name ↔ NameIn lines name ∨ ∃ n, Declares line n ∧ n.name = name := by
  unfold NameIn
  simp only [List.mem_append, List.mem_singleton, or_and_right, exists_or, exists_eq_left]

/-- What reading the lower lines of an outline comes to: all their components, or the failure of
the first line that breaks a rule. -/
inductive Verdict (lines rest : List (List Char)) : Except OutlineFailure (List Node) → Prop
  | read {nodes : List Node} :
      Components rest nodes → CleanTo lines lines.length → Verdict lines rest (.ok nodes)
  | refused {i : Nat} {e : OutlineFailure} :
      Offends lines i e → CleanTo lines i → Verdict lines rest (.error e)

section Reading

variable {lines above rest : List (List Char)} {line : List Char}

theorem Verdict.prose {answer : Except OutlineFailure (List Node)}
    (h : Verdict lines rest answer) (hprose : ∀ n, ¬ Declares line n) :
    Verdict lines (line :: rest) answer := by
  cases h with
  | read hnodes hclean => exact .read (.prose hprose hnodes) hclean
  | refused hoffends hclean => exact .refused hoffends hclean

theorem Verdict.bullet {answer : Except OutlineFailure (List Node)} {n : Node}
    (h : Verdict lines rest answer) (hdeclares : Declares line n) :
    Verdict lines (line :: rest) (answer.map (n :: ·)) := by
  cases h with
  | read hnodes hclean => exact .read (.bullet hdeclares hnodes) hclean
  | refused hoffends hclean => exact .refused hoffends hclean

theorem offends_at {e : OutlineFailure} :
    Offends (above ++ line :: rest) above.length e ↔
      (TabIndented line ∧ e = .tabIndent (above.length + 1)) ∨
        (¬ TabIndented line ∧ ∃ n, Declares line n ∧ NameIn above n.name ∧
          e = .duplicate (above.length + 1) n.name) := by
  have hat : (above ++ line :: rest)[above.length]? = some line := by
    rw [List.getElem?_append_right (Nat.le_refl _), Nat.sub_self, List.getElem?_cons_zero]
  have htake : (above ++ line :: rest).take above.length = above := List.take_left
  constructor
  · intro h
    cases h with
    | tab hline htab =>
        obtain rfl := Option.some.inj (hat.symm.trans hline)
        exact Or.inl ⟨htab, rfl⟩
    | again hline htab hdeclares hname =>
        obtain rfl := Option.some.inj (hat.symm.trans hline)
        rw [htake] at hname
        exact Or.inr ⟨htab, _, hdeclares, hname, rfl⟩
  · rintro (⟨htab, rfl⟩ | ⟨htab, n, hdeclares, hname, rfl⟩)
    · exact .tab hat htab
    · rw [← htake] at hname
      exact .again hat htab hdeclares hname

/-- The reader, below lines that it has read without a failure. -/
theorem readFrom_verdict (rest above : List (List Char)) (seen : List String)
    (hseen : ∀ name, name ∈ seen ↔ NameIn above name)
    (hclean : CleanTo (above ++ rest) above.length) :
    Verdict (above ++ rest) rest (Outline.readFrom seen (above.length + 1) rest) := by
  induction rest generalizing above seen with
  | nil =>
      rw [List.append_nil] at hclean ⊢
      exact .read .nil hclean
  | cons line rest ih =>
      have hmove : above ++ line :: rest = (above ++ [line]) ++ rest := by simp
      have hlength : (above ++ [line]).length = above.length + 1 := by simp
      have hnext : ∀ seen', (∀ name, name ∈ seen' ↔ NameIn (above ++ [line]) name) →
          (∀ e, ¬ Offends (above ++ line :: rest) above.length e) →
          Verdict (above ++ line :: rest) rest
            (Outline.readFrom seen' (above.length + 1 + 1) rest) := by
        intro seen' hseen' hline
        have hclean' := hclean.succ hline
        rw [hmove, ← hlength] at hclean' ⊢
        exact ih (above ++ [line]) seen' hseen' hclean'
      unfold Outline.readFrom
      rcases ofLine?_cases (above.length + 1) line with
        ⟨htab, hread⟩ | ⟨htab, n, hdeclares, hread⟩ | ⟨htab, hprose, hread⟩
      · rw [hread]
        exact .refused (offends_at.mpr (Or.inl ⟨htab, rfl⟩)) hclean
      · rw [hread]
        simp only
        by_cases hmem : n.name ∈ seen
        · rw [if_pos hmem]
          apply Verdict.refused _ hclean
          exact offends_at.mpr (Or.inr ⟨htab, n, hdeclares, (hseen n.name).mp hmem, rfl⟩)
        · rw [if_neg hmem]
          apply Verdict.bullet _ hdeclares
          apply hnext
          · intro name
            rw [List.mem_cons, nameIn_concat, hseen, or_comm]
            apply or_congr_right
            constructor
            · rintro rfl
              exact ⟨n, hdeclares, rfl⟩
            · rintro ⟨m, hm, rfl⟩
              rw [hm.unique hdeclares]
          · intro e he
            rcases offends_at.mp he with ⟨htab', -⟩ | ⟨-, m, hm, hname, -⟩
            · exact htab htab'
            · rw [hm.unique hdeclares, ← hseen] at hname
              exact hmem hname
      · rw [hread]
        simp only
        apply Verdict.prose _ hprose
        apply hnext
        · intro name
          rw [nameIn_concat, hseen]
          constructor
          · exact Or.inl
          · rintro (hname | ⟨n, hn, -⟩)
            · exact hname
            · exact absurd hn (hprose n)
        · intro e he
          rcases offends_at.mp he with ⟨htab', -⟩ | ⟨-, n, hn, -⟩
          · exact htab htab'
          · exact hprose n hn

theorem verdict_parse (text : String) :
    ∃ answer, Outline.parse text = answer.map Outline.mk ∧
      Verdict (Text.lines text.toList) (Text.lines text.toList) answer := by
  refine ⟨_, rfl, ?_⟩
  apply readFrom_verdict (Text.lines text.toList) [] []
  · intro name
    constructor
    · intro hname
      exact absurd hname List.not_mem_nil
    · rintro ⟨line, hline, -⟩
      exact absurd hline List.not_mem_nil
  · intro j hj
    exact absurd hj (Nat.not_lt_zero j)

theorem components_of_parse {text : String} {o : Outline} (h : Outline.parse text = .ok o) :
    Components (Text.lines text.toList) o.nodes := by
  obtain ⟨answer, hparse, hverdict⟩ := verdict_parse text
  rw [hparse] at h
  cases hverdict with
  | read hnodes _ =>
      obtain rfl := Except.ok.inj h
      exact hnodes
  | refused _ _ => cases h

end Reading

/-- No line breaks the rule for tabs, and no two lines declare one name. -/
structure WellWritten (lines : List (List Char)) : Prop where
  noTab : ∀ line ∈ lines, ¬ TabIndented line
  apart : lines.Pairwise fun line other =>
    ∀ n m, Declares line n → Declares other m → n.name ≠ m.name

theorem cleanTo_length_iff {lines : List (List Char)} :
    CleanTo lines lines.length ↔ WellWritten lines := by
  constructor
  · intro h
    have hnoTab : ∀ line ∈ lines, ¬ TabIndented line := by
      intro line hline htab
      obtain ⟨i, hi, rfl⟩ := List.mem_iff_getElem.mp hline
      exact h i hi _ (.tab (List.getElem?_eq_getElem hi) htab)
    refine ⟨hnoTab, ?_⟩
    rw [List.pairwise_iff_getElem]
    intro i j hi hj hij n m hn hm hname
    apply h j hj
    apply Offends.again (List.getElem?_eq_getElem hj) (hnoTab _ (List.getElem_mem hj)) hm
    exact ⟨lines[i], List.mem_take_iff_getElem.mpr ⟨i, by omega, rfl⟩, n, hn, hname⟩
  · intro h j hj e he
    cases he with
    | tab hline htab => exact h.noTab _ (List.mem_of_getElem? hline) htab
    | @again line n hline _ hdeclares hname =>
        obtain ⟨other, hother, m, hm, hsame⟩ := hname
        obtain ⟨i, hi, rfl⟩ := List.mem_take_iff_getElem.mp hother
        obtain ⟨hj, rfl⟩ := List.getElem?_eq_some_iff.mp hline
        have hapart := List.pairwise_iff_getElem.mp h.apart i j (by omega) hj (by omega)
        exact hapart m n hm hdeclares hsame

/-- An outline is read exactly when no bullet is indented with a tab and no two lines declare one
name. What is read are the components of the lines, in order; otherwise the failure is that of the
first line that breaks a rule, with the number of that line. -/
theorem parse_or_first_offence (text : String) :
    let lines := Text.lines text.toList
    ((∃ o, Outline.parse text = .ok o) ↔ WellWritten lines) ∧
      (∀ o, Outline.parse text = .ok o ↔ WellWritten lines ∧ Components lines o.nodes) ∧
      ∀ e, Outline.parse text = .error e ↔
        ∃ i, Offends lines i e ∧ ∀ j < i, ∀ e', ¬ Offends lines j e' := by
  intro lines
  obtain ⟨answer, hparse, hverdict⟩ := verdict_parse text
  rw [hparse, ← cleanTo_length_iff]
  cases hverdict with
  | @read nodes hnodes hclean =>
      refine ⟨⟨fun _ => hclean, fun _ => ⟨⟨nodes⟩, rfl⟩⟩, ?_, ?_⟩
      · intro o
        constructor
        · intro ho
          obtain rfl : (⟨nodes⟩ : Outline) = o := Except.ok.inj ho
          exact ⟨hclean, hnodes⟩
        · rintro ⟨-, ho⟩
          rw [hnodes.unique ho]
          rfl
      · intro e
        constructor
        · intro he
          cases he
        · rintro ⟨i, hoffends, -⟩
          exact absurd hoffends (hclean i hoffends.lt_length e)
  | @refused i e hoffends hclean =>
      have hnot : ¬ CleanTo lines lines.length := fun h => h i hoffends.lt_length e hoffends
      refine ⟨⟨?_, fun h => absurd h hnot⟩, ?_, ?_⟩
      · rintro ⟨o, ho⟩
        cases ho
      · intro o
        constructor
        · intro ho
          cases ho
        · rintro ⟨h, -⟩
          exact absurd h hnot
      · intro e'
        constructor
        · intro he
          obtain rfl : e = e' := Except.error.inj he
          exact ⟨i, hoffends, hclean⟩
        · rintro ⟨k, hoffends', hclean'⟩
          obtain rfl : i = k := by
            apply Nat.le_antisymm
            · exact Nat.not_lt.mp fun hlt => hclean k hlt e' hoffends'
            · exact Nat.not_lt.mp fun hlt => hclean' i hlt e hoffends
          rw [hoffends.unique hoffends']
          rfl

/-- Every line counts, and the tab of a nameless bullet comes before the name that is repeated. -/
example : Outline.parse "to do - now\n- A\n\t- \n - A *" = .error (.tabIndent 3) := by
  rfl

end RibTree
