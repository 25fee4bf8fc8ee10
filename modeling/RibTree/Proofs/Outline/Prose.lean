import RibTree.Proofs.Outline.Reading

/-!
# Line ends and prose

An outline has the same edges, or the same failure, whether its lines end with a carriage return or
not. A line between the others that is no bullet moves the lines below it down by one: the edges
stay, and a failure stays but for the number of its line.
-/

namespace RibTree

set_option autoImplicit false

namespace Text

/-- The text with a carriage return put before every line feed. -/
def withReturns (s : List Char) : List Char := replaceAll ['\n'] ['\r', '\n'] s

theorem replaceAll_singleton (c : Char) (new s : List Char) :
    replaceAll [c] new s = fill c new s := by
  induction s with
  | nil => rfl
  | cons d s ih =>
      by_cases hd : d = c
      · rw [hd, fill_hole, ← ih]
        exact replaceAll_mark_append (List.cons_ne_nil c []) s
      · have hprefix : ¬ [c].isPrefixOf (d :: s) = true := by simp [Ne.symm hd]
        rw [fill_cons_of_ne hd, replaceAll, replaceFrom, if_neg hprefix, ← ih]
        rfl

theorem withReturns_append (s t : List Char) :
    withReturns (s ++ t) = withReturns s ++ withReturns t := by
  simp only [withReturns, replaceAll_singleton, fill_append]

theorem withReturns_of_notMem {s : List Char} (h : '\n' ∉ s) : withReturns s = s := by
  rw [withReturns, replaceAll_singleton, fill_of_notMem h]

theorem withReturns_line {line : List Char} (h : '\n' ∉ line) :
    withReturns (line ++ ['\n']) = line ++ ['\r', '\n'] := by
  rw [withReturns_append, withReturns_of_notMem h]
  rfl

theorem flatMap_withReturns (pieces : List (List Char)) :
    pieces.flatMap withReturns = withReturns pieces.flatten := by
  induction pieces with
  | nil => rfl
  | cons piece pieces ih => rw [List.flatMap_cons, List.flatten_cons, withReturns_append, ih]

theorem keepsSegments_withReturns : KeepsSegments withReturns where
  isSegment := by
    intro piece hpiece
    obtain ⟨line, hline, rfl | rfl⟩ := hpiece.exists_line
    · rwa [withReturns_of_notMem hline]
    · rw [withReturns_line hline]
      exact IsSegment.append_left rfl hline
  wholeLines := by
    intro piece hpiece hwhole
    obtain ⟨line, hline, rfl | rfl⟩ := hpiece.exists_line
    · rwa [withReturns_of_notMem hline]
    · rw [withReturns_line hline, List.append_cons]
      exact wholeLines_concat _

end Text

theorem Node.follows_withReturns {piece : List Char} (h : Text.IsSegment piece) :
    Node.Follows id piece (Text.withReturns piece) := by
  intro number
  have hsame : Node.ofLine? number (Text.withReturns piece) = Node.ofLine? number piece := by
    obtain ⟨line, hline, rfl | rfl⟩ := h.exists_line
    · rw [Text.withReturns_of_notMem hline]
    · rw [Text.withReturns_line hline, Node.ofLine?_append (by simp), Node.ofLine?_append (by simp)]
  rw [hsame, Option.map_id]
  cases Node.ofLine? number piece <;> rfl

/-- A line that declares nothing: it is blank, has no bullet mark, or has text before its first. -/
inductive Prose (line : List Char) : Prop
  | blank : (∀ c ∈ line, Text.isBlank c = true) → Prose line
  | noMark : ¬ bulletMark <:+: line → Prose line
  | textBefore {indent rest : List Char} {c : Char} :
      BulletCut line indent rest → c ∈ indent → Text.isBlank c = false → Prose line

theorem Prose.ofLine?_eq {line : List Char} (h : Prose line) (number : Nat) :
    Node.ofLine? number line = .ok none := by
  have hnoMark : ¬ bulletMark <:+: line → Node.ofLine? number line = .ok none := by
    intro hno
    cases hsplit : Text.splitFirst bulletMark line with
    | none => rw [Node.ofLine?, hsplit]
    | some parts => exact absurd ⟨_, _, (Text.append_of_splitFirst hsplit).symm⟩ hno
  cases h with
  | blank hblank =>
      apply hnoMark
      intro hm
      exact absurd (hblank '-' (hm.subset (by decide))) (by decide)
  | noMark hno => exact hnoMark hno
  | @textBefore indent rest c hcut hc hblank =>
      have hall : ¬ indent.all Text.isBlank = true := by
        intro hall
        rw [List.all_eq_true.mp hall c hc] at hblank
        exact absurd hblank (by decide)
      rw [ofLine?_of_cut hcut, if_pos (by simpa using hall)]

namespace OutlineFailure

/-- The number of a line when the lines from `first` on have moved down by one. -/
def numberBelow (first number : Nat) : Nat := if first ≤ number then number + 1 else number

/-- The failure when the lines from `first` on have moved down by one. -/
def movedDown (first : Nat) : OutlineFailure → OutlineFailure
  | tabIndent line => tabIndent (numberBelow first line)
  | duplicate line name => duplicate (numberBelow first line) name

end OutlineFailure

open OutlineFailure

/-- The number of a line is only reported. -/
theorem Node.ofLine?_numberBelow (first number : Nat) (line : List Char) :
    Node.ofLine? (numberBelow first number) line =
      (Node.ofLine? number line).mapError (movedDown first) := by
  rw [Node.ofLine?, Node.ofLine?]
  cases Text.splitFirst bulletMark line with
  | none => rfl
  | some parts =>
      simp only
      split
      · rfl
      · split
        · rfl
        · split <;> rfl

namespace Outline

variable {first number number' : Nat} {lines lines' above below : List (List Char)}

/-- What a moved line adds to moved lines. -/
theorem readFrom_cons_movedDown (hnumber : numberBelow first number = number')
    (hrest : ∀ seen, readFrom seen (number' + 1) lines' =
      (readFrom seen (number + 1) lines).mapError (movedDown first))
    (seen : List String) (line : List Char) :
    readFrom seen number' (line :: lines') =
      (readFrom seen number (line :: lines)).mapError (movedDown first) := by
  rw [← hnumber] at hrest ⊢
  rw [readFrom, readFrom, Node.ofLine?_numberBelow]
  cases Node.ofLine? number line with
  | error e => rfl
  | ok declared =>
      cases declared with
      | none => exact hrest seen
      | some n =>
          simp only [Except.mapError]
          split
          · rfl
          · rw [hrest]
            cases readFrom (n.name :: seen) (number + 1) lines <;> rfl

theorem readFrom_succ (h : first ≤ number) (seen : List String) :
    readFrom seen (number + 1) lines =
      (readFrom seen number lines).mapError (movedDown first) := by
  induction lines generalizing seen number with
  | nil => rfl
  | cons line lines ih =>
      exact readFrom_cons_movedDown (if_pos h) (ih (Nat.le_succ_of_le h)) seen line

theorem readFrom_insert {line : List Char}
    (hline : ∀ number, Node.ofLine? number line = .ok none) (seen : List String) :
    readFrom seen number (above ++ line :: below) =
      (readFrom seen number (above ++ below)).mapError (movedDown (number + above.length)) := by
  induction above generalizing seen number with
  | nil =>
      rw [List.nil_append, List.nil_append, readFrom, hline]
      exact readFrom_succ (Nat.le_refl number) seen
  | cons top above ih =>
      have hnumber : numberBelow (number + (above.length + 1)) number = number :=
        if_neg (by omega)
      have hmove : number + (above.length + 1) = number + 1 + above.length := by omega
      refine readFrom_cons_movedDown hnumber (fun seen' => ?_) seen top
      rw [hmove]
      exact ih seen'

theorem parse_withReturns (text : String) :
    parse (String.ofList (Text.withReturns text.toList)) = parse text := by
  have hwritten : String.ofList (Text.withReturns text.toList) =
      rewritten Text.withReturns text := by
    rw [rewritten, Text.flatMap_withReturns, Text.flatten_segments]
  rw [hwritten, parse_rewritten Text.keepsSegments_withReturns
    (fun _ hpiece => Node.follows_withReturns hpiece) fun _ => rfl]
  cases parse text with
  | error e => rfl
  | ok o => exact congrArg (fun nodes => Except.ok (Outline.mk nodes)) (List.map_id o.nodes)

theorem parse_insert {top prose rest : String} (htop : Text.WholeLines top.toList)
    (hnewline : '\n' ∉ prose.toList) (hprose : Prose prose.toList) :
    parse (top ++ prose ++ "\n" ++ rest) = (parse (top ++ rest)).mapError
      (movedDown ((Text.lines top.toList).length + 1)) := by
  have hline : ∀ number,
      Node.ofLine? number (Text.chomp (prose.toList ++ ['\n'])) = .ok none := by
    intro number
    rw [Node.ofLine?_chomp, Node.ofLine?_append (by simp), hprose.ofLine?_eq]
  have hlines : Text.lines (top ++ prose ++ "\n" ++ rest).toList =
      Text.lines top.toList ++ Text.chomp (prose.toList ++ ['\n']) :: Text.lines rest.toList := by
    have htext : (top ++ prose ++ "\n" ++ rest).toList =
        top.toList ++ ((prose.toList ++ ['\n']) ++ rest.toList) := by simp
    have hone : Text.lines (prose.toList ++ ['\n']) = [Text.chomp (prose.toList ++ ['\n'])] := by
      rw [Text.lines, Text.segments_concat hnewline, List.map_singleton]
    rw [htext, Text.lines_append htop, Text.lines_append (Text.wholeLines_concat _), hone,
      List.singleton_append]
  rw [parse, parse, hlines, String.toList_append, Text.lines_append htop, readFrom_insert hline,
    Nat.add_comm 1]
  cases readFrom [] 1 (Text.lines top.toList ++ Text.lines rest.toList) <;> rfl

/-- Returns before all line feeds leave the result as it is. So does a line of prose at the start
of any line, but for a failure at that line or below it, whose number is one more. -/
theorem compile_ignores_prose (text root : String) :
    compile (String.ofList (Text.withReturns text.toList)) root = compile text root ∧
    ∀ top prose rest : String, text = top ++ rest → Text.WholeLines top.toList →
      '\n' ∉ prose.toList → Prose prose.toList →
      compile (top ++ prose ++ "\n" ++ rest) root =
        (compile text root).mapError (movedDown ((Text.lines top.toList).length + 1)) := by
  constructor
  · rw [compile, compile, parse_withReturns]
  · rintro top prose rest rfl htop hnewline hprose
    rw [compile, compile, parse_insert htop hnewline hprose]
    cases parse (top ++ rest) <;> rfl

/-- The prose goes above a line that breaks a rule, and then below it. -/
theorem compile_ignores_prose_of_tab :
    compile "- A\n\t- B\n- C" "App" = .error (.tabIndent 2) ∧
      Prose "  to do - later\r".toList ∧
      compile "- A\n  to do - later\r\n\t- B\n- C" "App" = .error (.tabIndent 3) ∧
      compile "- A\n\t- B\n  to do - later\r\n- C" "App" = .error (.tabIndent 2) := by
  have hfails : compile "- A\n\t- B\n- C" "App" = .error (.tabIndent 2) := by decide +kernel
  have hcut : BulletCut "  to do - later\r".toList "  to do ".toList "later\r".toList :=
    bulletCut_iff.mpr (by decide +kernel)
  have hprose : Prose "  to do - later\r".toList :=
    .textBefore (c := 't') hcut (by decide +kernel) (by decide)
  have hnewline : '\n' ∉ "  to do - later\r".toList := by decide +kernel
  have hinsert := (compile_ignores_prose "- A\n\t- B\n- C" "App").2
  refine ⟨hfails, hprose, ?_, ?_⟩
  · have htop : Text.WholeLines "- A\n".toList := Text.wholeLines_concat "- A".toList
    have hmoved := hinsert "- A\n" "  to do - later\r" "\t- B\n- C" rfl htop hnewline hprose
    rw [hfails] at hmoved
    exact hmoved
  · have htop : Text.WholeLines "- A\n\t- B\n".toList := Text.wholeLines_concat "- A\n\t- B".toList
    have hkept := hinsert "- A\n\t- B\n" "  to do - later\r" "- C" rfl htop hnewline hprose
    rw [hfails] at hkept
    exact hkept

end Outline

end RibTree
