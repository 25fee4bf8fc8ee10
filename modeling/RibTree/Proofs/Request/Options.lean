import Mathlib.Data.List.TakeWhile
import RibTree.Request

/-!
# What the words of a command line come to

The options are read word by word, and what they come to can be seen in the list of words at once.
An option is given if its word is there, and its value is the last word before the next option, seen
from the place where the option stands last. The first word and these values decide the request.
-/

namespace RibTree

set_option autoImplicit false

def DeclaresOption (word : String) : Prop := "--".toList <+: word.toList

instance (word : String) : Decidable (DeclaresOption word) :=
  inferInstanceAs (Decidable (_ <+: _))

structure LastAt (word : String) (words : List String) (i : Nat) : Prop where
  there : words[i]? = some word
  notLater : ∀ l, i < l → words[l]? ≠ some word

/-- The values after place `i` end at `j`, where an option is declared or no word is left. -/
structure ValuesEnd (words : List String) (i j : Nat) : Prop where
  after : i < j
  values : ∀ l word, i < l → l < j → words[l]? = some word → ¬ DeclaresOption word
  ends : j = words.length ∨ ∃ word, words[j]? = some word ∧ DeclaresOption word

theorem optionKey?_eq_some_iff {word key : String} :
    optionKey? word = some key ↔ word = "--" ++ key := by
  have hword : word = "--" ++ key ↔ word.toList = '-' :: '-' :: key.toList := by
    rw [← String.toList_inj]
    simp
  rw [hword, optionKey?]
  split
  · rename_i rest hrest
    rw [hrest]
    simp only [Option.some.injEq, List.cons.injEq, true_and]
    constructor
    · rintro rfl
      rw [String.toList_ofList]
    · rintro rfl
      rw [String.ofList_toList]
  · rename_i hother
    simp only [reduceCtorEq, false_iff]
    exact fun he => hother _ he

theorem optionKey?_eq_none_iff {word : String} :
    optionKey? word = none ↔ ¬ DeclaresOption word := by
  rw [← not_iff_not, not_not, ← ne_eq, Option.ne_none_iff_exists']
  constructor
  · rintro ⟨key, hkey⟩
    rw [optionKey?_eq_some_iff.mp hkey, DeclaresOption, String.toList_append]
    exact List.prefix_append _ _
  · rintro ⟨rest, hrest⟩
    refine ⟨String.ofList rest, optionKey?_eq_some_iff.mpr ?_⟩
    apply String.toList_injective
    calc word.toList
        = "--".toList ++ rest := hrest.symm
      _ = ("--" ++ String.ofList rest).toList := by simp

theorem optionKey?_dashes (key : String) : optionKey? ("--" ++ key) = some key :=
  optionKey?_eq_some_iff.mpr rfl

section Reading

variable {options : Options} {latest : Option String} {word key : String} {rest words : List String}

theorem readOptions_of_option (h : optionKey? word = some key) :
    readOptions options latest (word :: rest) =
      readOptions (options.set key "") (some key) rest := by
  simp only [readOptions, h]

theorem readOptions_of_value (h : optionKey? word = none) :
    readOptions options (some key) (word :: rest) =
      readOptions (options.set key word) (some key) rest := by
  simp only [readOptions, h]

theorem readOptions_of_stray (h : optionKey? word = none) :
    readOptions options none (word :: rest) = readOptions options none rest := by
  simp only [readOptions, h]

/-- Words that do not declare a key leave its value as it is, unless they are its values. -/
theorem get?_readOptions_of_notMem (hlatest : latest ≠ some key) (hwords : "--" ++ key ∉ words) :
    (readOptions options latest words).get? key = options.get? key := by
  induction words generalizing options latest with
  | nil => rfl
  | cons word rest ih =>
      obtain ⟨hword, hrest⟩ := not_or.mp (mt List.mem_cons.mpr hwords)
      cases hkey : optionKey? word with
      | some other =>
          have hne : key ≠ other := by
            rintro rfl
            exact hword (optionKey?_eq_some_iff.mp hkey).symm
          rw [readOptions_of_option hkey, ih (by simpa using hne.symm) hrest, Options.get?_set,
            if_neg hne]
      | none =>
          cases latest with
          | none => rw [readOptions_of_stray hkey, ih hlatest hrest]
          | some other =>
              have hne : key ≠ other := fun he => hlatest (congrArg some he.symm)
              rw [readOptions_of_value hkey, ih hlatest hrest, Options.get?_set, if_neg hne]

/-- The latest key takes the last of the values that follow, if there is one. -/
theorem get?_readOptions_of_latest (hwords : "--" ++ key ∉ words) :
    (readOptions options (some key) words).get? key =
      (words.takeWhile fun word => ¬ DeclaresOption word).getLast?.or (options.get? key) := by
  induction words generalizing options with
  | nil => rfl
  | cons word rest ih =>
      obtain ⟨hword, hrest⟩ := not_or.mp (mt List.mem_cons.mpr hwords)
      cases hkey : optionKey? word with
      | some other =>
          have hne : key ≠ other := by
            rintro rfl
            exact hword (optionKey?_eq_some_iff.mp hkey).symm
          have hdeclares : DeclaresOption word := by
            by_contra hvalue
            rw [optionKey?_eq_none_iff.mpr hvalue] at hkey
            exact absurd hkey (by simp)
          rw [readOptions_of_option hkey,
            get?_readOptions_of_notMem (by simpa using hne.symm) hrest, Options.get?_set,
            if_neg hne, List.takeWhile_cons_of_neg (by simpa using hdeclares)]
          rfl
      | none =>
          have hvalue : ¬ DeclaresOption word := optionKey?_eq_none_iff.mp hkey
          rw [readOptions_of_value hkey, ih hrest, Options.get?_set, if_pos rfl,
            List.takeWhile_cons_of_pos (by simpa using hvalue), List.getLast?_cons]
          cases (rest.takeWhile fun word => ¬ DeclaresOption word).getLast? <;> rfl

/-- What was read before is a state from which the rest is read. -/
theorem exists_readOptions_append (options : Options) (latest : Option String)
    (before : List String) : ∃ options' latest', ∀ rest,
      readOptions options latest (before ++ rest) = readOptions options' latest' rest := by
  induction before generalizing options latest with
  | nil => exact ⟨options, latest, fun rest => rfl⟩
  | cons word before ih =>
      cases hkey : optionKey? word with
      | some other =>
          obtain ⟨options', latest', h⟩ := ih (options.set other "") (some other)
          exact ⟨options', latest', fun rest => (readOptions_of_option hkey).trans (h rest)⟩
      | none =>
          cases latest with
          | none =>
              obtain ⟨options', latest', h⟩ := ih options none
              exact ⟨options', latest', fun rest => (readOptions_of_stray hkey).trans (h rest)⟩
          | some other =>
              obtain ⟨options', latest', h⟩ := ih (options.set other word) (some other)
              exact ⟨options', latest', fun rest => (readOptions_of_value hkey).trans (h rest)⟩

theorem get?_readOptions_of_split {before tail : List String} (htail : "--" ++ key ∉ tail)
    (options : Options) (latest : Option String) :
    (readOptions options latest (before ++ ("--" ++ key) :: tail)).get? key =
      some ((tail.takeWhile fun word => ¬ DeclaresOption word).getLast?.getD "") := by
  obtain ⟨options', latest', hread⟩ := exists_readOptions_append options latest before
  rw [hread, readOptions_of_option (optionKey?_dashes key), get?_readOptions_of_latest htail,
    Options.get?_set, if_pos rfl]
  cases (tail.takeWhile fun word => ¬ DeclaresOption word).getLast? <;> rfl

theorem exists_split_of_mem (h : word ∈ words) :
    ∃ before tail, words = before ++ word :: tail ∧ word ∉ tail := by
  obtain ⟨after, before, hreverse, hnot⟩ := List.eq_append_cons_of_mem (List.mem_reverse.mpr h)
  refine ⟨before.reverse, after.reverse, ?_, fun hm => hnot (List.mem_reverse.mp hm)⟩
  rw [← List.reverse_reverse words, hreverse]
  simp

end Reading

section Places

variable {words : List String} {word : String} {i j : Nat}

theorem LastAt.split (h : LastAt word words i) :
    words = words.take i ++ word :: words.drop (i + 1) ∧ word ∉ words.drop (i + 1) := by
  obtain ⟨hlt, hword⟩ := List.getElem?_eq_some_iff.mp h.there
  constructor
  · rw [← hword, ← List.drop_eq_getElem_cons hlt, List.take_append_drop]
  · intro hmem
    obtain ⟨l, hl⟩ := List.mem_iff_getElem?.mp hmem
    rw [List.getElem?_drop] at hl
    exact h.notLater (i + 1 + l) (by omega) hl

theorem ValuesEnd.le_length (h : ValuesEnd words i j) : j ≤ words.length := by
  rcases h.ends with rfl | ⟨word, hword, -⟩
  · exact Nat.le_refl _
  · exact Nat.le_of_lt (List.getElem?_eq_some_iff.mp hword).1

theorem ValuesEnd.takeWhile_eq (h : ValuesEnd words i j) :
    (words.drop (i + 1)).takeWhile (fun word => ¬ DeclaresOption word) =
      (words.drop (i + 1)).take (j - (i + 1)) := by
  have hafter := h.after
  have hvalues : ∀ word ∈ (words.drop (i + 1)).take (j - (i + 1)),
      decide (¬ DeclaresOption word) = true := by
    intro word hword
    obtain ⟨l, hl⟩ := List.mem_iff_getElem?.mp hword
    rw [List.getElem?_take] at hl
    split at hl
    · rw [List.getElem?_drop] at hl
      exact decide_eq_true (h.values (i + 1 + l) word (by omega) (by omega) hl)
    · exact absurd hl (by simp)
  have hends : (words.drop j).takeWhile (fun word => ¬ DeclaresOption word) = [] := by
    rcases h.ends with rfl | ⟨word, hword, hdeclares⟩
    · rw [List.drop_length, List.takeWhile_nil]
    · obtain ⟨hlt, rfl⟩ := List.getElem?_eq_some_iff.mp hword
      rw [List.drop_eq_getElem_cons hlt, List.takeWhile_cons_of_neg (by simpa using hdeclares)]
  have hsplit : words.drop (i + 1) =
      (words.drop (i + 1)).take (j - (i + 1)) ++ words.drop j := by
    have hplace : i + 1 + (j - (i + 1)) = j := by omega
    calc words.drop (i + 1)
        = (words.drop (i + 1)).take (j - (i + 1)) ++ (words.drop (i + 1)).drop (j - (i + 1)) :=
          (List.take_append_drop _ _).symm
      _ = (words.drop (i + 1)).take (j - (i + 1)) ++ words.drop j := by
          rw [List.drop_drop, hplace]
  calc (words.drop (i + 1)).takeWhile (fun word => ¬ DeclaresOption word)
      = ((words.drop (i + 1)).take (j - (i + 1)) ++ words.drop j).takeWhile
          fun word => ¬ DeclaresOption word := by rw [← hsplit]
    _ = (words.drop (i + 1)).take (j - (i + 1)) := by
        rw [List.takeWhile_append_of_pos hvalues, hends, List.append_nil]

theorem ValuesEnd.getLast?_eq (h : ValuesEnd words i j) :
    ((words.drop (i + 1)).takeWhile fun word => ¬ DeclaresOption word).getLast?.getD "" =
      if i < j - 1 then words[j - 1]?.getD "" else "" := by
  have hafter := h.after
  have hlength := h.le_length
  rw [h.takeWhile_eq, List.getLast?_take]
  split_ifs with hzero hlt hlt
  · omega
  · rfl
  · have hplace : i + 1 + (j - (i + 1) - 1) = j - 1 := by omega
    rw [List.getElem?_drop, hplace, List.getElem?_eq_getElem (by omega)]
    rfl
  · omega

end Places

/-- What options give, seen in the words that they were read from. -/
structure Options.Shows (options : Options) (words : List String) : Prop where
  get?_eq_none_iff : ∀ key, options.get? key = none ↔ "--" ++ key ∉ words
  get?_eq_some : ∀ key i j, LastAt ("--" ++ key) words i → ValuesEnd words i j →
    options.get? key = some (if i < j - 1 then words[j - 1]?.getD "" else "")

theorem shows_readOptions (words : List String) :
    (readOptions .empty none words).Shows words where
  get?_eq_none_iff := by
    intro key
    constructor
    · intro hnone hmem
      obtain ⟨before, tail, rfl, htail⟩ := exists_split_of_mem hmem
      rw [get?_readOptions_of_split htail] at hnone
      exact absurd hnone (by simp)
    · intro hwords
      rw [get?_readOptions_of_notMem (by simp) hwords, Options.get?_empty]
  get?_eq_some := by
    intro key i j hlast hends
    obtain ⟨hsplit, htail⟩ := hlast.split
    rw [hsplit, get?_readOptions_of_split htail, hends.getLast?_eq, ← hsplit]

namespace Arguments

variable {a : Arguments}

theorem parent?_eq_some_iff {parent : String} :
    a.parent? = some parent ↔ a.options.get? "parent" = some parent ∧ parent ≠ "" := by
  rw [parent?, Option.filter_eq_some_iff, decide_eq_true_eq]

theorem parent?_eq_none_iff :
    a.parent? = none ↔ a.options.get? "parent" = none ∨ a.options.get? "parent" = some "" := by
  cases h : a.options.get? "parent" with
  | none => simp [parent?, h]
  | some parent => simp [parent?, h]

theorem noView_eq_true_iff {words : List String} (h : a.options.Shows words) :
    a.noView = true ↔ "--no-view" ∈ words := by
  have hkey : a.options.get? "no-view" = none ↔ "--no-view" ∉ words := h.get?_eq_none_iff "no-view"
  rw [noView, Options.has, Option.isSome_iff_ne_none, ne_eq, hkey, not_not]

theorem request_add (h : a.first = "add") :
    a.request = .ok (.add a.second a.parent? (!a.noView)) := by
  simp [request, h]

theorem request_link (h : a.first = "link") :
    a.request = a.requiredParent.map (.link · a.second) := by
  simp [request, h]

theorem request_scaffold (h : a.first = "scaffold") :
    a.request = a.requiredParent.map (.scaffold ⟨a.second⟩ ·) := by
  simp [request, h]

theorem request_version (h : a.first = "version") : a.request = .ok .version := by
  simp [request, h]

theorem request_other (h : a.first ∉ ["add", "link", "scaffold", "version"]) :
    a.request = .ok .help := by
  simp only [List.mem_cons, List.not_mem_nil, or_false, not_or] at h
  simp [request, h]

theorem requiredParent_of_some {parent : String} (h : a.parent? = some parent) :
    a.requiredParent = .ok parent := by
  rw [requiredParent, h]

theorem requiredParent_of_none (h : a.parent? = none) :
    a.requiredParent = .error (.missingOption a.first "parent") := by
  rw [requiredParent, h]

/-- A request fails only for want of a parent, and only where one is required. -/
theorem request_eq_error_iff {e : ArgumentFailure} : a.request = .error e ↔
    (a.first = "link" ∨ a.first = "scaffold") ∧ a.parent? = none ∧
      e = .missingOption a.first "parent" := by
  by_cases hfirst : a.first = "link" ∨ a.first = "scaffold"
  · obtain ⟨make, hmake⟩ : ∃ make : String → Request, a.request = a.requiredParent.map make := by
      rcases hfirst with h | h
      · exact ⟨_, request_link h⟩
      · exact ⟨_, request_scaffold h⟩
    rw [hmake]
    cases hparent : a.parent? with
    | some parent => simp [requiredParent_of_some hparent, Except.map]
    | none =>
        rw [requiredParent_of_none hparent]
        simpa [Except.map, hfirst] using eq_comm
  · obtain ⟨r, hr⟩ : ∃ r, a.request = .ok r := by
      by_cases hadd : a.first = "add"
      · exact ⟨_, request_add hadd⟩
      by_cases hversion : a.first = "version"
      · exact ⟨_, request_version hversion⟩
      · exact ⟨_, request_other (by simp_all)⟩
    simp [hr, hfirst]

/-- What arguments ask for, by their first word and the words of their options. -/
structure Answers (a : Arguments) (words : List String) : Prop where
  fails_iff : (∃ e, a.request = .error e) ↔ (a.first = "link" ∨ a.first = "scaffold") ∧
    (a.options.get? "parent" = none ∨ a.options.get? "parent" = some "")
  failure : ∀ e, a.request = .error e → e = .missingOption a.first "parent"
  add : a.first = "add" → ∃ parent ownsView, a.request = .ok (.add a.second parent ownsView) ∧
    (∀ p, parent = some p ↔ a.options.get? "parent" = some p ∧ p ≠ "") ∧
    (ownsView = false ↔ "--no-view" ∈ words)
  link : a.first = "link" → ∀ p, a.options.get? "parent" = some p → p ≠ "" →
    a.request = .ok (.link p a.second)
  scaffold : a.first = "scaffold" → ∀ p, a.options.get? "parent" = some p → p ≠ "" →
    a.request = .ok (.scaffold ⟨a.second⟩ p)
  version : a.first = "version" → a.request = .ok .version
  other : a.first ∉ ["add", "link", "scaffold", "version"] → a.request = .ok .help

theorem answers_of_shows {words : List String} (h : a.options.Shows words) : a.Answers words where
  fails_iff := by
    rw [← parent?_eq_none_iff]
    constructor
    · rintro ⟨e, he⟩
      obtain ⟨hfirst, hparent, -⟩ := request_eq_error_iff.mp he
      exact ⟨hfirst, hparent⟩
    · rintro ⟨hfirst, hparent⟩
      exact ⟨_, request_eq_error_iff.mpr ⟨hfirst, hparent, rfl⟩⟩
  failure := fun e he => (request_eq_error_iff.mp he).2.2
  add := by
    intro hfirst
    refine ⟨_, _, request_add hfirst, fun p => parent?_eq_some_iff, ?_⟩
    rw [Bool.not_eq_false', noView_eq_true_iff h]
  link := by
    intro hfirst p hp hne
    rw [request_link hfirst, requiredParent_of_some (parent?_eq_some_iff.mpr ⟨hp, hne⟩)]
    rfl
  scaffold := by
    intro hfirst p hp hne
    rw [request_scaffold hfirst, requiredParent_of_some (parent?_eq_some_iff.mpr ⟨hp, hne⟩)]
    rfl
  version := request_version
  other := request_other

end Arguments

/-- Words are arguments if there are two of them at least. An option is given if its word is there,
with the value that the words from its last place on show, and the request is the one that the first
word and the options ask for. -/
theorem parse_shows_options (tokens : List String) :
    (Arguments.parse tokens = .error .tooFew ↔ tokens.length < 2) ∧
      ∀ first second words, tokens = first :: second :: words → ∃ a,
        Arguments.parse tokens = .ok a ∧ a.first = first ∧ a.second = second ∧
          a.options.Shows words ∧ a.Answers words := by
  constructor
  · match tokens with
    | [] => simp [Arguments.parse]
    | [first] => simp [Arguments.parse]
    | first :: second :: words => simp [Arguments.parse]
  · rintro first second words rfl
    have hshows := shows_readOptions words
    exact ⟨_, rfl, rfl, rfl, hshows, Arguments.answers_of_shows hshows⟩

/-- A stray word, an option that is given twice, and two values of which the last one counts. -/
theorem parse_shows_options_of_repeated :
    let words := ["stray", "--parent", "A", "--parent", "B", "C", "--no-view"]
    LastAt ("--" ++ "parent") words 3 ∧ ValuesEnd words 3 6 ∧ ∃ a,
      Arguments.parse ("scaffold" :: "tree.md" :: words) = .ok a ∧
        a.options.get? "parent" = some "C" ∧ a.request = .ok (.scaffold ⟨"tree.md"⟩ "C") := by
  intro words
  have hlast : LastAt ("--" ++ "parent") words 3 := by
    refine ⟨by decide, ?_⟩
    intro l hl hthere
    have hlt : l < 7 := (List.getElem?_eq_some_iff.mp hthere).1
    obtain rfl | rfl | rfl : l = 4 ∨ l = 5 ∨ l = 6 := by omega
    · exact absurd hthere (by decide)
    · exact absurd hthere (by decide)
    · exact absurd hthere (by decide)
  have hends : ValuesEnd words 3 6 := by
    refine ⟨by decide, ?_, Or.inr ⟨"--no-view", by decide, by decide⟩⟩
    intro l word hl hlt hthere
    obtain rfl | rfl : l = 4 ∨ l = 5 := by omega
    · obtain rfl : "B" = word := Option.some.inj hthere
      decide
    · obtain rfl : "C" = word := Option.some.inj hthere
      decide
  obtain ⟨a, hparse, hfirst, hsecond, hshows, hanswers⟩ :=
    (parse_shows_options ("scaffold" :: "tree.md" :: words)).2 _ _ _ rfl
  have hparent : a.options.get? "parent" = some "C" := hshows.get?_eq_some "parent" 3 6 hlast hends
  refine ⟨hlast, hends, a, hparse, hparent, ?_⟩
  rw [hanswers.scaffold hfirst "C" hparent (by decide), hsecond]

end RibTree
