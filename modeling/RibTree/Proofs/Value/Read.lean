import Mathlib.Data.List.Basic
import RibTree.Value.Read

/-!
# Printed values read back

The JSON text of a value without real numbers reads back as the value, as far as its integers fit
into a word. A value is read off the front of a text: a number goes on as long as there are digits,
and what follows a value inside of another one is a comma or a closing bracket, which no number
goes on with.
-/

namespace RibTree.Value

set_option autoImplicit false

/-- Values without real numbers, with integers that fit into a word. -/
inductive Plain : Value → Prop
  | null : Plain null
  | boolean (b : Bool) : Plain (boolean b)
  | integer {n : Int} : -(wordLimit / 2 : Nat) ≤ n → n < wordLimit → Plain (integer n)
  | string (s : String) : Plain (string s)
  | sequence {items : List Value} : (∀ item ∈ items, Plain item) → Plain (sequence items)
  | mapping {members : List (String × Value)} :
      (∀ member ∈ members, Plain member.2) → Plain (mapping members)

/-- What can stand behind a value: nothing, a comma or a closing bracket. -/
def Follows (rest : List Char) : Prop := ∀ c ∈ rest.head?, c ∈ [',', ']', '\x7d']

variable {rest : List Char}

theorem follows_cons {c : Char} (hc : c ∈ [',', ']', '\x7d']) (rest : List Char) :
    Follows (c :: rest) := by
  intro d hd
  rwa [← Option.some.inj hd]

theorem Follows.eq_of_cons {c : Char} (h : Follows (c :: rest)) :
    c = ',' ∨ c = ']' ∨ c = '\x7d' := by
  have hc := h c rfl
  simpa only [List.mem_cons, List.not_mem_nil, or_false] using hc

/-! ### Numbers -/

section

variable {n : Nat} {c : Char} {digits : List Char}

theorem isDigit_of_mem (hc : c ∈ Nat.toDigits 10 n) : c.isDigit = true :=
  Nat.isDigit_of_mem_toDigits (by decide) (by decide) hc

theorem le_ofDigitChars (digits : List Char) (n : Nat) : n ≤ Nat.ofDigitChars 10 digits n := by
  have hpower : 0 < 10 ^ digits.length := Nat.pow_pos (by decide)
  rw [Nat.ofDigitChars_eq_ofDigitChars_zero]
  exact Nat.le_trans (Nat.le_mul_of_pos_left n hpower) (Nat.le_add_right ..)

/-- Digits are read in full if the number that they write fits into a word. -/
theorem wholeDigits_eq (h : Nat.ofDigitChars 10 digits n < wordLimit) :
    wholeDigits n digits = (Nat.ofDigitChars 10 digits n, 0) := by
  induction digits generalizing n with
  | nil => rfl
  | cons c digits ih =>
      rw [Nat.ofDigitChars_cons] at h ⊢
      have hfits : 10 * n + Decimal.digitValue c < wordLimit :=
        Nat.lt_of_le_of_lt (le_ofDigitChars digits _) h
      rw [wholeDigits, pushDigit?]
      simp only [hfits, if_true]
      exact ih h

theorem wholeDigits_toDigits (h : n < wordLimit) :
    wholeDigits 0 (Nat.toDigits 10 n) = (n, 0) := by
  have hvalue : Nat.ofDigitChars 10 (Nat.toDigits 10 n) 0 = n :=
    Nat.ofDigitChars_toDigits (by decide) (by decide)
  rw [wholeDigits_eq (by rwa [hvalue]), hvalue]

theorem ofNumber_toDigits (h : n < wordLimit) :
    ofNumber false (Nat.toDigits 10 n) none none = some (integer n) := by
  rw [ofNumber, wholeDigits_toDigits h]
  rfl

theorem ofNumber_negative_toDigits (hpos : 0 < n) (h : n ≤ wordLimit / 2) :
    ofNumber true (Nat.toDigits 10 n) none none = some (integer (-n)) := by
  have hlimit : n < wordLimit := Nat.lt_of_le_of_lt h (by rw [wordLimit]; decide)
  have hne : n ≠ 0 := Nat.pos_iff_ne_zero.mp hpos
  rw [ofNumber, wholeDigits_toDigits hlimit]
  simp [fractionDigits, hne, h]

/-- Only zero is written with a zero in front. -/
theorem eq_zero_of_head?_toDigits (h : (Nat.toDigits 10 n).head? = some '0') : n = 0 := by
  induction n using Nat.strongRecOn with
  | ind n ih =>
      rw [Nat.toDigits_eq_if (by decide)] at h
      split at h
      · rename_i hsmall
        have hdigit : ∀ k < 10, Nat.digitChar k = '0' → k = 0 := by decide
        exact hdigit n hsmall (Option.some.inj h)
      · rename_i hlarge
        rw [List.head?_append_of_ne_nil _ Nat.toDigits_ne_nil] at h
        have hfront := ih (n / 10) (by omega) h
        omega

theorem head?_ne_zero_or_length (n : Nat) :
    ((Nat.toDigits 10 n).head? == some '0' && (Nat.toDigits 10 n).length != 1) = false := by
  by_cases hzero : (Nat.toDigits 10 n).head? = some '0'
  · rw [eq_zero_of_head?_toDigits hzero]
    rfl
  · rw [beq_false_of_ne hzero, Bool.false_and]

theorem Follows.takeWhile_eq_nil (h : Follows rest) : rest.takeWhile Char.isDigit = [] := by
  cases rest with
  | nil => rfl
  | cons c rest => rcases h.eq_of_cons with rfl | rfl | rfl <;> rfl

theorem Follows.dropWhile_eq (h : Follows rest) : rest.dropWhile Char.isDigit = rest := by
  cases rest with
  | nil => rfl
  | cons c rest => rcases h.eq_of_cons with rfl | rfl | rfl <;> rfl

theorem takeWhile_toDigits_append (hrest : Follows rest) :
    (Nat.toDigits 10 n ++ rest).takeWhile Char.isDigit = Nat.toDigits 10 n := by
  rw [List.takeWhile_append_of_pos fun c hc => isDigit_of_mem hc, hrest.takeWhile_eq_nil,
    List.append_nil]

theorem dropWhile_toDigits_append (hrest : Follows rest) :
    (Nat.toDigits 10 n ++ rest).dropWhile Char.isDigit = rest := by
  rw [List.dropWhile_append_of_pos fun c hc => isDigit_of_mem hc, hrest.dropWhile_eq]

theorem unsigned?_toDigits (negative : Bool) (n : Nat) (hrest : Follows rest) :
    unsigned? negative (Nat.toDigits 10 n ++ rest) =
      (ofNumber negative (Nat.toDigits 10 n) none none).map (·, rest) := by
  have hempty : (Nat.toDigits 10 n).isEmpty = false :=
    List.isEmpty_eq_false_iff.mpr Nat.toDigits_ne_nil
  rw [unsigned?, takeWhile_toDigits_append hrest, dropWhile_toDigits_append hrest, hempty,
    head?_ne_zero_or_length]
  cases rest with
  | nil => exact Option.map_eq_bind.symm
  | cons c rest => rcases hrest.eq_of_cons with rfl | rfl | rfl <;> exact Option.map_eq_bind.symm

theorem number?_ofNat (n : Nat) (hrest : Follows rest) :
    number? (Nat.toDigits 10 n ++ rest) =
      (ofNumber false (Nat.toDigits 10 n) none none).map (·, rest) := by
  rw [number?, unsigned?_toDigits false n hrest]
  intro after h
  obtain ⟨c, digits, hdigits⟩ := List.exists_cons_of_ne_nil (Nat.toDigits_ne_nil (b := 10) (n := n))
  rw [hdigits, List.cons_append, List.cons.injEq] at h
  have hc : c ∈ Nat.toDigits 10 n := by
    rw [hdigits]
    exact List.mem_cons_self
  rw [h.1] at hc
  exact absurd (isDigit_of_mem hc) (by decide)

/-- The text of an integer reads back. -/
theorem number?_toString {n : Int} (hlow : -(wordLimit / 2 : Nat) ≤ n) (hhigh : n < wordLimit)
    (hrest : Follows rest) : number? ((toString n).toList ++ rest) = some (integer n, rest) := by
  cases n with
  | ofNat n =>
      have htext : (toString (Int.ofNat n)).toList = Nat.toDigits 10 n := Nat.toList_repr
      rw [htext, number?_ofNat n hrest, ofNumber_toDigits (Int.ofNat_lt.mp hhigh)]
      rfl
  | negSucc n =>
      have htext : (toString (Int.negSucc n)).toList = '-' :: Nat.toDigits 10 (n + 1) := by
        have hsign : toString (Int.negSucc n) = "-" ++ toString (n + 1) := rfl
        rw [hsign, String.toList_append]
        exact congrArg ('-' :: ·) Nat.toList_repr
      rw [htext, List.cons_append, number?, unsigned?_toDigits true (n + 1) hrest,
        ofNumber_negative_toDigits (Nat.succ_pos n) (by omega)]
      rfl

end

/-! ### Strings -/

theorem hexDigitOf?_hexDigit {n : Nat} (h : n < 16) : hexDigitOf? (hexDigit n) = some n := by
  have hdigits : ∀ n < 16, hexDigitOf? (hexDigit n) = some n := by decide
  exact hdigits n h

theorem stringRest_code_cons {missing value digit : Nat} {c : Char}
    (hc : hexDigitOf? c = some digit) (hmissing : 1 < missing) (t : List Char) :
    stringRest (.code missing value) 0 (c :: t) =
      stringRest (.code (missing - 1) (16 * value + digit)) 0 t := by
  simp only [stringRest, hc, Option.bind_eq_bind, Option.bind_some, if_pos hmissing]

/-- The code of a character below the blank. -/
theorem stringRest_code {n : Nat} (h : n < 0x20) (t : List Char) :
    stringRest (.code 4 0) 0 ('0' :: '0' :: hexDigit (n / 16) :: hexDigit (n % 16) :: t) =
      (stringRest .text 0 t).map fun (s, after) => (Char.ofNat n :: s, after) := by
  have hzero : hexDigitOf? '0' = some 0 := hexDigitOf?_hexDigit (n := 0) (by decide)
  have hfirst := hexDigitOf?_hexDigit (show n / 16 < 16 by omega)
  have hlast := hexDigitOf?_hexDigit (show n % 16 < 16 by omega)
  have hvalue : 16 * (16 * (16 * (16 * 0 + 0) + 0) + n / 16) + n % 16 = n := by omega
  have hhigh : isHigh n = false := by
    rw [isHigh, decide_eq_false (by omega), Bool.false_and]
  have hlow : isLow n = false := by
    rw [isLow, decide_eq_false (by omega), Bool.false_and]
  rw [stringRest_code_cons hzero (by decide), stringRest_code_cons hzero (by decide),
    stringRest_code_cons hfirst (by decide)]
  simp only [stringRest, hlast, Option.bind_eq_bind, Option.bind_some, hvalue, hhigh, hlow]
  exact Option.map_eq_bind.symm

theorem stringRest_escape (c : Char) (t : List Char) :
    stringRest .text 0 (escape c ++ t) =
      (stringRest .text 0 t).map fun (s, after) => (c :: s, after) := by
  have hescaped : ∀ {mark : Char}, mark ≠ 'u' → unescaped? mark = some c →
      stringRest .text 0 ('\\' :: mark :: t) =
        (stringRest .text 0 t).map fun (s, after) => (c :: s, after) := by
    intro mark hcode hmark
    simp only [stringRest, if_true, if_neg hcode, hmark, Option.bind_eq_bind, Option.bind_some]
    exact Option.map_eq_bind.symm
  unfold escape
  split
  · rename_i hc
    rcases hc with rfl | rfl <;> exact hescaped (by decide) (by decide)
  split
  · rename_i hc
    subst hc
    exact hescaped (by decide) (by decide)
  split
  · rename_i hc
    subst hc
    exact hescaped (by decide) (by decide)
  split
  · rename_i hc
    subst hc
    exact hescaped (by decide) (by decide)
  split
  · rename_i hc
    obtain rfl : c = '\x08' := Char.toNat_inj.mp hc
    exact hescaped (by decide) (by decide)
  split
  · rename_i hc
    obtain rfl : c = '\x0c' := Char.toNat_inj.mp hc
    exact hescaped (by decide) (by decide)
  split
  · rename_i hsmall
    have hcode := stringRest_code hsmall t
    rw [Char.ofNat_toNat] at hcode
    rw [← hcode]
    simp [stringRest]
  · rename_i hmarks _ _ _ _ _ hlarge
    obtain ⟨hquote, hslash⟩ := not_or.mp hmarks
    simp [stringRest, hquote, hslash, hlarge]

theorem stringRest_flatMap_escape (s rest : List Char) :
    stringRest .text 0 (s.flatMap escape ++ '"' :: rest) = some (s, rest) := by
  induction s with
  | nil => rfl
  | cons c s ih => rw [List.flatMap_cons, List.append_assoc, stringRest_escape, ih, Option.map_some]

/-- A quoted text reads back, whatever follows it. -/
theorem string?_quote (s : String) (rest : List Char) :
    string? (quote s ++ rest) = some (s, rest) := by
  have hquote : quote s ++ rest = '"' :: (s.toList.flatMap escape ++ '"' :: rest) := by
    simp [quote]
  rw [hquote, string?, stringRest_flatMap_escape, Option.map_some]
  exact congrArg (fun text => some (text, rest)) String.ofList_toList

/-! ### Values -/

theorem isDigit_cases {c : Char} (hc : c.isDigit = true) :
    c ∈ ['0', '1', '2', '3', '4', '5', '6', '7', '8', '9'] := by
  have hcode : 48 ≤ c.toNat ∧ c.toNat ≤ 57 := by
    simpa [Char.isDigit, UInt32.le_iff_toNat_le] using hc
  have hdigits : ∀ n < 58, 48 ≤ n →
      Char.ofNat n ∈ ['0', '1', '2', '3', '4', '5', '6', '7', '8', '9'] := by decide
  have hdigit := hdigits c.toNat (by omega) hcode.1
  rwa [Char.ofNat_toNat] at hdigit

theorem value?_of_number {c : Char} (hc : c.isDigit = true ∨ c = '-') (fuel : Nat)
    (t : List Char) : value? (fuel + 1) (c :: t) = number? (c :: t) := by
  rcases hc with hc | rfl
  · have hdigits := isDigit_cases hc
    simp only [List.mem_cons, List.not_mem_nil, or_false] at hdigits
    rcases hdigits with rfl | rfl | rfl | rfl | rfl | rfl | rfl | rfl | rfl | rfl <;> rfl
  · rfl

theorem exists_toString_cons (n : Int) :
    ∃ c digits, (toString n).toList = c :: digits ∧ (c.isDigit = true ∨ c = '-') := by
  cases n with
  | ofNat n =>
      obtain ⟨c, digits, hdigits⟩ :=
        List.exists_cons_of_ne_nil (Nat.toDigits_ne_nil (b := 10) (n := n))
      refine ⟨c, digits, Nat.toList_repr.trans hdigits, Or.inl (isDigit_of_mem (n := n) ?_)⟩
      rw [hdigits]
      exact List.mem_cons_self
  | negSucc n =>
      have hsign : toString (Int.negSucc n) = "-" ++ toString (n + 1) := rfl
      exact ⟨'-', (toString (n + 1)).toList, by rw [hsign, String.toList_append]; rfl, Or.inr rfl⟩

/-- The value is read off every text that begins with its JSON text and goes on as it can. -/
def Reads (v : Value) : Prop :=
  ∀ (fuel : Nat) (rest : List Char), 2 * v.json.length < fuel → Follows rest →
    value? fuel (v.json ++ rest) = some (v, rest)

theorem reads_integer {n : Int} (hlow : -(wordLimit / 2 : Nat) ≤ n) (hhigh : n < wordLimit) :
    Reads (integer n) := by
  intro fuel rest hfuel hrest
  obtain ⟨fuel, rfl⟩ := Nat.exists_eq_add_one.mpr (Nat.zero_lt_of_lt hfuel)
  obtain ⟨c, digits, htext, hc⟩ := exists_toString_cons n
  have hnumber := number?_toString hlow hhigh hrest
  rw [json, htext] at *
  rw [List.cons_append, value?_of_number hc]
  exact hnumber

theorem reads_string (s : String) : Reads (string s) := by
  intro fuel rest hfuel _
  obtain ⟨fuel, rfl⟩ := Nat.exists_eq_add_one.mpr (Nat.zero_lt_of_lt hfuel)
  have hstring := string?_quote s rest
  change (string? (quote s ++ rest)).map _ = _
  rw [hstring]
  rfl

/-- The text of a value begins with no blank and no closing bracket. -/
theorem exists_json_cons {v : Value} (h : Plain v) :
    ∃ c t, v.json = c :: t ∧ c ∉ [' ', '\t', '\n', '\r', ']'] := by
  cases h with
  | null => exact ⟨'n', _, rfl, by decide⟩
  | boolean b => cases b <;> exact ⟨_, _, rfl, by decide⟩
  | integer =>
      obtain ⟨c, digits, htext, hc⟩ := exists_toString_cons _
      refine ⟨c, digits, htext, ?_⟩
      rcases hc with hc | rfl
      · intro hblank
        simp only [List.mem_cons, List.not_mem_nil, or_false] at hblank
        rcases hblank with rfl | rfl | rfl | rfl | rfl <;> exact absurd hc (by decide)
      · decide
  | string s => exact ⟨'"', _, rfl, by decide⟩
  | sequence => exact ⟨'[', _, rfl, by decide⟩
  | mapping => exact ⟨'\x7b', _, rfl, by decide⟩

theorem items?_jsonItems {items : List Value}
    (hreads : ∀ item ∈ items, Reads item) (hne : items ≠ []) {fuel : Nat}
    (hfuel : 2 * (jsonItems items).length + 1 < fuel) (rest : List Char) :
    items? fuel (jsonItems items ++ ']' :: rest) = some (items, rest) := by
  induction items generalizing fuel with
  | nil => exact absurd rfl hne
  | cons item items ih =>
      obtain ⟨hitem, hitems⟩ := List.forall_mem_cons.mp hreads
      obtain ⟨fuel, rfl⟩ := Nat.exists_eq_add_one.mpr (Nat.zero_lt_of_lt hfuel)
      cases items with
      | nil =>
          rw [jsonItems] at hfuel ⊢
          have hlast := hitem fuel _ (by omega) (follows_cons (c := ']') (by decide) rest)
          rw [items?, hlast]
          rfl
      | cons next items =>
          rw [jsonItems, List.length_append, List.length_cons] at hfuel
          · have hfirst := hitem fuel _ (by omega)
              (follows_cons (c := ',') (by decide) (jsonItems (next :: items) ++ ']' :: rest))
            have hlater : items? fuel (jsonItems (next :: items) ++ ']' :: rest) =
                some (next :: items, rest) := ih hitems (List.cons_ne_nil _ _) (by omega)
            rw [jsonItems, List.append_assoc, List.cons_append, items?, hfirst]
            · change (items? fuel (jsonItems (next :: items) ++ ']' :: rest)).bind _ = _
              rw [hlater]
              rfl
            · simp
          · simp

theorem members?_jsonMembers {members : List (String × Value)}
    (hreads : ∀ member ∈ members, Reads member.2) (hne : members ≠ []) {fuel : Nat}
    (hfuel : 2 * (jsonMembers members).length + 1 < fuel) (rest : List Char) :
    members? fuel (jsonMembers members ++ '\x7d' :: rest) = some (members, rest) := by
  induction members generalizing fuel with
  | nil => exact absurd rfl hne
  | cons member members ih =>
      obtain ⟨key, value⟩ := member
      obtain ⟨hvalue, hmembers⟩ : Reads value ∧ ∀ member ∈ members, Reads member.2 :=
        List.forall_mem_cons.mp hreads
      obtain ⟨fuel, rfl⟩ := Nat.exists_eq_add_one.mpr (Nat.zero_lt_of_lt hfuel)
      have hkey : ∀ t, string? (skipBlanks (quote key ++ t)) = some (key, t) := string?_quote key
      cases members with
      | nil =>
          rw [jsonMembers, List.length_append, List.length_cons] at hfuel
          have hlast := hvalue fuel _ (by omega) (follows_cons (c := '\x7d') (by decide) rest)
          rw [jsonMembers, List.append_assoc, List.cons_append, members?, hkey]
          change (value? fuel (value.json ++ '\x7d' :: rest)).bind _ = _
          rw [hlast]
          rfl
      | cons next members =>
          rw [jsonMembers, List.length_append, List.length_append, List.length_cons,
            List.length_cons] at hfuel
          · have hfirst := hvalue fuel _ (by omega) (follows_cons (c := ',') (by decide)
              (jsonMembers (next :: members) ++ '\x7d' :: rest))
            have hlater : members? fuel (jsonMembers (next :: members) ++ '\x7d' :: rest) =
                some (next :: members, rest) := ih hmembers (List.cons_ne_nil _ _) (by omega)
            rw [jsonMembers, List.append_assoc, List.append_assoc, List.cons_append,
              List.cons_append, members?, hkey]
            · change (value? fuel (value.json ++
                ',' :: (jsonMembers (next :: members) ++ '\x7d' :: rest))).bind _ = _
              rw [hfirst]
              change (members? fuel (jsonMembers (next :: members) ++ '\x7d' :: rest)).bind _ = _
              rw [hlater]
              rfl
            · simp
          · simp

theorem value?_bracket {c : Char} (hc : c ∉ [' ', '\t', '\n', '\r', ']']) (fuel : Nat)
    (t : List Char) :
    value? (fuel + 1) ('[' :: c :: t) =
      (items? fuel (c :: t)).map fun read => (sequence read.1, read.2) := by
  simp only [List.mem_cons, List.not_mem_nil, or_false, not_or] at hc
  obtain ⟨hblank, htab, hfeed, hreturn, hclose⟩ := hc
  have hskip : skipBlanks (c :: t) = c :: t := by
    simp [skipBlanks, hblank, htab, hfeed, hreturn]
  have hopen : skipBlanks ('[' :: c :: t) = '[' :: c :: t := rfl
  rw [value?, hopen]
  simp only [hskip]
  split
  · rename_i hhead
    exact absurd (List.cons.inj hhead).1 hclose
  · rfl

theorem reads_sequence {items : List Value} (hplain : ∀ item ∈ items, Plain item)
    (hreads : ∀ item ∈ items, Reads item) : Reads (sequence items) := by
  intro fuel rest hfuel _
  obtain ⟨fuel, rfl⟩ := Nat.exists_eq_add_one.mpr (Nat.zero_lt_of_lt hfuel)
  cases items with
  | nil => rfl
  | cons item items =>
      have hlength : 2 * (jsonItems (item :: items)).length + 1 < fuel := by
        simp only [json, List.length_append, List.length_cons, List.length_nil] at hfuel
        omega
      have hitems := items?_jsonItems hreads (List.cons_ne_nil _ _) hlength rest
      obtain ⟨c, t, hitem, hc⟩ := exists_json_cons (hplain item List.mem_cons_self)
      have hbegin : ∃ t, jsonItems (item :: items) = c :: t := by
        cases items with
        | nil => exact ⟨t, hitem⟩
        | cons next items => exact ⟨_, by rw [jsonItems, hitem]; rfl; simp⟩
      obtain ⟨t, hbegin⟩ := hbegin
      have htext : (sequence (item :: items)).json ++ rest =
          '[' :: (jsonItems (item :: items) ++ ']' :: rest) := by
        simp [json]
      rw [htext, hbegin, List.cons_append, value?_bracket hc, ← List.cons_append, ← hbegin, hitems]
      rfl

theorem reads_mapping {members : List (String × Value)}
    (hreads : ∀ member ∈ members, Reads member.2) : Reads (mapping members) := by
  intro fuel rest hfuel _
  obtain ⟨fuel, rfl⟩ := Nat.exists_eq_add_one.mpr (Nat.zero_lt_of_lt hfuel)
  cases members with
  | nil => rfl
  | cons member members =>
      have hlength : 2 * (jsonMembers (member :: members)).length + 1 < fuel := by
        simp only [json, List.length_append, List.length_cons, List.length_nil] at hfuel
        omega
      have hmembers := members?_jsonMembers hreads (List.cons_ne_nil _ _) hlength rest
      have htext : (mapping (member :: members)).json ++ rest =
          '\x7b' :: (jsonMembers (member :: members) ++ '\x7d' :: rest) := by
        simp [json]
      have hbrace : value? (fuel + 1)
          ('\x7b' :: (jsonMembers (member :: members) ++ '\x7d' :: rest)) =
          (members? fuel (jsonMembers (member :: members) ++ '\x7d' :: rest)).map
            fun read => (mapping read.1, read.2) := by
        cases members <;> rfl
      rw [htext, hbrace, hmembers]
      rfl

theorem Plain.reads {v : Value} (h : Plain v) : Reads v := by
  induction h with
  | null =>
      intro fuel rest hfuel _
      obtain ⟨fuel, rfl⟩ := Nat.exists_eq_add_one.mpr (Nat.zero_lt_of_lt hfuel)
      rfl
  | boolean b =>
      intro fuel rest hfuel _
      obtain ⟨fuel, rfl⟩ := Nat.exists_eq_add_one.mpr (Nat.zero_lt_of_lt hfuel)
      cases b <;> rfl
  | integer hlow hhigh => exact reads_integer hlow hhigh
  | string s => exact reads_string s
  | sequence hitems ih => exact reads_sequence hitems ih
  | mapping _ ih => exact reads_mapping ih

/-- A printed value reads back as it was. -/
theorem ofText?_line {v : Value} (h : Plain v) : ofText? v.line = some v := by
  have hread := h.reads (2 * v.json.length + 2) [] (by omega) (by simp [Follows])
  rw [List.append_nil] at hread
  rw [ofText?, line, String.toList_ofList, hread]
  rfl

theorem map_ofText?_line {values : List Value} (h : ∀ v ∈ values, Plain v) :
    (values.map line).map ofText? = values.map some := by
  rw [List.map_map]
  exact List.map_congr_left fun v hv => ofText?_line (h v hv)

end RibTree.Value
