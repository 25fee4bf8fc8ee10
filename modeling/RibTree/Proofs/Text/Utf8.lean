import Mathlib.Data.List.Basic
import RibTree.Text.Utf8

/-!
# Reading the bytes of a text

What is read from the UTF-8 bytes of a text is the text.
-/

namespace RibTree.Text

set_option autoImplicit false

section

variable {byte value low high : Nat} {ranges : List (Nat × Nat)} (hbyte : byte < 256)
variable (rest : List UInt8)
include hbyte

theorem readBytes_alone (hfollowers : followers byte = some []) :
    readBytes 0 [] (UInt8.ofNat byte :: rest) = Char.ofNat byte :: readBytes 0 [] rest := by
  rw [readBytes, readBytes.begin, UInt8.toNat_ofNat', Nat.mod_eq_of_lt hbyte, hfollowers]

theorem readBytes_first (hfollowers : followers byte = some ranges) (hranges : ranges ≠ []) :
    readBytes 0 [] (UInt8.ofNat byte :: rest) =
      readBytes (firstBits byte ranges.length) ranges rest := by
  rw [readBytes, readBytes.begin, UInt8.toNat_ofNat', Nat.mod_eq_of_lt hbyte, hfollowers]
  cases ranges with
  | nil => exact absurd rfl hranges
  | cons => rfl

variable (hlow : low ≤ byte) (hhigh : byte ≤ high)
include hlow hhigh

/-- A byte in its range brings six more bits. -/
theorem readBytes_follower {next : Nat × Nat} :
    readBytes value ((low, high) :: next :: ranges) (UInt8.ofNat byte :: rest) =
      readBytes (value * 64 + byte % 64) (next :: ranges) rest := by
  rw [readBytes, UInt8.toNat_ofNat', Nat.mod_eq_of_lt hbyte, if_pos ⟨hlow, hhigh⟩]
  rfl

theorem readBytes_last :
    readBytes value [(low, high)] (UInt8.ofNat byte :: rest) =
      Char.ofNat (value * 64 + byte % 64) :: readBytes 0 [] rest := by
  rw [readBytes, UInt8.toNat_ofNat', Nat.mod_eq_of_lt hbyte, if_pos ⟨hlow, hhigh⟩]
  rfl

end

theorem readBytes_encodeChar (c : Char) (rest : List UInt8) :
    readBytes 0 [] (String.utf8EncodeChar c ++ rest) = c :: readBytes 0 [] rest := by
  have hvalid : c.toNat < 0xd800 ∨ 0xdfff < c.toNat ∧ c.toNat < 0x110000 := c.valid
  have hc : Char.ofNat c.toNat = c := Char.ofNat_toNat c
  have hv : c.val.toNat = c.toNat := rfl
  rw [String.utf8EncodeChar, hv]
  generalize c.toNat = v at *
  split
  · have hfollowers : followers v = some [] := by rw [followers, if_pos (by omega)]
    rw [List.cons_append, List.nil_append, readBytes_alone (by omega) rest hfollowers, hc]
  split
  · have hfollowers : followers (v / 64 % 32 + 192) = some [(0x80, 0xbf)] := by
      rw [followers, if_neg (by omega), if_neg (by omega), if_pos (by omega)]
    have hvalue : (v / 64 % 32 + 192) % 32 * 64 + (v % 64 + 128) % 64 = v := by omega
    rw [List.cons_append, readBytes_first (by omega) _ hfollowers (by simp), List.cons_append,
      readBytes_last (by omega) _ (by omega) (by omega)]
    change Char.ofNat ((v / 64 % 32 + 192) % 32 * 64 + (v % 64 + 128) % 64) :: _ = _
    rw [hvalue, hc]
    rfl
  split
  · -- the second byte has a smaller range after two of the first bytes, so that there is neither a
    -- form that is too long nor half of a pair
    obtain ⟨low, high, hfollowers, hlow, hhigh⟩ :
        ∃ low high, followers (v / 4096 % 16 + 224) = some [(low, high), (0x80, 0xbf)] ∧
          low ≤ v / 64 % 64 + 128 ∧ v / 64 % 64 + 128 ≤ high := by
      rw [followers, if_neg (by omega), if_neg (by omega), if_neg (by omega)]
      split
      · exact ⟨_, _, rfl, by omega, by omega⟩
      split
      · exact ⟨_, _, rfl, by omega, by omega⟩
      · rw [if_pos (by omega)]
        exact ⟨_, _, rfl, by omega, by omega⟩
    have hvalue : ((v / 4096 % 16 + 224) % 16 * 64 + (v / 64 % 64 + 128) % 64) * 64 +
        (v % 64 + 128) % 64 = v := by omega
    rw [List.cons_append, readBytes_first (by omega) _ hfollowers (by simp), List.cons_append,
      readBytes_follower (by omega) _ hlow hhigh, List.cons_append,
      readBytes_last (by omega) _ (by omega) (by omega)]
    change Char.ofNat (((v / 4096 % 16 + 224) % 16 * 64 + (v / 64 % 64 + 128) % 64) * 64 +
      (v % 64 + 128) % 64) :: _ = _
    rw [hvalue, hc]
    rfl
  · obtain ⟨low, high, hfollowers, hlow, hhigh⟩ :
        ∃ low high, followers (v / 262144 % 8 + 240) =
            some [(low, high), (0x80, 0xbf), (0x80, 0xbf)] ∧
          low ≤ v / 4096 % 64 + 128 ∧ v / 4096 % 64 + 128 ≤ high := by
      rw [followers, if_neg (by omega), if_neg (by omega), if_neg (by omega), if_neg (by omega),
        if_neg (by omega), if_neg (by omega)]
      split
      · exact ⟨_, _, rfl, by omega, by omega⟩
      split
      · exact ⟨_, _, rfl, by omega, by omega⟩
      · rw [if_pos (by omega)]
        exact ⟨_, _, rfl, by omega, by omega⟩
    have hvalue : (((v / 262144 % 8 + 240) % 8 * 64 + (v / 4096 % 64 + 128) % 64) * 64 +
        (v / 64 % 64 + 128) % 64) * 64 + (v % 64 + 128) % 64 = v := by omega
    rw [List.cons_append, readBytes_first (by omega) _ hfollowers (by simp), List.cons_append,
      readBytes_follower (by omega) _ hlow hhigh, List.cons_append,
      readBytes_follower (by omega) _ (by omega) (by omega), List.cons_append,
      readBytes_last (by omega) _ (by omega) (by omega)]
    change Char.ofNat ((((v / 262144 % 8 + 240) % 8 * 64 + (v / 4096 % 64 + 128) % 64) * 64 +
      (v / 64 % 64 + 128) % 64) * 64 + (v % 64 + 128) % 64) :: _ = _
    rw [hvalue, hc]
    rfl

theorem readBytes_flatMap_encodeChar (cs : List Char) :
    readBytes 0 [] (cs.flatMap String.utf8EncodeChar) = cs := by
  induction cs with
  | nil => rw [List.flatMap_nil, readBytes]
  | cons c cs ih => rw [List.flatMap_cons, readBytes_encodeChar, ih]

theorem ofBytes_toUTF8 (s : String) : ofBytes s.toUTF8 = s := by
  have hbytes : s.toUTF8.data.toList = s.toList.flatMap String.utf8EncodeChar := by
    rw [String.toUTF8, ← String.utf8Encode_toList, List.utf8Encode, List.toList_data_toByteArray]
  rw [ofBytes, hbytes, readBytes_flatMap_encodeChar, String.ofList_toList]

end RibTree.Text
