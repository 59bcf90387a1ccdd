import Passage.Text.Utf8
import Mathlib

namespace Passage.Text

theorem toNat_cases (c : Char) : c.toNat < 0xD800 ∨ 0xDFFF < c.toNat ∧ c.toNat < 0x110000 :=
  c.valid

theorem toNat_ofNat {n : Nat} (small : n < 256) : (UInt8.ofNat n).toNat = n := by
  rw [UInt8.toNat_ofNat', Nat.mod_eq_of_lt small]

section

variable {n : Nat} {u : Unfinished} (low : u.low.toNat ≤ n) (high : n ≤ u.high.toNat)
include low high

theorem decodeFrom_within (rest : List UInt8) :
    decodeFrom (some u) (UInt8.ofNat n :: rest) =
      match u.extend (UInt8.ofNat n) with
      | .inl c => some c :: decodeFrom none rest
      | .inr more => decodeFrom (some more) rest := by
  have bound := u.high.toNat_lt
  have value := toNat_ofNat (n := n) (by omega)
  have inside : u.low ≤ UInt8.ofNat n ∧ UInt8.ofNat n ≤ u.high := by
    rw [UInt8.le_iff_toNat_le, UInt8.le_iff_toNat_le, value]
    exact ⟨low, high⟩
  rw [decodeFrom]
  exact if_pos inside

theorem decodeFrom_last (owed : u.owed = 1) (rest : List UInt8) :
    decodeFrom (some u) (UInt8.ofNat n :: rest) =
      some (Char.ofNat (u.bits * 64 + (n - 128))) :: decodeFrom none rest := by
  have bound := u.high.toNat_lt
  have value := toNat_ofNat (n := n) (by omega)
  rw [decodeFrom_within low high, Unfinished.extend, if_pos (by omega), value]

theorem decodeFrom_more (owed : 1 < u.owed) (rest : List UInt8) :
    decodeFrom (some u) (UInt8.ofNat n :: rest) =
      decodeFrom (some ⟨u.bits * 64 + (n - 128), u.owed - 1, 0x80, 0xBF⟩) rest := by
  have bound := u.high.toNat_lt
  have value := toNat_ofNat (n := n) (by omega)
  rw [decodeFrom_within low high, Unfinished.extend, if_neg (by omega), value]

end

theorem decodeFrom_opens {b : UInt8} {u : Unfinished} (opens : lead b = .opens u)
    (rest : List UInt8) : decodeFrom none (b :: rest) = decodeFrom (some u) rest := by
  rw [decodeFrom, opens]

theorem lead_two {v : Nat} (least : 0x80 ≤ v) (most : v ≤ 0x7FF) :
    lead (UInt8.ofNat (v / 64 % 32 + 192)) = .opens ⟨v / 64, 1, 0x80, 0xBF⟩ := by
  have value := toNat_ofNat (n := v / 64 % 32 + 192) (by omega)
  have bits : v / 64 % 32 + 192 - 0xC0 = v / 64 := by omega
  unfold lead
  simp only [value]
  rw [if_neg (by omega), if_neg (by omega), if_pos (by omega), bits]

/-- The first byte of three narrows the second so that no shorter form and no surrogate can follow. -/
theorem lead_three {v : Nat} (least : 0x800 ≤ v) (most : v ≤ 0xFFFF)
    (valid : v < 0xD800 ∨ 0xDFFF < v) :
    ∃ low high : UInt8, lead (UInt8.ofNat (v / 4096 % 16 + 224)) = .opens ⟨v / 4096, 2, low, high⟩ ∧
      low.toNat ≤ v / 64 % 64 + 128 ∧ v / 64 % 64 + 128 ≤ high.toNat := by
  have value := toNat_ofNat (n := v / 4096 % 16 + 224) (by omega)
  have bits : v / 4096 % 16 + 224 - 0xE0 = v / 4096 := by omega
  unfold lead
  simp only [value]
  rw [if_neg (by omega), if_neg (by omega), if_neg (by omega)]
  by_cases first : v / 4096 = 0
  · rw [if_pos (by omega), first]
    exact ⟨0xA0, 0xBF, rfl, show 160 ≤ _ by omega, show _ ≤ 191 by omega⟩
  rw [if_neg (by omega)]
  by_cases surrogates : v / 4096 = 0xD
  · rw [if_pos (by omega), surrogates]
    exact ⟨0x80, 0x9F, rfl, show 128 ≤ _ by omega, show _ ≤ 159 by omega⟩
  · rw [if_neg (by omega), if_pos (by omega), bits]
    exact ⟨0x80, 0xBF, rfl, show 128 ≤ _ by omega, show _ ≤ 191 by omega⟩

/-- The first byte of four narrows the second so that no shorter form follows and the code point lies in
the last plane at most. -/
theorem lead_four {v : Nat} (least : 0x10000 ≤ v) (most : v < 0x110000) :
    ∃ low high : UInt8, lead (UInt8.ofNat (v / 262144 % 8 + 240)) = .opens ⟨v / 262144, 3, low, high⟩ ∧
      low.toNat ≤ v / 4096 % 64 + 128 ∧ v / 4096 % 64 + 128 ≤ high.toNat := by
  have value := toNat_ofNat (n := v / 262144 % 8 + 240) (by omega)
  have bits : v / 262144 % 8 + 240 - 0xF0 = v / 262144 := by omega
  unfold lead
  simp only [value]
  rw [if_neg (by omega), if_neg (by omega), if_neg (by omega), if_neg (by omega), if_neg (by omega),
    if_neg (by omega)]
  by_cases first : v / 262144 = 0
  · rw [if_pos (by omega), first]
    exact ⟨0x90, 0xBF, rfl, show 144 ≤ _ by omega, show _ ≤ 191 by omega⟩
  rw [if_neg (by omega)]
  by_cases last : v / 262144 = 4
  · rw [if_neg (by omega), if_pos (by omega), last]
    exact ⟨0x80, 0x8F, rfl, show 128 ≤ _ by omega, show _ ≤ 143 by omega⟩
  · rw [if_pos (by omega), bits]
    exact ⟨0x80, 0xBF, rfl, show 128 ≤ _ by omega, show _ ≤ 191 by omega⟩

/-- A character that is whole is decoded whatever stands behind it. -/
theorem decodeFrom_encode (c : Char) (rest : List UInt8) :
    decodeFrom none (String.utf8EncodeChar c ++ rest) = some c :: decodeFrom none rest := by
  have value : c.val.toNat = c.toNat := rfl
  have valid := toNat_cases c
  have back := Char.ofNat_toNat c
  unfold String.utf8EncodeChar
  simp only [value]
  generalize c.toNat = v at *
  have low (n : Nat) : (0x80 : UInt8).toNat ≤ n % 64 + 128 := Nat.le_add_left 128 _
  have high (n : Nat) : n % 64 + 128 ≤ (0xBF : UInt8).toNat := show _ ≤ 191 by omega
  split
  · have first := toNat_ofNat (n := v) (by omega)
    rw [List.singleton_append, decodeFrom, lead, first, if_pos (by omega)]
    dsimp only
    rw [back]
  split
  · have whole : v / 64 * 64 + (v % 64 + 128 - 128) = v := by omega
    simp only [List.cons_append, List.nil_append]
    rw [decodeFrom_opens (lead_two (by omega) (by omega)), decodeFrom_last (low v) (high v) rfl, whole,
      back]
  split
  · obtain ⟨_, _, opens, above, below⟩ := lead_three (v := v) (by omega) (by omega) (by omega)
    have whole : (v / 4096 * 64 + (v / 64 % 64 + 128 - 128)) * 64 + (v % 64 + 128 - 128) = v := by
      omega
    simp only [List.cons_append, List.nil_append]
    rw [decodeFrom_opens opens, decodeFrom_more above below (show 1 < 2 by decide),
      decodeFrom_last (low v) (high v) rfl, whole, back]
  · obtain ⟨_, _, opens, above, below⟩ := lead_four (v := v) (by omega) (by omega)
    have whole : ((v / 262144 * 64 + (v / 4096 % 64 + 128 - 128)) * 64 + (v / 64 % 64 + 128 - 128)) *
        64 + (v % 64 + 128 - 128) = v := by
      omega
    simp only [List.cons_append, List.nil_append]
    rw [decodeFrom_opens opens, decodeFrom_more above below (show 1 < 3 by decide),
      decodeFrom_more (low _) (high _) (show 1 < 2 by decide), decodeFrom_last (low v) (high v) rfl, whole,
      back]

theorem decodeFrom_bytes (s : String) : decodeFrom none (bytes s) = s.toList.map some := by
  unfold bytes
  induction s.toList with
  | nil => rfl
  | cons c cs ih => rw [List.flatMap_cons, decodeFrom_encode, ih, List.map_cons]

theorem lossyText_bytes (s : String) : lossyText (bytes s) = s := by
  rw [lossyText, decodeFrom_bytes, List.map_map]
  exact (congrArg String.ofList (List.map_id' s.toList)).trans String.ofList_toList

theorem text?_bytes (s : String) : text? (bytes s) = some s := by
  have all : s.toList.mapM some = some s.toList :=
    (List.mapM_pure (m := Option) (f := id)).trans (congrArg some (List.map_id s.toList))
  rw [text?, decodeFrom_bytes, List.mapM_map]
  exact (congrArg (Option.map String.ofList) all).trans (congrArg some String.ofList_toList)

theorem bytes_ne_nil {s : String} (nonempty : s ≠ "") : bytes s ≠ [] := by
  intro empty
  have back := lossyText_bytes s
  rw [empty] at back
  exact nonempty back.symm

/-- No byte of a character is zero but that of the NUL. -/
theorem zero_mem_encode_iff (c : Char) : 0 ∈ String.utf8EncodeChar c ↔ c = '\x00' := by
  have value : c.val.toNat = c.toNat := rfl
  have valid := toNat_cases c
  have zero (n : Nat) (small : n < 256) : (0 : UInt8) = UInt8.ofNat n ↔ n = 0 := by
    rw [← UInt8.toNat_inj, toNat_ofNat small]
    exact eq_comm
  have nul : c = '\x00' ↔ c.toNat = 0 := by
    rw [← Char.toNat_inj]
    rfl
  rw [nul]
  unfold String.utf8EncodeChar
  simp only [value]
  generalize c.toNat = v at *
  split
  · rw [List.mem_singleton, zero v (by omega)]
  split
  · simp only [List.mem_cons, List.not_mem_nil, or_false]
    rw [zero _ (by omega), zero _ (by omega)]
    omega
  split
  · simp only [List.mem_cons, List.not_mem_nil, or_false]
    rw [zero _ (by omega), zero _ (by omega), zero _ (by omega)]
    omega
  · simp only [List.mem_cons, List.not_mem_nil, or_false]
    rw [zero _ (by omega), zero _ (by omega), zero _ (by omega), zero _ (by omega)]
    omega

theorem zero_mem_bytes_iff {s : String} : 0 ∈ bytes s ↔ '\x00' ∈ s.toList := by
  simp only [bytes, List.mem_flatMap, zero_mem_encode_iff, exists_eq_right]

end Passage.Text
