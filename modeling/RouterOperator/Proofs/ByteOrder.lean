import Mathlib.Data.String.Basic

/-!
# The order of texts is the order of their bytes

Texts are compared character by character. In UTF-8 a greater character has a greater encoding, also
where it takes more bytes, and no encoding is a prefix of another one. So the texts have the same
order if they are compared byte by byte.
-/

namespace RouterOperator.Text

/-- The bytes of a text in UTF-8. -/
def bytes (text : String) : List UInt8 := text.toByteArray.data.toList

theorem bytes_eq_flatMap (text : String) :
    bytes text = text.toList.flatMap String.utf8EncodeChar := by
  rw [bytes, ← String.utf8Encode_toList, List.utf8Encode, List.data_toByteArray]

/-- Two lists of bytes come to different bytes, and the first one to the smaller of these. -/
inductive PartsBelow : List UInt8 → List UInt8 → Prop where
  | head {low high first second} (lt : low < high) : PartsBelow (low :: first) (high :: second)
  | tail {byte other first second} (same : byte = other) (rest : PartsBelow first second) :
    PartsBelow (byte :: first) (other :: second)

theorem PartsBelow.append_lt {first second : List UInt8} (h : PartsBelow first second)
    (front back : List UInt8) : first ++ front < second ++ back := by
  induction h with
  | head lt => exact List.cons_lt_cons_iff.mpr (.inl lt)
  | tail same rest ih => exact List.cons_lt_cons_iff.mpr (.inr ⟨same, ih⟩)

theorem ofNat_lt_ofNat {low high : Nat} (h : low < high) (hbyte : high < 256) :
    UInt8.ofNat low < UInt8.ofNat high := by
  rw [UInt8.lt_iff_toNat_lt, UInt8.toNat_ofNat_of_lt' hbyte,
    UInt8.toNat_ofNat_of_lt' (Nat.lt_trans h hbyte)]
  exact h

/-- A greater character has a greater encoding. -/
theorem partsBelow_utf8EncodeChar {low high : Char} (h : low < high) :
    PartsBelow (String.utf8EncodeChar low) (String.utf8EncodeChar high) := by
  have hlt : low.val.toNat < high.val.toNat := h
  have hvalid : high.val.toNat < 1114112 := by
    rcases high.valid with hbelow | ⟨-, hbelow⟩ <;> omega
  unfold String.utf8EncodeChar
  dsimp only
  generalize low.val.toNat = first at hlt
  generalize high.val.toNat = second at hlt hvalid
  -- the last bytes are digits to the base 64, which decide where all digits before are the same
  have hone (hhigh : first / 64 = second / 64) :
      PartsBelow [.ofNat (first % 64 + 128)] [.ofNat (second % 64 + 128)] :=
    .head (ofNat_lt_ofNat (by omega) (by omega))
  have htwo (hhigh : first / 4096 = second / 4096) :
      PartsBelow [.ofNat (first / 64 % 64 + 128), .ofNat (first % 64 + 128)]
        [.ofNat (second / 64 % 64 + 128), .ofNat (second % 64 + 128)] := by
    by_cases hnext : first / 64 = second / 64
    · exact .tail (by rw [hnext]) (hone hnext)
    · exact .head (ofNat_lt_ofNat (by omega) (by omega))
  have hthree (hhigh : first / 262144 = second / 262144) :
      PartsBelow [.ofNat (first / 4096 % 64 + 128), .ofNat (first / 64 % 64 + 128),
          .ofNat (first % 64 + 128)]
        [.ofNat (second / 4096 % 64 + 128), .ofNat (second / 64 % 64 + 128),
          .ofNat (second % 64 + 128)] := by
    by_cases hnext : first / 4096 = second / 4096
    · exact .tail (by rw [hnext]) (htwo hnext)
    · exact .head (ofNat_lt_ofNat (by omega) (by omega))
  -- the first byte tells how many there are, and the more there are the greater it is
  by_cases hsize : first ≤ 127
  · rw [if_pos hsize]
    split_ifs <;> exact .head (ofNat_lt_ofNat (by omega) (by omega))
  rw [if_neg hsize, if_neg (show ¬ second ≤ 127 by omega)]
  by_cases hsize : first ≤ 2047
  · rw [if_pos hsize]
    split_ifs
    · by_cases hnext : first / 64 = second / 64
      · exact .tail (by rw [hnext]) (hone hnext)
      · exact .head (ofNat_lt_ofNat (by omega) (by omega))
    all_goals exact .head (ofNat_lt_ofNat (by omega) (by omega))
  rw [if_neg hsize, if_neg (show ¬ second ≤ 2047 by omega)]
  by_cases hsize : first ≤ 65535
  · rw [if_pos hsize]
    split_ifs
    · by_cases hnext : first / 4096 = second / 4096
      · exact .tail (by rw [hnext]) (htwo hnext)
      · exact .head (ofNat_lt_ofNat (by omega) (by omega))
    · exact .head (ofNat_lt_ofNat (by omega) (by omega))
  rw [if_neg hsize, if_neg (show ¬ second ≤ 65535 by omega)]
  by_cases hnext : first / 262144 = second / 262144
  · exact .tail (by rw [hnext]) (hthree hnext)
  · exact .head (ofNat_lt_ofNat (by omega) (by omega))

theorem flatMap_utf8EncodeChar_lt {first second : List Char} (h : first < second) :
    first.flatMap String.utf8EncodeChar < second.flatMap String.utf8EncodeChar := by
  induction first generalizing second with
  | nil =>
      cases second with
      | nil => exact absurd h (List.lt_irrefl [])
      | cons high back =>
          obtain ⟨byte, rest, hbytes⟩ :=
            List.exists_cons_of_ne_nil (String.utf8EncodeChar_ne_nil (c := high))
          rw [List.flatMap_cons, hbytes]
          exact List.nil_lt_cons byte _
  | cons low front ih =>
      cases second with
      | nil => exact absurd h (by simp)
      | cons high back =>
          rw [List.flatMap_cons, List.flatMap_cons]
          rcases List.cons_lt_cons_iff.mp h with hlt | ⟨rfl, hrest⟩
          · exact (partsBelow_utf8EncodeChar hlt).append_lt _ _
          · exact List.append_left_lt (ih hrest)

/-- The order of texts is the order of their bytes. -/
theorem bytes_lt_bytes_iff {first second : String} :
    bytes first < bytes second ↔ first < second := by
  have hlt {low high : String} (h : low < high) : bytes low < bytes high := by
    rw [bytes_eq_flatMap, bytes_eq_flatMap]
    exact flatMap_utf8EncodeChar_lt (String.lt_iff.mp h)
  refine ⟨fun h => ?_, hlt⟩
  rcases lt_trichotomy first second with hbelow | rfl | habove
  · exact hbelow
  · exact absurd h (List.lt_irrefl _)
  · exact absurd h (List.lt_asymm (hlt habove))

end RouterOperator.Text
