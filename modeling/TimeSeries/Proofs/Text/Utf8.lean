import TimeSeries.Text.Utf8

set_option autoImplicit false

/-!
# Bytes of characters

An ASCII character is the one byte of its number, and other characters have no byte below 128. So
ASCII characters are found at the same places whether a text is read by characters or by bytes.
-/
namespace TimeSeries.Text

theorem utf8EncodeChar_of_ascii {c : Char} (h : c.toNat ≤ 127) :
    String.utf8EncodeChar c = [UInt8.ofNat c.toNat] :=
  if_pos h

theorem le_toNat_of_mem_utf8EncodeChar {c : Char} (h : 127 < c.toNat) {byte : UInt8}
    (hbyte : byte ∈ String.utf8EncodeChar c) : 128 ≤ byte.toNat := by
  have hsize : c.val.toNat = c.toNat := rfl
  simp only [String.utf8EncodeChar, hsize, if_neg (Nat.not_le.2 h)] at hbyte
  have hofNat (n : Nat) (h : 128 ≤ n % 256) : 128 ≤ (UInt8.ofNat n).toNat := by
    rwa [UInt8.toNat_ofNat']
  split at hbyte
  · simp only [List.mem_cons, List.not_mem_nil, or_false] at hbyte
    rcases hbyte with rfl | rfl
    all_goals
      refine hofNat _ ?_
      omega
  · split at hbyte
    · simp only [List.mem_cons, List.not_mem_nil, or_false] at hbyte
      rcases hbyte with rfl | rfl | rfl
      all_goals
        refine hofNat _ ?_
        omega
    · simp only [List.mem_cons, List.not_mem_nil, or_false] at hbyte
      rcases hbyte with rfl | rfl | rfl | rfl
      all_goals
        refine hofNat _ ?_
        omega

theorem toNat_ofUInt8 (byte : UInt8) : (Char.ofUInt8 byte).toNat = byte.toNat := rfl

theorem ofUInt8_injective : Function.Injective Char.ofUInt8 := by
  intro a b h
  have hnat := congrArg Char.toNat h
  rw [toNat_ofUInt8, toNat_ofUInt8] at hnat
  exact UInt8.toNat_inj.1 hnat

theorem map_ofUInt8_of_ascii {c : Char} (h : c.toNat ≤ 127) :
    (String.utf8EncodeChar c).map Char.ofUInt8 = [c] := by
  rw [utf8EncodeChar_of_ascii h, List.map_singleton]
  refine congrArg (fun d => [d]) (Char.toNat_inj.1 ?_)
  rw [toNat_ofUInt8, UInt8.toNat_ofNat', Nat.mod_eq_of_lt (by omega)]

theorem ofUInt8_ne {c d : Char} (hne : c ≠ d) (hd : d.toNat ≤ 127) {byte : UInt8}
    (hbyte : byte ∈ String.utf8EncodeChar c) : Char.ofUInt8 byte ≠ d := by
  rintro rfl
  rw [toNat_ofUInt8] at hd
  by_cases hc : c.toNat ≤ 127
  · have hmem := List.mem_map_of_mem (f := Char.ofUInt8) hbyte
    rw [map_ofUInt8_of_ascii hc, List.mem_singleton] at hmem
    exact hne hmem.symm
  · have hle := le_toNat_of_mem_utf8EncodeChar (Nat.not_le.1 hc) hbyte
    omega

theorem count_map_encode {d : Char} (hd : d.toNat ≤ 127) (text : List Char) :
    ((encode text).map Char.ofUInt8).count d = text.count d := by
  induction text with
  | nil => rfl
  | cons c rest ih =>
    rw [encode, List.flatMap_cons, List.map_append, List.count_append, ← encode, ih,
      List.count_cons]
    by_cases hc : c = d
    · rw [hc, map_ofUInt8_of_ascii hd, List.count_singleton_self, if_pos (beq_self_eq_true d),
        Nat.add_comm]
    · have hnone : d ∉ (String.utf8EncodeChar c).map Char.ofUInt8 := by
        intro hmem
        obtain ⟨byte, hbyte, hbyte'⟩ := List.mem_map.1 hmem
        exact ofUInt8_ne hc hd hbyte hbyte'
      rw [List.count_eq_zero_of_not_mem hnone, if_neg (by simpa using hc), Nat.zero_add,
        Nat.add_zero]

end TimeSeries.Text
