import HybridTx.Bytes.Basic

/-! Little-endian digits: a byte string is the digits of its value in base 256, so what is cut off
its front is a remainder, and what is left is a quotient. -/

namespace HybridTx.Bytes

theorem littleToNat_cons (byte : UInt8) (bytes : Bytes) :
    littleToNat (byte :: bytes) = byte.toNat + littleToNat bytes * 256 := rfl

theorem littleToNat_lt (bytes : Bytes) : littleToNat bytes < 256 ^ bytes.length := by
  induction bytes with
  | nil => exact Nat.one_pos
  | cons byte bytes ih =>
    have hbyte := byte.toNat_lt
    rw [littleToNat_cons, List.length_cons, Nat.pow_succ]
    omega

theorem littleToNat_append (front back : Bytes) :
    littleToNat (front ++ back) = littleToNat front + littleToNat back * 256 ^ front.length := by
  induction front with
  | nil => simp [littleToNat]
  | cons byte front ih =>
    rw [List.cons_append, littleToNat_cons, ih, littleToNat_cons, List.length_cons, Nat.pow_succ,
      Nat.add_mul, Nat.add_assoc, Nat.mul_assoc]

theorem littleToNat_take_drop (count : Nat) (bytes : Bytes) :
    littleToNat (bytes.take count) = littleToNat bytes % 256 ^ count ∧
      littleToNat (bytes.drop count) = littleToNat bytes / 256 ^ count := by
  obtain hle | hlt := Nat.le_total count bytes.length
  · have hlength : (bytes.take count).length = count := List.length_take_of_le hle
    have hlow := littleToNat_lt (bytes.take count)
    have hsplit := littleToNat_append (bytes.take count) (bytes.drop count)
    rw [List.take_append_drop, hlength] at hsplit
    rw [hlength] at hlow
    rw [hsplit, Nat.add_mul_mod_self_right, Nat.mod_eq_of_lt hlow,
      Nat.add_mul_div_right _ _ (Nat.zero_lt_of_lt hlow), Nat.div_eq_of_lt hlow, Nat.zero_add]
    exact ⟨rfl, rfl⟩
  · have hvalue : littleToNat bytes < 256 ^ count :=
      Nat.lt_of_lt_of_le (littleToNat_lt bytes) (Nat.pow_le_pow_right (by decide) hlt)
    rw [List.take_of_length_le hlt, List.drop_of_length_le hlt, Nat.mod_eq_of_lt hvalue,
      Nat.div_eq_of_lt hvalue]
    exact ⟨rfl, rfl⟩

theorem littleToNat_littleEndian (width value : Nat) :
    littleToNat (littleEndian width value) = value % 256 ^ width := by
  induction width generalizing value with
  | zero => simp [littleEndian, littleToNat, Nat.mod_one]
  | succ width ih =>
    have hsplit : value % 256 ^ (width + 1) = value % 256 + 256 * (value / 256 % 256 ^ width) := by
      rw [Nat.pow_succ, Nat.mul_comm, Nat.mod_mul]
    rw [littleEndian, littleToNat_cons, ih, UInt8.toNat_ofNat', hsplit]
    omega

theorem littleEndian_littleToNat (bytes : Bytes) :
    littleEndian bytes.length (littleToNat bytes) = bytes := by
  induction bytes with
  | nil => rfl
  | cons byte bytes ih =>
    have hbyte := byte.toNat_lt
    have hrest : (byte.toNat + littleToNat bytes * 256) / 256 = littleToNat bytes := by omega
    have hlow : UInt8.ofNat (byte.toNat + littleToNat bytes * 256) = byte := by
      apply UInt8.toNat_inj.mp
      rw [UInt8.toNat_ofNat']
      omega
    rw [List.length_cons, littleToNat_cons, littleEndian, hrest, ih, hlow]

/-- Digits above the last one that is asked for do not count. -/
theorem littleEndian_mod (width value : Nat) :
    littleEndian width (value % 256 ^ width) = littleEndian width value := by
  have hback := littleEndian_littleToNat (littleEndian width value)
  rwa [length_littleEndian, littleToNat_littleEndian] at hback

end HybridTx.Bytes
