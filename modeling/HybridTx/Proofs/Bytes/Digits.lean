import Mathlib.Tactic.Ring
import Mathlib.Data.List.Induction
import HybridTx.Rlp.Encode

/-! Big-endian digits: byte strings that do not start with zero stand for the natural numbers, each
for one, and a word has the digits of its value. -/

namespace HybridTx

theorem bitLength_le_iff {value bits : Nat} : bitLength value ≤ bits ↔ value < 2 ^ bits := by
  unfold bitLength
  split
  · next h => simp [h]
  · next h => rw [← Nat.log2_lt h]; omega

namespace Bytes

theorem toNat_append (front back : Bytes) :
    toNat (front ++ back) = toNat front * 256 ^ back.length + toNat back := by
  induction back using List.reverseRecOn with
  | nil => simp
  | append_singleton back byte ih =>
    rw [← List.append_assoc, toNat_append_singleton, toNat_append_singleton, ih]
    simp only [List.length_append, List.length_singleton, Nat.pow_succ]
    ring

theorem toNat_cons (byte : UInt8) (bytes : Bytes) :
    toNat (byte :: bytes) = byte.toNat * 256 ^ bytes.length + toNat bytes := by
  have h := toNat_append [byte] bytes
  simpa [toNat] using h

theorem toNat_lt (bytes : Bytes) : toNat bytes < 256 ^ bytes.length := by
  induction bytes with
  | nil => simp
  | cons byte bytes ih =>
    have hb := byte.toNat_lt
    calc toNat (byte :: bytes) = byte.toNat * 256 ^ bytes.length + toNat bytes := toNat_cons ..
      _ < (byte.toNat + 1) * 256 ^ bytes.length := by rw [Nat.add_mul]; omega
      _ ≤ 256 * 256 ^ bytes.length := Nat.mul_le_mul_right _ (by omega)
      _ = 256 ^ (byte :: bytes).length := by rw [List.length_cons, Nat.pow_succ, Nat.mul_comm]

theorem toNat_bigEndian (width value : Nat) :
    toNat (bigEndian width value) = value % 256 ^ width := by
  induction width generalizing value with
  | zero => simp [bigEndian, Nat.mod_one]
  | succ width ih =>
    have hsplit : value % 256 ^ (width + 1) = value % 256 + 256 * (value / 256 % 256 ^ width) := by
      rw [Nat.pow_succ, Nat.mul_comm, Nat.mod_mul]
    rw [bigEndian, toNat_append_singleton, ih, UInt8.toNat_ofNat', hsplit]
    omega

theorem bigEndian_toNat (bytes : Bytes) : bigEndian bytes.length (toNat bytes) = bytes := by
  induction bytes using List.reverseRecOn with
  | nil => rfl
  | append_singleton bytes byte ih =>
    have hb := byte.toNat_lt
    have hdiv : (toNat bytes * 256 + byte.toNat) / 256 = toNat bytes := by omega
    have hlow : UInt8.ofNat (toNat bytes * 256 + byte.toNat) = byte := by
      apply UInt8.toNat_inj.mp
      rw [UInt8.toNat_ofNat']
      omega
    rw [List.length_append, List.length_singleton, toNat_append_singleton, bigEndian, hdiv, ih,
      hlow]

theorem length_ofNat_le_iff {value width : Nat} :
    (ofNat value).length ≤ width ↔ value < 256 ^ width := by
  have h : (256 : Nat) ^ width = 2 ^ (8 * width) := by rw [Nat.pow_mul]
  rw [ofNat, length_bigEndian, h, ← bitLength_le_iff]
  omega

@[simp] theorem toNat_ofNat (value : Nat) : toNat (ofNat value) = value := by
  have h : value < 256 ^ (ofNat value).length := length_ofNat_le_iff.mp le_rfl
  rw [ofNat, toNat_bigEndian]
  rw [ofNat, length_bigEndian] at h
  exact Nat.mod_eq_of_lt h

/-- A digit string that does not start with zero has as many digits as its value needs. -/
theorem length_ofNat_toNat {bytes : Bytes} (h : bytes.head? ≠ some 0) :
    (ofNat (toNat bytes)).length = bytes.length := by
  apply le_antisymm (length_ofNat_le_iff.mpr (toNat_lt bytes))
  cases bytes with
  | nil => simp
  | cons byte bytes =>
    have hb : 0 < byte.toNat := by
      apply Nat.pos_of_ne_zero
      intro hz
      exact h (by simp [UInt8.toNat_inj.mp (hz.trans UInt8.toNat_zero.symm)])
    by_contra hlt
    have hsmall : toNat (byte :: bytes) < 256 ^ bytes.length :=
      length_ofNat_le_iff.mp (by rw [List.length_cons] at hlt; omega)
    rw [toNat_cons] at hsmall
    have := Nat.le_mul_of_pos_left (256 ^ bytes.length) hb
    omega

theorem ofNat_toNat {bytes : Bytes} (h : bytes.head? ≠ some 0) : ofNat (toNat bytes) = bytes := by
  have hlen := length_ofNat_toNat h
  rw [ofNat, length_bigEndian] at hlen
  rw [ofNat, hlen, bigEndian_toNat]

theorem head?_ofNat (value : Nat) : (ofNat value).head? ≠ some 0 := by
  intro h
  obtain ⟨rest, hrest⟩ : ∃ rest, ofNat value = 0 :: rest := List.head?_eq_some_iff.mp h
  have hval := toNat_ofNat value
  rw [hrest, toNat_cons, UInt8.toNat_zero, Nat.zero_mul, Nat.zero_add] at hval
  have hle : (ofNat value).length ≤ rest.length :=
    length_ofNat_le_iff.mpr (by rw [← hval]; exact toNat_lt rest)
  simp [hrest] at hle

/-- The digits of a number are the one digit string with its value that does not start with
zero. -/
theorem ofNat_eq_iff {value : Nat} {bytes : Bytes} :
    ofNat value = bytes ↔ bytes.head? ≠ some 0 ∧ toNat bytes = value := by
  constructor
  · rintro rfl
    exact ⟨head?_ofNat value, toNat_ofNat value⟩
  · rintro ⟨h, rfl⟩
    exact ofNat_toNat h

theorem ofNat_inj {value other : Nat} : ofNat value = ofNat other ↔ value = other := by
  constructor
  · intro h
    rw [← toNat_ofNat value, h, toNat_ofNat]
  · rintro rfl
    rfl

theorem toNat_dropWhile_zero (bytes : Bytes) :
    toNat (bytes.dropWhile (· == 0)) = toNat bytes := by
  induction bytes with
  | nil => rfl
  | cons byte bytes ih =>
    by_cases h : byte = 0
    · simp [h, ih, toNat_cons]
    · simp [h]

theorem toNat_replicate_zero_append (count : Nat) (bytes : Bytes) :
    toNat (List.replicate count 0 ++ bytes) = toNat bytes := by
  induction count with
  | zero => rfl
  | succ count ih => simp [List.replicate_succ, toNat_cons, ih]

end Bytes

namespace FixedBytes

variable {size : Nat}

theorem toNat_lt (block : FixedBytes size) : block.toNat < 2 ^ (8 * size) := by
  have hlt := Bytes.toNat_lt block.bytes
  rw [block.length_eq] at hlt
  rwa [Nat.pow_mul]

theorem ofNat_toNat (block : FixedBytes size) : ofNat size block.toNat = block := by
  obtain ⟨bytes, rfl⟩ := block
  simp only [ofNat, toNat, Bytes.bigEndian_toNat]

theorem toNat_ofNat {value : Nat} (h : value < 2 ^ (8 * size)) :
    (ofNat size value).toNat = value := by
  rw [Nat.pow_mul] at h
  rw [toNat, ofNat, Bytes.toNat_bigEndian]
  exact Nat.mod_eq_of_lt h

theorem toNat_inj {block other : FixedBytes size} : block.toNat = other.toNat ↔ block = other := by
  constructor
  · intro h
    rw [← ofNat_toNat block, h, ofNat_toNat]
  · rintro rfl
    rfl

/-- Bytes fill a block up, unless they are too many, and keep their value. -/
theorem leftPad?_eq_some_iff {bytes : Bytes} {block : FixedBytes size} :
    leftPad? size bytes = some block ↔ bytes.length ≤ size ∧ block.toNat = bytes.toNat := by
  rw [leftPad?]
  split
  · next hle =>
    rw [Option.some.injEq, ← toNat_inj, toNat, Bytes.toNat_replicate_zero_append, eq_comm]
    exact (and_iff_right hle).symm
  · next hlong => simp [hlong]

theorem exists_leftPad?_iff {bytes : Bytes} :
    (∃ block, leftPad? size bytes = some block) ↔ bytes.length ≤ size := by
  rw [leftPad?]
  split
  · next hle => exact iff_of_true ⟨_, rfl⟩ hle
  · next hlong => exact iff_of_false nofun hlong

/-- A number fits when a block has its value. -/
theorem ofNat?_eq_some_iff {value : Nat} {block : FixedBytes size} :
    ofNat? size value = some block ↔ block.toNat = value := by
  rw [ofNat?, leftPad?_eq_some_iff, Bytes.toNat_ofNat, and_iff_right_iff_imp]
  rintro rfl
  have hlt := Bytes.toNat_lt block.bytes
  rw [block.length_eq] at hlt
  exact Bytes.length_ofNat_le_iff.mpr hlt

theorem ofNat?_eq_none_iff {value : Nat} :
    ofNat? size value = none ↔ 2 ^ (8 * size) ≤ value := by
  constructor
  · intro h
    by_contra hlt
    rw [ofNat?_eq_some_iff.mpr (toNat_ofNat (not_le.mp hlt))] at h
    cases h
  · intro h
    cases hfits : ofNat? size value with
    | none => rfl
    | some block =>
      have hlt := toNat_lt block
      rw [ofNat?_eq_some_iff.mp hfits] at hlt
      exact absurd h (not_le.mpr hlt)

end FixedBytes

/-- A word has the digits of its value. -/
theorem wordDigits_eq_ofNat (word : UInt64) : Rlp.wordDigits word = .ofNat word.toNat := by
  symm
  rw [Bytes.ofNat_eq_iff, Rlp.wordDigits, Bytes.toNat_dropWhile_zero, Bytes.toNat_bigEndian]
  refine ⟨fun h => ?_, Nat.mod_eq_of_lt word.toNat_lt⟩
  have := List.head?_dropWhile_not (· == 0) (Bytes.bigEndian 8 word.toNat)
  simp [h] at this

/-- Taking digits up one by one gives the word with their value, as far as a word holds it. -/
theorem foldl_shift_eq_ofNat (digits : Bytes) :
    digits.foldl (fun (word : UInt64) byte => word <<< 8 ||| byte.toUInt64) 0 =
      UInt64.ofNat (Bytes.toNat digits) := by
  induction digits using List.reverseRecOn with
  | nil => rfl
  | append_singleton digits byte ih =>
    rw [List.foldl_append, ih, Bytes.toNat_append_singleton]
    have hb := byte.toNat_lt
    have hor := Nat.two_pow_add_eq_or_of_lt (i := 8) hb (Bytes.toNat digits % 2 ^ 56)
    apply UInt64.toNat_inj.mp
    simp only [List.foldl_cons, List.foldl_nil, UInt64.toNat_or, UInt64.toNat_shiftLeft,
      UInt64.toNat_ofNat', UInt8.toNat_toUInt64, Nat.shiftLeft_eq]
    have hshift : Bytes.toNat digits % 2 ^ 64 * 2 ^ (UInt64.toNat 8 % 64) % 2 ^ 64 =
        2 ^ 8 * (Bytes.toNat digits % 2 ^ 56) := by
      rw [show UInt64.toNat 8 % 64 = 8 from rfl]
      omega
    rw [hshift, ← hor]
    omega

end HybridTx
