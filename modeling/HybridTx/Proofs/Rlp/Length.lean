import HybridTx.Proofs.Bytes.Digits
import HybridTx.Proofs.Results
import HybridTx.Rlp.Decode

/-! Lengths of payloads: the digits of a long length, how they are read, and how a payload of that
length is split off. -/

namespace HybridTx.Rlp

/-- The length of a payload in memory has at most eight digits. -/
theorem length_ofNat_le_eight {length : Nat} (h : length < lengthBound) :
    (Bytes.ofNat length).length ≤ 8 :=
  Bytes.length_ofNat_le_iff.mpr (by rw [lengthBound] at h; omega)

theorem length_ofNat_pos {length : Nat} (h : shortLimit ≤ length) :
    0 < (Bytes.ofNat length).length := by
  by_contra hzero
  have hsmall : length < 256 ^ 0 := Bytes.length_ofNat_le_iff.mp (by omega)
  rw [shortLimit] at h
  omega

theorem wordDigits_ofNat {length : Nat} (h : length < lengthBound) :
    wordDigits (.ofNat length) = Bytes.ofNat length := by
  rw [wordDigits_eq_ofNat, UInt64.toNat_ofNat_of_lt' h]

theorem toNat_lt_lengthBound {digits : Bytes} (h : digits.length ≤ 8) :
    Bytes.toNat digits < lengthBound :=
  Nat.lt_of_lt_of_le (Bytes.toNat_lt digits) (Nat.pow_le_pow_right (by decide) h)

/-- Taking up length bytes gives their value, unless it passes the bound. -/
theorem foldlM_appendLengthByte (digits : Bytes) {length : Nat} (hlength : length < lengthBound) :
    digits.foldlM appendLengthByte length =
      if length * 256 ^ digits.length + Bytes.toNat digits < lengthBound then
        .ok (length * 256 ^ digits.length + Bytes.toNat digits)
      else .error .lengthOverflow := by
  induction digits generalizing length with
  | nil => simp [hlength, pure, Except.pure]
  | cons byte digits ih =>
    have hvalue : length * 256 ^ (byte :: digits).length + Bytes.toNat (byte :: digits) =
        (length * 256 + byte.toNat) * 256 ^ digits.length + Bytes.toNat digits := by
      rw [Bytes.toNat_cons, List.length_cons]
      ring
    rw [List.foldlM_cons, hvalue, appendLengthByte]
    by_cases hstep : length * 256 + byte.toNat < lengthBound
    · rw [if_pos hstep]
      exact ih hstep
    · have hpow : 0 < 256 ^ digits.length := Nat.pow_pos (by decide)
      have hmul := Nat.le_mul_of_pos_right (length * 256 + byte.toNat) hpow
      rw [if_neg hstep, if_neg (by omega)]
      rfl

/-- A long length is read exactly where its shortest digits stand, and only if no header byte could
hold it. -/
theorem decodeLongLength_eq_ok_iff {width length : Nat} {input rest : Bytes} :
    decodeLongLength width input = .ok (length, rest) ↔
      shortLimit ≤ length ∧ length < lengthBound ∧ (Bytes.ofNat length).length = width ∧
        input = Bytes.ofNat length ++ rest := by
  have hzero : 0 < lengthBound := by decide
  simp only [decodeLongLength, guard_eq_ok, bind_eq_ok, foldlM_appendLengthByte _ hzero,
    Nat.zero_mul, Nat.zero_add]
  constructor
  · rintro ⟨hwidth, hhead, value, hvalue, hlong, hpair⟩
    split at hvalue
    · next hbound =>
      cases hvalue
      cases hpair
      refine ⟨Nat.le_of_not_lt hlong, hbound, ?_, ?_⟩
      · rw [Bytes.ofNat_toNat hhead]
        rw [List.length_take] at hwidth ⊢
        omega
      · rw [Bytes.ofNat_toNat hhead, List.take_append_drop]
    · cases hvalue
  · rintro ⟨hlong, hbound, rfl, rfl⟩
    rw [List.take_left', List.drop_left' rfl, Bytes.toNat_ofNat]
    · exact ⟨lt_irrefl _, Bytes.head?_ofNat length, length, if_pos hbound, by omega, rfl⟩
    · rfl

/-- Eight digits have a value that a word holds. -/
theorem decodeLongLength_ne_lengthOverflow {width : Nat} (hwidth : width ≤ 8) (input : Bytes) :
    decodeLongLength width input ≠ .error .lengthOverflow := by
  have hzero : 0 < lengthBound := by decide
  have hvalue : Bytes.toNat (input.take width) < lengthBound := by
    apply toNat_lt_lengthBound
    rw [List.length_take]
    omega
  rw [decodeLongLength]
  simp only [foldlM_appendLengthByte _ hzero, Nat.zero_mul, Nat.zero_add, if_pos hvalue, ok_bind]
  split
  · nofun
  · split
    · nofun
    · split <;> nofun

/-- What is done with a long length matters for lengths that are read only. -/
theorem decodeLongLength_bind_congr {α : Type} {width : Nat} {input : Bytes}
    {next other : Nat × Bytes → Except Error α}
    (h : ∀ length rest, shortLimit ≤ length → (Bytes.ofNat length).length = width →
      next (length, rest) = other (length, rest)) :
    decodeLongLength width input >>= next = decodeLongLength width input >>= other := by
  cases hread : decodeLongLength width input with
  | error e => rfl
  | ok field =>
    obtain ⟨length, rest⟩ := field
    obtain ⟨hlong, -, hwidth, -⟩ := decodeLongLength_eq_ok_iff.mp hread
    exact h length rest hlong hwidth

/-- A payload is split off exactly where it stands in full and its end has a number. -/
theorem splitPayload_eq_ok_iff {start length : Nat} {input payload rest : Bytes} :
    splitPayload start length input = .ok (payload, rest) ↔
      start + length < lengthBound ∧ payload.length = length ∧ input = payload ++ rest := by
  simp only [splitPayload, guard_eq_ok, Nat.not_le, ge_iff_le]
  constructor
  · rintro ⟨hend, hlength, hpair⟩
    cases hpair
    refine ⟨hend, ?_, (List.take_append_drop length input).symm⟩
    rw [List.length_take] at hlength ⊢
    omega
  · rintro ⟨hend, rfl, rfl⟩
    simp [hend]

theorem splitPayload_eq_lengthOverflow {start length : Nat} {input : Bytes} :
    splitPayload start length input = .error .lengthOverflow ↔ lengthBound ≤ start + length := by
  unfold splitPayload
  split
  · next h => simp [h]
  · next h =>
    refine iff_of_false ?_ h
    dsimp only
    split <;> nofun

end HybridTx.Rlp
