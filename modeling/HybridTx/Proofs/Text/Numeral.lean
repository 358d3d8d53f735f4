import HybridTx.Proofs.Bytes.Digits
import HybridTx.Proofs.Text.Hex
import HybridTx.Text.Numeral

/-! Hexadecimal digits as a number. A text is the digits of some bytes just when it is an even
number of digits, and the number that the digits spell is the value of the bytes. -/

namespace HybridTx.Hex

/-- Digits, perhaps behind one `0x`. -/
def IsMarked (text digits : List Char) : Prop :=
  (text = digits ∨ text = '0' :: 'x' :: digits) ∧ ∀ c ∈ digits, Text.isDigitOf 16 c = true

theorem isMarked_iff {text digits : List Char} :
    IsMarked text digits ↔
      Text.dropHexMark text = digits ∧ ∀ c ∈ digits, Text.isDigitOf 16 c = true := by
  refine and_congr_left fun hdigits => ⟨?_, ?_⟩
  · rintro (rfl | rfl)
    · rw [Text.dropHexMark]
      rintro rest rfl
      exact absurd (hdigits 'x' (by simp)) (by decide)
    · rfl
  · rintro rfl
    fun_cases Text.dropHexMark text with
    | case1 rest => exact .inr rfl
    | case2 => exact .inl rfl

theorem digitValue?_ascii :
    ∀ n < 128, ∀ v < 16, Text.digitValue? 16 (Char.ofNat n) = some v ↔
      (Char.ofNat n).toLower = Nat.digitChar v := by
  decide +kernel

theorem toNat_lt_of_digitValue? {c : Char} {base v : Nat} (h : Text.digitValue? base c = some v) :
    c.toNat < 0x80 := by
  obtain ⟨hclass, -⟩ := Option.filter_eq_some_iff.mp h
  split at hclass
  · next hc => exact Nat.lt_of_le_of_lt hc.2 (by decide)
  · split at hclass
    · next hc => exact Nat.lt_of_le_of_lt hc.2 (by decide)
    · split at hclass
      · next hc => exact Nat.lt_of_le_of_lt hc.2 (by decide)
      · cases hclass

/-- The value of a digit tells it, but for its case. -/
theorem digitValue?_sixteen {c : Char} {v : Nat} :
    Text.digitValue? 16 c = some v ↔ v < 16 ∧ c.toLower = Nat.digitChar v := by
  have hascii : c.toNat < 0x80 → v < 16 →
      (Text.digitValue? 16 c = some v ↔ c.toLower = Nat.digitChar v) := by
    intro hc hv
    have hread := digitValue?_ascii c.toNat hc v hv
    rwa [Char.ofNat_toNat] at hread
  constructor
  · intro h
    have hv : v < 16 := of_decide_eq_true (Option.filter_eq_some_iff.mp h).2
    exact ⟨hv, (hascii (toNat_lt_of_digitValue? h) hv).mp h⟩
  · rintro ⟨hv, h⟩
    exact (hascii (toNat_lt_of_toLower hv h) hv).mpr h

theorem isDigitOf_sixteen {c : Char} :
    Text.isDigitOf 16 c = true ↔ ∃ v < 16, c.toLower = Nat.digitChar v := by
  simp only [Text.isDigitOf, Option.isSome_iff_exists, digitValue?_sixteen]

/-- Behind a number, two digits count as the byte that they spell. -/
theorem digitsToNat_eq_foldl {bytes : Bytes} {digits : List Char} {value : Nat}
    (h : digits.map Char.toLower = encodeChars bytes) :
    Text.digitsToNat 16 value digits =
      bytes.foldl (fun value byte => value * 256 + byte.toNat) value := by
  induction bytes generalizing digits value with
  | nil =>
    obtain rfl := List.map_eq_nil_iff.mp h
    rfl
  | cons byte bytes ih =>
    have hbyte := byte.toNat_lt
    obtain ⟨high, rest, rfl, hhigh, hrest⟩ := List.map_eq_cons_iff.mp h
    obtain ⟨low, digits, rfl, hlow, hdigits⟩ := List.map_eq_cons_iff.mp hrest
    have hhigh := digitValue?_sixteen.mpr ⟨by omega, hhigh⟩
    have hlow := digitValue?_sixteen.mpr ⟨by omega, hlow⟩
    have hvalue : (value * 16 + byte.toNat / 16) * 16 + byte.toNat % 16 =
        value * 256 + byte.toNat := by omega
    rw [List.foldl_cons, ← ih hdigits, ← hvalue]
    simp only [Text.digitsToNat, List.foldl_cons, hhigh, hlow]

theorem digitsToNat_of_toLower {bytes : Bytes} {digits : List Char}
    (h : digits.map Char.toLower = encodeChars bytes) :
    Text.digitsToNat 16 0 digits = bytes.toNat := digitsToNat_eq_foldl h

theorem length_of_toLower {bytes : Bytes} {digits : List Char}
    (h : digits.map Char.toLower = encodeChars bytes) : digits.length = 2 * bytes.length := by
  rw [← length_encodeChars, ← h, List.length_map]

/-- An even number of digits spells bytes, and nothing else does. -/
theorem exists_encodeChars_iff {digits : List Char} :
    (∃ bytes, digits.map Char.toLower = encodeChars bytes) ↔
      digits.length % 2 = 0 ∧ ∀ c ∈ digits, Text.isDigitOf 16 c = true := by
  constructor
  · rintro ⟨bytes, h⟩
    have hlength := length_of_toLower h
    refine ⟨by omega, fun c hc => isDigitOf_sixteen.mpr ?_⟩
    exact exists_digit_of_mem_encodeChars (h ▸ List.mem_map_of_mem hc)
  · rintro ⟨heven, hdigits⟩
    induction digits using List.twoStepInduction with
    | nil => exact ⟨[], rfl⟩
    | singleton => simp at heven
    | cons_cons c d digits ih =>
      obtain ⟨hc, hrest⟩ := List.forall_mem_cons.mp hdigits
      obtain ⟨hd, hrest⟩ := List.forall_mem_cons.mp hrest
      obtain ⟨high, hhigh, hc⟩ := isDigitOf_sixteen.mp hc
      obtain ⟨low, hlow, hd⟩ := isDigitOf_sixteen.mp hd
      obtain ⟨bytes, hbytes⟩ := ih (by simp only [List.length_cons] at heven; omega) hrest
      have hbyte : (UInt8.ofNat (high * 16 + low)).toNat = high * 16 + low := by
        rw [UInt8.toNat_ofNat']
        omega
      have hfirst : (high * 16 + low) / 16 = high := by omega
      have hsecond : (high * 16 + low) % 16 = low := by omega
      refine ⟨UInt8.ofNat (high * 16 + low) :: bytes, ?_⟩
      rw [encodeChars, List.flatMap_cons, encodeByte, hbyte, hfirst, hsecond, ← hc, ← hd,
        List.map_cons, List.map_cons, hbytes]
      rfl

/-- Marked texts are read as the bytes that their digits spell. -/
theorem decodeChars_dropHexMark_eq_ok {text : List Char} {bytes : Bytes} :
    decodeChars (Text.dropHexMark text) = .ok bytes ↔
      ∃ digits, IsMarked text digits ∧ digits.map Char.toLower = encodeChars bytes := by
  simp only [decodeChars_eq_ok, isMarked_iff]
  constructor
  · intro h
    exact ⟨_, ⟨rfl, (exists_encodeChars_iff.mp ⟨bytes, h⟩).2⟩, h⟩
  · rintro ⟨digits, ⟨rfl, -⟩, h⟩
    exact h

end HybridTx.Hex
