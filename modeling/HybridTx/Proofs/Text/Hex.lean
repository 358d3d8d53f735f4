import HybridTx.Proofs.Results
import HybridTx.Proofs.Text.Utf8
import Mathlib.Data.List.Induction

/-! Hexadecimal texts: a text is read as the bytes whose digits it is, in capitals or not, and what
was written is read back, with blanks trimmed or not. -/

namespace HybridTx

/-- Trimming takes nothing from a text in which nothing is blank. -/
theorem Text.trimChars_eq_self {text : List Char} (h : ∀ c ∈ text, isBlank c = false) :
    trimChars text = text := by
  have hkept : ∀ chars : List Char, (∀ c ∈ chars, isBlank c = false) →
      chars.dropWhile isBlank = chars := by
    intro chars hchars
    cases chars with
    | nil => rfl
    | cons c rest => simp [hchars c List.mem_cons_self]
  have hreverse : ∀ c ∈ text.reverse, isBlank c = false := by simpa using h
  rw [trimChars, hkept text h, hkept _ hreverse, List.reverse_reverse]

namespace Hex

theorem isBlank_digitChar : ∀ n < 16, Text.isBlank (Nat.digitChar n) = false := by
  decide

theorem digitValue?_ofNat :
    ∀ n < 128, ∀ v < 16, digitValue? (UInt8.ofNat n) = some (UInt8.ofNat v) ↔
      (Char.ofNat n).toLower = Nat.digitChar v := by
  decide +kernel

theorem digitValue?_lt {byte v : UInt8} (h : digitValue? byte = some v) :
    byte.toNat < 0x80 ∧ v.toNat < 16 := by
  have hall : ∀ n < 256,
      (digitValue? (UInt8.ofNat n)).all fun v => n < 0x80 && decide (v.toNat < 16) := by
    decide +kernel
  have hbyte := hall byte.toNat byte.toNat_lt
  rw [UInt8.ofNat_toNat, h] at hbyte
  simpa using hbyte

/-- What starts with the byte of a digit is the digit, in capitals or not. -/
theorem toLower_of_encodeChar {c : Char} {byte v : UInt8} {bytes : Bytes}
    (h : String.utf8EncodeChar c = byte :: bytes) (hv : digitValue? byte = some v) :
    bytes = [] ∧ v.toNat < 16 ∧ c.toLower = Nat.digitChar v.toNat := by
  obtain ⟨hbyte, hlt⟩ := digitValue?_lt hv
  obtain ⟨hascii, rfl, hbytes⟩ := Utf8.ascii_of_encodeChar h hbyte
  refine ⟨hbytes, hlt, ?_⟩
  have hread := (digitValue?_ofNat c.toNat hascii v.toNat hlt).mp (by rwa [UInt8.ofNat_toNat])
  rwa [Char.ofNat_toNat] at hread

theorem toNat_lt_of_toLower {c : Char} {v : Nat} (hv : v < 16) (h : c.toLower = Nat.digitChar v) :
    c.toNat < 0x80 := by
  have hdigit : ∀ v < 16, (Nat.digitChar v).toNat < 0x80 := by decide
  by_cases hcapital : c.val ≥ 'A'.val ∧ c.val ≤ 'Z'.val
  · exact Nat.lt_of_le_of_lt hcapital.2 (by decide)
  · have hsame : c.toLower = c := dif_neg hcapital
    rw [← hsame, h]
    exact hdigit v hv

/-- A digit, in capitals or not, is written as one byte that is read as its value. -/
theorem exists_digitValue? {c : Char} {v : Nat} (hv : v < 16) (h : c.toLower = Nat.digitChar v) :
    ∃ byte, String.utf8EncodeChar c = [byte] ∧ digitValue? byte = some (UInt8.ofNat v) := by
  have hascii : c.toNat < 0x80 := toNat_lt_of_toLower hv h
  refine ⟨UInt8.ofNat c.toNat, (Utf8.encodeChar_ascii hascii).1, ?_⟩
  rw [digitValue?_ofNat c.toNat hascii v hv, Char.ofNat_toNat, h]

theorem decodePairs_cons_eq_ok {high low : UInt8} {rest read out : Bytes} {index : Nat} :
    decodePairs index read (high :: low :: rest) = .ok out ↔
      ∃ h l, digitValue? high = some h ∧ digitValue? low = some l ∧
        decodePairs (index + 2) ((h * 16 + l) :: read) rest = .ok out := by
  rw [decodePairs]
  cases digitValue? high with
  | none => simp
  | some h => cases digitValue? low <;> simp

theorem even_of_decodePairs {digits read out : Bytes} {index : Nat}
    (h : decodePairs index read digits = .ok out) : digits.length % 2 = 0 := by
  induction digits using List.twoStepInduction generalizing index read with
  | nil => rfl
  | singleton => cases h
  | cons_cons high low rest ih =>
    obtain ⟨_, _, -, -, hrest⟩ := decodePairs_cons_eq_ok.mp h
    have hrest := ih hrest
    simp only [List.length_cons]
    omega

/-- The halves of a byte are the values of its digits. -/
theorem halves_eq_iff {byte high low : UInt8} (hhigh : high.toNat < 16)
    (hlow : low.toNat < 16) :
    high * 16 + low = byte ↔ byte.toNat / 16 = high.toNat ∧ byte.toNat % 16 = low.toNat := by
  have hbyte := byte.toNat_lt
  simp only [← UInt8.toNat_inj, UInt8.toNat_add, UInt8.toNat_mul, UInt8.reduceToNat]
  omega

/-- The digits of a byte string are read onto what was read before. -/
theorem decodePairs_of_toLower {bytes read : Bytes} {digits : List Char} {index : Nat}
    (h : digits.map Char.toLower = encodeChars bytes) :
    decodePairs index read (digits.flatMap String.utf8EncodeChar) =
      .ok (read.reverse ++ bytes) := by
  induction bytes generalizing digits index read with
  | nil =>
    obtain rfl := List.map_eq_nil_iff.mp h
    simp [decodePairs]
  | cons byte bytes ih =>
    have hbyte := byte.toNat_lt
    obtain ⟨c, rest, rfl, hc, hrest⟩ := List.map_eq_cons_iff.mp h
    obtain ⟨d, digits, rfl, hd, hdigits⟩ := List.map_eq_cons_iff.mp hrest
    obtain ⟨high, hhigh, hhighValue⟩ := exists_digitValue? (by omega) hc
    obtain ⟨low, hlow, hlowValue⟩ := exists_digitValue? (by omega) hd
    have hvalue : UInt8.ofNat (byte.toNat / 16) * 16 + UInt8.ofNat (byte.toNat % 16) = byte := by
      simp only [← UInt8.toNat_inj, UInt8.toNat_add, UInt8.toNat_mul, UInt8.reduceToNat,
        UInt8.toNat_ofNat']
      omega
    rw [List.flatMap_cons, List.flatMap_cons, hhigh, hlow]
    refine decodePairs_cons_eq_ok.mpr ⟨_, _, hhighValue, hlowValue, ?_⟩
    rw [hvalue, List.append_eq, List.nil_append, ih hdigits, List.reverse_cons, List.append_assoc]
    rfl

/-- What is read is digits: two characters for each byte, which leave no other reading. -/
theorem toLower_of_decodePairs {read out : Bytes} {digits : List Char} {index : Nat}
    (h : decodePairs index read (digits.flatMap String.utf8EncodeChar) = .ok out) :
    ∃ bytes, out = read.reverse ++ bytes ∧ digits.map Char.toLower = encodeChars bytes := by
  induction digits using List.twoStepInduction generalizing index read with
  | nil =>
    cases h
    exact ⟨[], (List.append_nil _).symm, rfl⟩
  | singleton c =>
    obtain ⟨high, behind, hhigh, -⟩ := Utf8.encodeChar_eq_cons c
    rw [List.flatMap_singleton, hhigh] at h
    cases behind with
    | nil => cases h
    | cons low rest =>
      obtain ⟨_, _, hvalue, -⟩ := decodePairs_cons_eq_ok.mp h
      cases (toLower_of_encodeChar hhigh hvalue).1
  | cons_cons c d digits ih =>
    obtain ⟨high, behind, hhigh, -⟩ := Utf8.encodeChar_eq_cons c
    obtain ⟨low, rest, hlow, -⟩ := Utf8.encodeChar_eq_cons d
    rw [List.flatMap_cons, List.flatMap_cons, hhigh, hlow] at h
    have hone : behind = [] := by
      cases behind with
      | nil => rfl
      | cons next later =>
        obtain ⟨_, _, hvalue, -⟩ := decodePairs_cons_eq_ok.mp h
        exact (toLower_of_encodeChar hhigh hvalue).1
    subst hone
    obtain ⟨hv, lv, hhv, hlv, hread⟩ := decodePairs_cons_eq_ok.mp h
    obtain ⟨-, hhlt, hc⟩ := toLower_of_encodeChar hhigh hhv
    obtain ⟨rfl, hllt, hd⟩ := toLower_of_encodeChar hlow hlv
    obtain ⟨bytes, rfl, hdigits⟩ := ih hread
    obtain ⟨hfirst, hsecond⟩ := (halves_eq_iff hhlt hllt).mp rfl
    refine ⟨(hv * 16 + lv) :: bytes, by simp, ?_⟩
    rw [encodeChars, List.flatMap_cons, encodeByte, hfirst, hsecond, ← hc, ← hd, List.map_cons,
      List.map_cons, hdigits]
    rfl

/-- Texts are read as the bytes whose digits they are, in capitals or not, and no other texts are
read. -/
theorem decodeChars_eq_ok {digits : List Char} {bytes : Bytes} :
    decodeChars digits = .ok bytes ↔ digits.map Char.toLower = encodeChars bytes := by
  rw [decodeChars, decodeBytes, guard_eq_ok]
  constructor
  · rintro ⟨-, h⟩
    obtain ⟨_, rfl, hdigits⟩ := toLower_of_decodePairs h
    exact hdigits
  · intro h
    have hread : decodePairs 0 [] (digits.flatMap String.utf8EncodeChar) = .ok bytes :=
      decodePairs_of_toLower h
    have heven := even_of_decodePairs hread
    exact ⟨by omega, hread⟩

/-- What is written is digits. -/
theorem exists_digit_of_mem_encodeChars {bytes : Bytes} {c : Char} (h : c ∈ encodeChars bytes) :
    ∃ n < 16, c = Nat.digitChar n := by
  obtain ⟨byte, -, hc⟩ := List.mem_flatMap.mp h
  have hbyte := byte.toNat_lt
  simp only [encodeByte, List.mem_cons, List.not_mem_nil, or_false] at hc
  obtain rfl | rfl := hc
  · exact ⟨_, by omega, rfl⟩
  · exact ⟨_, by omega, rfl⟩

theorem map_toLower_encodeChars (bytes : Bytes) :
    (encodeChars bytes).map Char.toLower = encodeChars bytes := by
  have hdigit : ∀ n < 16, (Nat.digitChar n).toLower = Nat.digitChar n := by decide
  have hkept : ∀ c ∈ encodeChars bytes, c.toLower = c := by
    intro c hc
    obtain ⟨n, hn, rfl⟩ := exists_digit_of_mem_encodeChars hc
    exact hdigit n hn
  rw [List.map_congr_left hkept, List.map_id']

theorem decodeChars_encodeChars (bytes : Bytes) : decodeChars (encodeChars bytes) = .ok bytes :=
  decodeChars_eq_ok.mpr (map_toLower_encodeChars bytes)

theorem encodeChars_append (front back : Bytes) :
    encodeChars (front ++ back) = encodeChars front ++ encodeChars back := List.flatMap_append

theorem encodeChars_injective : Function.Injective encodeChars := by
  intro bytes other h
  have hread := decodeChars_encodeChars bytes
  rw [h, decodeChars_encodeChars] at hread
  exact (Except.ok.inj hread).symm

@[simp] theorem length_encodeChars (bytes : Bytes) :
    (encodeChars bytes).length = 2 * bytes.length := by
  induction bytes with
  | nil => rfl
  | cons byte bytes ih =>
    rw [encodeChars, List.flatMap_cons, List.length_append, ← encodeChars, ih]
    simp only [encodeByte, List.length_cons, List.length_nil]
    omega

theorem encodeChars_replicate_zero (count : Nat) :
    encodeChars (List.replicate count 0) = List.replicate (2 * count) '0' := by
  induction count with
  | zero => rfl
  | succ count ih =>
    rw [List.replicate_succ, encodeChars, List.flatMap_cons, ← encodeChars, ih]
    rfl

theorem toList_encodeMarked (bytes : Bytes) :
    (encodeMarked bytes).toList = '0' :: 'x' :: encodeChars bytes := by
  simp [encodeMarked, encode]

theorem decodeMarked_encodeMarked (bytes : Bytes) :
    decodeMarked (encodeMarked bytes) = .ok bytes := by
  rw [decodeMarked, toList_encodeMarked, Text.dropHexMark, decodeChars_encodeChars]

theorem encodeMarked_injective : Function.Injective encodeMarked := by
  intro bytes other h
  have hread := decodeMarked_encodeMarked bytes
  rw [h, decodeMarked_encodeMarked] at hread
  exact (Except.ok.inj hread).symm

theorem toList_encode (bytes : Bytes) : (encode bytes).toList = encodeChars bytes :=
  String.toList_ofList

/-- What all digits are, every character of a written byte string is. -/
theorem forall_mem_encode {p : Char → Prop} (h : ∀ n < 16, p (Nat.digitChar n)) (bytes : Bytes) :
    ∀ c ∈ (encode bytes).toList, p c := by
  intro c hc
  rw [toList_encode] at hc
  obtain ⟨n, hn, rfl⟩ := exists_digit_of_mem_encodeChars hc
  exact h n hn

theorem forall_mem_encodeMarked {p : Char → Prop} (hmark : p 'x')
    (h : ∀ n < 16, p (Nat.digitChar n)) (bytes : Bytes) :
    ∀ c ∈ (encodeMarked bytes).toList, p c := by
  rw [toList_encodeMarked, List.forall_mem_cons, List.forall_mem_cons, ← toList_encode]
  exact ⟨h 0 (by decide), hmark, forall_mem_encode h bytes⟩

theorem isBlank_of_mem_encode {bytes : Bytes} :
    ∀ c ∈ (encode bytes).toList, Text.isBlank c = false :=
  forall_mem_encode isBlank_digitChar bytes

theorem trimChars_encodeMarked (bytes : Bytes) :
    Text.trimChars (encodeMarked bytes).toList = (encodeMarked bytes).toList :=
  Text.trimChars_eq_self (forall_mem_encodeMarked (by decide)
    isBlank_digitChar bytes)

theorem trim_encodeMarked (bytes : Bytes) :
    Text.trim (encodeMarked bytes) = encodeMarked bytes := by
  rw [Text.trim, trimChars_encodeMarked, String.ofList_toList]

theorem trim_encode (bytes : Bytes) : Text.trim (encode bytes) = encode bytes := by
  rw [Text.trim, Text.trimChars_eq_self isBlank_of_mem_encode, String.ofList_toList]

/-- No digit is part of a mark but its zero. -/
theorem dropHexMark_encode (bytes : Bytes) :
    Text.dropHexMark (encode bytes).toList = (encode bytes).toList := by
  have hdigits : ∀ c ∈ (encode bytes).toList, c ≠ 'x' := forall_mem_encode (by decide) bytes
  rw [Text.dropHexMark]
  intro digits h
  exact hdigits 'x' (by simp [h]) rfl

/-- Digits without a mark in front are read as they are. -/
theorem decodeMarked_encode (bytes : Bytes) : decodeMarked (encode bytes) = .ok bytes := by
  rw [decodeMarked, dropHexMark_encode, toList_encode, decodeChars_encodeChars]

end Hex

end HybridTx
