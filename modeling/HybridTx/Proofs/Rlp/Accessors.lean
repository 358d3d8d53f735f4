import HybridTx.Proofs.Bytes.Digits
import HybridTx.Proofs.Results

/-! What the accessors of a value give, and what they fail with. Each succeeds on exactly one sort
of payload. -/

namespace HybridTx.Rlp.Item

theorem asBytes_eq_ok {item : Item} {payload : Bytes} :
    item.asBytes = .ok payload ↔ item = .bytes payload := by
  cases item <;> simp [asBytes]

theorem asList_eq_ok {item : Item} {items : List Item} :
    item.asList = .ok items ↔ item = .list items := by
  cases item <;> simp [asList]

theorem asDigits_eq_ok {item : Item} {digits : Bytes} :
    item.asDigits = .ok digits ↔ item = .bytes digits ∧ digits.head? ≠ some 0 := by
  simp only [asDigits, bind_eq_ok, asBytes_eq_ok, guard_eq_ok]
  constructor
  · rintro ⟨payload, rfl, hhead, hpayload⟩
    cases hpayload
    exact ⟨rfl, hhead⟩
  · rintro ⟨rfl, hhead⟩
    exact ⟨digits, rfl, hhead, rfl⟩

theorem asScalar_eq_ok {item : Item} {value : Nat} :
    item.asScalar = .ok value ↔ item = .bytes (.ofNat value) := by
  simp only [asScalar, bind_eq_ok, asDigits_eq_ok]
  constructor
  · rintro ⟨digits, ⟨rfl, hhead⟩, hvalue⟩
    cases hvalue
    rw [Bytes.ofNat_toNat hhead]
  · rintro rfl
    exact ⟨_, ⟨rfl, Bytes.head?_ofNat value⟩, by rw [Bytes.toNat_ofNat]⟩

theorem asWord_eq_ok {item : Item} {word : UInt64} :
    item.asWord = .ok word ↔ item = .bytes (wordDigits word) := by
  simp only [asWord, bind_eq_ok, asDigits_eq_ok, guard_eq_ok, foldl_shift_eq_ofNat,
    wordDigits_eq_ofNat, Nat.not_lt, gt_iff_lt]
  constructor
  · rintro ⟨digits, ⟨rfl, hhead⟩, hlength, hword⟩
    cases hword
    have hfits : Bytes.toNat digits < 2 ^ 64 := by
      have hlt := Bytes.toNat_lt digits
      have hle : 256 ^ digits.length ≤ 256 ^ 8 := Nat.pow_le_pow_right (by decide) hlength
      omega
    rw [UInt64.toNat_ofNat_of_lt' hfits, Bytes.ofNat_toNat hhead]
  · rintro rfl
    refine ⟨_, ⟨rfl, Bytes.head?_ofNat _⟩, ?_, ?_⟩
    · exact Bytes.length_ofNat_le_iff.mpr word.toNat_lt
    · rw [Bytes.toNat_ofNat, UInt64.ofNat_toNat]

/-- What keeps a value from being a byte string. -/
def bytesFault : Item → Option Error
  | .bytes _ => none
  | .list _ => some .expectedString

/-- What keeps a value from being a number. -/
def scalarFault : Item → Option Error
  | .bytes payload => if payload.head? = some 0 then some .leadingZero else none
  | .list _ => some .expectedString

/-- What keeps a value from being a number of 64 bits. -/
def wordFault : Item → Option Error
  | .bytes payload =>
    if payload.head? = some 0 then some .leadingZero
    else if payload.length > 8 then some (.scalarOverflow payload.length 8)
    else none
  | .list _ => some .expectedString

/-- The number that the bytes of a value spell. -/
def magnitude : Item → Nat
  | .bytes payload => Bytes.toNat payload
  | .list _ => 0

theorem fault?_asBytes (item : Item) : fault? item.asBytes = item.bytesFault := by
  cases item <;> rfl

theorem fault?_asScalar (item : Item) : fault? item.asScalar = item.scalarFault := by
  cases item with
  | list items => rfl
  | bytes payload =>
    by_cases hzero : payload.head? = some 0 <;>
      simp [asScalar, asDigits, asBytes, scalarFault, hzero, fault?, bind, Except.bind]

theorem fault?_asWord (item : Item) : fault? item.asWord = item.wordFault := by
  cases item with
  | list items => rfl
  | bytes payload =>
    by_cases hzero : payload.head? = some 0
    · simp [asWord, asDigits, asBytes, wordFault, hzero, fault?, bind, Except.bind]
    · by_cases hlong : payload.length > 8 <;>
        simp [asWord, asDigits, asBytes, wordFault, hzero, hlong, fault?, bind, Except.bind]

theorem magnitude_of_asScalar {item : Item} {value : Nat} (h : item.asScalar = .ok value) :
    item.magnitude = value := by
  obtain rfl := asScalar_eq_ok.mp h
  exact Bytes.toNat_ofNat value

theorem magnitude_of_asWord {item : Item} {word : UInt64} (h : item.asWord = .ok word) :
    item.magnitude = word.toNat := by
  obtain rfl := asWord_eq_ok.mp h
  rw [magnitude, wordDigits_eq_ofNat, Bytes.toNat_ofNat]

end HybridTx.Rlp.Item
