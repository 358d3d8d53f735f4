import HybridTx.Proofs.Rlp.Accessors
import HybridTx.Transaction.Signed

/-! The readers of fields. Each accepts exactly the items that its writer makes, and gives back the
value that they were made from. -/

namespace HybridTx

@[simp] theorem orMalformed_eq_ok {α : Type} {x : Except Rlp.Error α} {a : α} :
    orMalformed x = .ok a ↔ x = .ok a := mapError_eq_ok

theorem FixedBytes.ofBytes?_eq_some {size : Nat} {bytes : Bytes} {block : FixedBytes size} :
    FixedBytes.ofBytes? size bytes = some block ↔ bytes = block.bytes := by
  obtain ⟨content, hlength⟩ := block
  rw [ofBytes?]
  constructor
  · intro h
    split at h
    · cases h
      rfl
    · cases h
  · rintro rfl
    rw [dif_pos hlength]

theorem fixedField_eq_ok {field : String} {size : Nat} {bytes : Bytes} {block : FixedBytes size} :
    fixedField field size bytes = .ok block ↔ bytes = block.bytes := by
  rw [fixedField, ← FixedBytes.ofBytes?_eq_some]
  cases FixedBytes.ofBytes? size bytes <;> simp

theorem Address.ofBytes_eq_ok {bytes : Bytes} {address : Address} :
    Address.ofBytes bytes = .ok address ↔ bytes = address.bytes := by
  obtain ⟨block⟩ := address
  rw [ofBytes, map_eq_ok]
  constructor
  · rintro ⟨found, hfound, hblock⟩
    cases hblock
    exact fixedField_eq_ok.mp hfound
  · intro h
    exact ⟨block, fixedField_eq_ok.mpr h, rfl⟩

namespace AccessEntry

theorem keyOfItem_eq_ok (item : Rlp.Item) (key : FixedBytes 32) :
    keyOfItem item = .ok key ↔ item = .bytes key.bytes := by
  simp only [keyOfItem, bind_eq_ok, orMalformed_eq_ok, Rlp.Item.asBytes_eq_ok]
  constructor
  · rintro ⟨bytes, rfl, hkey⟩
    split at hkey
    · next found hfound =>
      cases hkey
      rw [FixedBytes.ofBytes?_eq_some.mp hfound]
    · cases hkey
  · rintro rfl
    exact ⟨_, rfl, by rw [FixedBytes.ofBytes?_eq_some.mpr rfl]⟩

theorem ofItem_eq_ok (item : Rlp.Item) (entry : AccessEntry) :
    ofItem item = .ok entry ↔ item = entry.toItem := by
  obtain ⟨address, keys⟩ := entry
  simp only [ofItem, bind_eq_ok, orMalformed_eq_ok, Rlp.Item.asList_eq_ok]
  constructor
  · rintro ⟨parts, rfl, hparts⟩
    split at hparts
    · next first second =>
      simp only [bind_eq_ok, orMalformed_eq_ok, mapError_eq_ok, Rlp.Item.asBytes_eq_ok,
        Rlp.Item.asList_eq_ok, Address.ofBytes_eq_ok, mapM_eq_ok_iff keyOfItem_eq_ok] at hparts
      obtain ⟨_, rfl, found, rfl, _, rfl, storageKeys, rfl, hentry⟩ := hparts
      cases hentry
      rfl
    · cases hparts
  · rintro rfl
    refine ⟨_, rfl, ?_⟩
    simp only [bind_eq_ok, orMalformed_eq_ok, mapError_eq_ok, Rlp.Item.asBytes_eq_ok,
      Rlp.Item.asList_eq_ok, Address.ofBytes_eq_ok, mapM_eq_ok_iff keyOfItem_eq_ok]
    exact ⟨_, rfl, address, rfl, _, rfl, keys, rfl, rfl⟩

end AccessEntry

theorem Address.bytes_ne_nil (address : Address) : address.bytes ≠ [] := by
  have hlength := address.length_eq
  intro h
  rw [h] at hlength
  cases hlength

/-- A recipient is an address, and no recipient is the empty byte string. -/
theorem recipientOfItem_eq_ok {item : Rlp.Item} {recipient : Option Address} :
    recipientOfItem item = .ok recipient ↔ item = .bytes (recipient.elim [] (·.bytes)) := by
  simp only [recipientOfItem, bind_eq_ok, orMalformed_eq_ok, Rlp.Item.asBytes_eq_ok]
  constructor
  · rintro ⟨bytes, rfl, hrecipient⟩
    split at hrecipient
    · cases hrecipient
      rfl
    · obtain ⟨address, haddress, hsome⟩ := bind_eq_ok.mp hrecipient
      cases hsome
      rw [Address.ofBytes_eq_ok.mp (mapError_eq_ok.mp haddress)]
      rfl
  · rintro rfl
    cases recipient with
    | none => exact ⟨[], rfl, rfl⟩
    | some address =>
      refine ⟨address.bytes, rfl, ?_⟩
      split
      · next h => exact absurd h address.bytes_ne_nil
      · simp only [bind_eq_ok, mapError_eq_ok, Address.ofBytes_eq_ok]
        exact ⟨address, rfl, rfl⟩

/-- The nine fields are read exactly where they stand in the order of the wire. -/
theorem Transaction.ofFields_eq_ok
    {chainId nonce maxPriorityFee maxFee gasLimit recipient value data accessList : Rlp.Item}
    {tx : Transaction} :
    ofFields chainId nonce maxPriorityFee maxFee gasLimit recipient value data accessList = .ok tx ↔
      [chainId, nonce, maxPriorityFee, maxFee, gasLimit, recipient, value, data, accessList] =
        tx.toItems := by
  simp only [ofFields, bind_eq_ok, orMalformed_eq_ok, recipientOfItem_eq_ok,
    Rlp.Item.asBytes_eq_ok, Rlp.Item.asList_eq_ok, Rlp.Item.asScalar_eq_ok, Rlp.Item.asWord_eq_ok,
    mapM_eq_ok_iff AccessEntry.ofItem_eq_ok]
  constructor
  · rintro ⟨_, rfl, _, rfl, _, rfl, _, rfl, _, rfl, _, rfl, _, rfl, _, rfl, _, rfl, _, rfl, htx⟩
    cases htx
    rfl
  · intro h
    rw [toItems] at h
    simp only [List.cons.injEq, and_true] at h
    obtain ⟨rfl, rfl, rfl, rfl, rfl, rfl, rfl, rfl, rfl⟩ := h
    exact ⟨_, rfl, _, rfl, _, rfl, _, rfl, _, rfl, _, rfl, _, rfl, _, rfl, _, rfl, _, rfl, rfl⟩

/-- A component of a signature has at most 256 bits. -/
theorem componentOfItem_eq_ok {field : String} {item : Rlp.Item} {value : Nat} :
    componentOfItem field item = .ok value ↔
      item = .bytes (.ofNat value) ∧ bitLength value ≤ componentBits := by
  simp only [componentOfItem, bind_eq_ok, orMalformed_eq_ok, Rlp.Item.asScalar_eq_ok, guard_eq_ok,
    gt_iff_lt, Nat.not_lt]
  constructor
  · rintro ⟨found, rfl, hbits, hfound⟩
    cases hfound
    exact ⟨rfl, hbits⟩
  · rintro ⟨rfl, hbits⟩
    exact ⟨value, rfl, hbits, rfl⟩

/-- A parity is 0 or 1. -/
theorem parityOfItem_eq_ok {item : Rlp.Item} {parity : UInt8} :
    parityOfItem item = .ok parity ↔
      item = .bytes (Rlp.wordDigits parity.toUInt64) ∧ parity ≤ 1 := by
  simp only [parityOfItem, bind_eq_ok, orMalformed_eq_ok, Rlp.Item.asWord_eq_ok, guard_eq_ok,
    gt_iff_lt, UInt64.not_lt]
  constructor
  · rintro ⟨word, rfl, hword, hparity⟩
    cases hparity
    have hle : word.toNat ≤ 1 := UInt64.le_iff_toNat_le.mp hword
    have hsame : word.toUInt8.toUInt64 = word := by
      apply UInt64.toNat_inj.mp
      rw [UInt8.toNat_toUInt64, UInt64.toNat_toUInt8]
      omega
    refine ⟨by rw [hsame], ?_⟩
    rw [UInt8.le_iff_toNat_le, UInt64.toNat_toUInt8]
    exact le_trans (Nat.mod_le _ _) hle
  · rintro ⟨rfl, hparity⟩
    refine ⟨_, rfl, ?_, by rw [UInt8.toUInt8_toUInt64]⟩
    rw [UInt64.le_iff_toNat_le, UInt8.toNat_toUInt64]
    exact UInt8.le_iff_toNat_le.mp hparity

end HybridTx
