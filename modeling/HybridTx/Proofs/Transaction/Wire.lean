import HybridTx.Proofs.Rlp.Canonical
import HybridTx.Proofs.Transaction.Fields

/-! The bytes on the wire. A transaction is read exactly from the bytes that it is written as, so it
has one written form, and reading is the other way to put its parts together. -/

namespace HybridTx

open Rlp

theorem AccessEntry.depth_toItem (entry : AccessEntry) : entry.toItem.depth ≤ 2 := by
  have hkeys : Item.depthAll (entry.storageKeys.map fun key => .bytes key.bytes) ≤ 1 := by
    rw [Item.depthAll_le_iff]
    intro item hmem
    obtain ⟨key, -, rfl⟩ := List.mem_map.mp hmem
    exact Nat.zero_lt_one
  simp only [toItem, Item.depth, Item.depthAll]
  omega

theorem Transaction.depth_toItems (tx : Transaction) : Item.depthAll tx.toItems ≤ 4 := by
  have hentries : Item.depthAll (tx.accessList.map AccessEntry.toItem) ≤ 3 := by
    rw [Item.depthAll_le_iff]
    intro item hmem
    obtain ⟨entry, -, rfl⟩ := List.mem_map.mp hmem
    exact Nat.lt_succ_of_le entry.depth_toItem
  simp only [toItems, Item.depth, Item.depthAll]
  omega

theorem SignedTransaction.depth_toItems (signed : SignedTransaction) :
    Item.depthAll signed.toItems ≤ 4 := by
  have hfields := Item.depthAll_le_iff.mp signed.transaction.depth_toItems
  rw [Item.depthAll_le_iff, toItems, List.forall_mem_append]
  refine ⟨hfields, ?_⟩
  simp [Item.depth]

/-- An item list is read behind the type tag exactly where it is written there. -/
theorem decodeTagged_eq_ok {bytes : Bytes} {items : List Item} :
    decodeTagged bytes = .ok items ↔
      Item.depthAll items ≤ maxDepth ∧ bytes.length ≤ lengthBound ∧ bytes = encodeTagged items := by
  constructor
  · intro h
    cases bytes with
    | nil => cases h
    | cons tag payload =>
      rw [decodeTagged] at h
      split at h
      · next htag =>
        simp only [bind_eq_ok, orMalformed_eq_ok, decodeExact_eq_ok_iff, Item.asList_eq_ok] at h
        obtain ⟨_, ⟨hdepth, hlength, hpayload⟩, rfl⟩ := h
        exact ⟨hdepth, hlength, by rw [encodeTagged, htag, hpayload]⟩
      · cases h
  · rintro ⟨hdepth, hlength, rfl⟩
    rw [encodeTagged, decodeTagged, if_pos rfl]
    simp only [bind_eq_ok, orMalformed_eq_ok, decodeExact_eq_ok_iff, Item.asList_eq_ok]
    exact ⟨.list items, ⟨hdepth, hlength, rfl⟩, rfl⟩

/-- Unsigned bytes are read exactly where a transaction is written. -/
theorem Transaction.decode_eq_ok_iff {bytes : Bytes} {tx : Transaction} :
    Transaction.decode bytes = .ok tx ↔ bytes.length ≤ lengthBound ∧ bytes = tx.signingPayload := by
  simp only [decode, bind_eq_ok, decodeTagged_eq_ok]
  constructor
  · rintro ⟨items, ⟨-, hlength, rfl⟩, h⟩
    split at h
    · rw [ofFields_eq_ok] at h
      exact ⟨hlength, by rw [h, signingPayload]⟩
    · cases h
  · rintro ⟨hlength, rfl⟩
    have hdepth : Item.depthAll tx.toItems ≤ maxDepth :=
      le_trans tx.depth_toItems (by decide)
    exact ⟨tx.toItems, ⟨hdepth, hlength, rfl⟩, ofFields_eq_ok.mpr rfl⟩

/-- Wire bytes are read exactly where a transaction with a well-formed signature is written. -/
theorem SignedTransaction.decode_eq_ok_iff {bytes : Bytes} {signed : SignedTransaction} :
    SignedTransaction.decode bytes = .ok signed ↔
      signed.signature.WellFormed ∧ bytes.length ≤ lengthBound ∧ bytes = signed.encode := by
  simp only [decode, bind_eq_ok, decodeTagged_eq_ok]
  constructor
  · rintro ⟨items, ⟨-, hlength, rfl⟩, h⟩
    split at h
    · simp only [bind_eq_ok, orMalformed_eq_ok, Transaction.ofFields_eq_ok, parityOfItem_eq_ok,
        componentOfItem_eq_ok, Item.asBytes_eq_ok] at h
      obtain ⟨tx, htx, parity, ⟨rfl, hparity⟩, r, ⟨rfl, hr⟩, s, ⟨rfl, hs⟩, pqSignature, rfl,
        pqPublicKey, rfl, hsigned⟩ := h
      cases hsigned
      refine ⟨⟨hparity, hr, hs⟩, hlength, ?_⟩
      rw [encode, toItems, ← htx]
      rfl
    · cases h
  · rintro ⟨⟨hparity, hr, hs⟩, hlength, rfl⟩
    have hdepth : Item.depthAll signed.toItems ≤ maxDepth :=
      le_trans signed.depth_toItems (by decide)
    refine ⟨signed.toItems, ⟨hdepth, hlength, rfl⟩, ?_⟩
    simp only [toItems, Transaction.toItems, List.cons_append, List.nil_append]
    simp only [bind_eq_ok, orMalformed_eq_ok, Transaction.ofFields_eq_ok, parityOfItem_eq_ok,
        componentOfItem_eq_ok, Item.asBytes_eq_ok]
    exact ⟨signed.transaction, rfl, _, ⟨rfl, hparity⟩, _, ⟨rfl, hr⟩, _, ⟨rfl, hs⟩, _, rfl, _, rfl,
      rfl⟩

theorem SignedTransaction.decode_of_error {bytes : Bytes} {e : TransactionError}
    (h : decodeTagged bytes = .error e) : SignedTransaction.decode bytes = .error e := by
  rw [decode, h]
  rfl

theorem SignedTransaction.decode_of_length {bytes : Bytes} {items : List Item}
    (h : decodeTagged bytes = .ok items) (hcount : items.length ≠ signedFieldCount) :
    SignedTransaction.decode bytes = .error (.fieldCount signedFieldCount items.length) := by
  rw [decode, h, ok_bind]
  split
  · exact absurd rfl hcount
  · rfl

theorem SignedTransaction.decode_encode {signed : SignedTransaction}
    (hshape : signed.signature.WellFormed) (hlength : signed.encode.length < lengthBound) :
    SignedTransaction.decode signed.encode = .ok signed :=
  decode_eq_ok_iff.mpr ⟨hshape, hlength.le, rfl⟩

theorem Transaction.toItems_inj {tx other : Transaction} (h : tx.toItems = other.toItems) :
    tx = other := by
  have htx : [_, _, _, _, _, _, _, _, _] = tx.toItems := rfl
  have hread := ofFields_eq_ok.mpr htx
  rw [ofFields_eq_ok.mpr (htx.trans h)] at hread
  cases hread
  rfl

theorem SignedTransaction.toItems_inj {signed other : SignedTransaction}
    (h : signed.toItems = other.toItems) : signed = other := by
  obtain ⟨tx, ⟨parity, r, s⟩, pqSignature, pqPublicKey⟩ := signed
  obtain ⟨tx', ⟨parity', r', s'⟩, pqSignature', pqPublicKey'⟩ := other
  obtain ⟨htx, hrest⟩ := List.append_inj h rfl
  simp only [List.cons.injEq, Item.bytes.injEq, wordDigits_eq_ofNat, Bytes.ofNat_inj,
    UInt8.toNat_toUInt64, UInt8.toNat_inj, and_true] at hrest
  obtain ⟨rfl, rfl, rfl, rfl, rfl⟩ := hrest
  obtain rfl := Transaction.toItems_inj htx
  rfl

theorem length_encodeTagged (items : List Item) :
    (encodeTagged items).length = (Item.list items).encode.length + 1 := rfl

/-- Where one item list stands behind its tag, no other one stands, and it ends in one place. -/
theorem encodeTagged_append_inj {items others : List Item}
    (hitems : Item.depthAll items ≤ maxDepth) (hothers : Item.depthAll others ≤ maxDepth)
    (hlength : (encodeTagged items).length ≤ lengthBound)
    (hother : (encodeTagged others).length ≤ lengthBound) {u v : Bytes}
    (h : encodeTagged items ++ u = encodeTagged others ++ v) : items = others ∧ u = v := by
  rw [length_encodeTagged] at hlength hother
  have hpayload : (Item.list items).encode ++ u = (Item.list others).encode ++ v :=
    (List.cons.inj h).2
  have hread : decode ((Item.list items).encode ++ u) = .ok (.list items, u) :=
    decode_eq_ok_iff.mpr ⟨hitems, by omega, rfl⟩
  have hread' : decode ((Item.list others).encode ++ v) = .ok (.list others, v) :=
    decode_eq_ok_iff.mpr ⟨hothers, by omega, rfl⟩
  rw [hpayload, hread'] at hread
  cases hread
  exact ⟨rfl, rfl⟩

theorem SignedTransaction.encode_inj {signed other : SignedTransaction}
    (hlength : signed.encode.length ≤ lengthBound) (h : signed.encode = other.encode) :
    signed = other := by
  have hdepth : 4 ≤ maxDepth := by decide
  have hother : other.encode.length ≤ lengthBound := by rwa [← h]
  have hbytes : signed.encode ++ [] = other.encode ++ [] := congrArg (· ++ []) h
  exact toItems_inj (encodeTagged_append_inj (le_trans signed.depth_toItems hdepth)
    (le_trans other.depth_toItems hdepth) hlength hother hbytes).1

/-- The wire bytes of parts: the type tag, and the list of the nine encoded fields, the parity, the
two components, and the two post-quantum byte strings. -/
def wireOf (tx : Transaction) (signature : EcdsaSignature) (pqSignature pqPublicKey : Bytes) :
    Bytes :=
  transactionTag :: encodeList (tx.encodeFields ++
    [encodeWord signature.yParity.toUInt64, encodeScalar signature.r, encodeScalar signature.s,
      encodeBytes pqSignature, encodeBytes pqPublicKey])

theorem SignedTransaction.encode_eq_wireOf (signed : SignedTransaction) :
    signed.encode =
      wireOf signed.transaction signed.signature signed.pqSignature signed.pqPublicKey := by
  rw [encode, encodeTagged, Item.encode, Item.encodeAll_eq_map, toItems, List.map_append]
  rfl

theorem SignedTransaction.ofParts_eq_ok_iff {tx : Transaction} {signature : EcdsaSignature}
    {pqSignature pqPublicKey : Bytes} {signed : SignedTransaction} :
    ofParts tx signature pqSignature pqPublicKey = .ok signed ↔
      signature.WellFormed ∧ signed = ⟨tx, signature, pqSignature, pqPublicKey⟩ := by
  rw [ofParts]
  by_cases h : signature.WellFormed
  · rw [if_pos h]
    simp [h, eq_comm]
  · simp [h]

theorem EcdsaSignature.wellFormed_iff {signature : EcdsaSignature} :
    signature.WellFormed ↔
      signature.yParity ≤ 1 ∧ signature.r < 2 ^ 256 ∧ signature.s < 2 ^ 256 := by
  rw [WellFormed, bitLength_le_iff, bitLength_le_iff, componentBits]

/-- The two ways to a signed transaction, from its parts and from their wire bytes, give the same
value, and give one for the same signatures: those with a parity of 0 or 1 and components of at
most 256 bits. The value is written as these bytes, and read back from them. -/
theorem parts_agree_with_wire (tx : Transaction) (signature : EcdsaSignature)
    (pqSignature pqPublicKey : Bytes)
    (hlength : (wireOf tx signature pqSignature pqPublicKey).length < lengthBound) :
    (∀ signed, SignedTransaction.ofParts tx signature pqSignature pqPublicKey = .ok signed ↔
      SignedTransaction.decode (wireOf tx signature pqSignature pqPublicKey) = .ok signed) ∧
    ((∃ signed, SignedTransaction.ofParts tx signature pqSignature pqPublicKey = .ok signed) ↔
      signature.yParity ≤ 1 ∧ signature.r < 2 ^ 256 ∧ signature.s < 2 ^ 256) ∧
    ∀ signed, SignedTransaction.ofParts tx signature pqSignature pqPublicKey = .ok signed →
      signed.encode = wireOf tx signature pqSignature pqPublicKey ∧
        SignedTransaction.decode signed.encode = .ok signed := by
  have hwire := SignedTransaction.encode_eq_wireOf ⟨tx, signature, pqSignature, pqPublicKey⟩
  rw [← hwire] at hlength ⊢
  refine ⟨fun signed => ?_, ?_, fun signed hparts => ?_⟩
  · rw [SignedTransaction.ofParts_eq_ok_iff, SignedTransaction.decode_eq_ok_iff]
    constructor
    · rintro ⟨hsignature, rfl⟩
      exact ⟨hsignature, hlength.le, rfl⟩
    · rintro ⟨hsignature, -, hencode⟩
      obtain rfl := SignedTransaction.encode_inj hlength.le hencode
      exact ⟨hsignature, rfl⟩
  · rw [← EcdsaSignature.wellFormed_iff]
    simp only [SignedTransaction.ofParts_eq_ok_iff]
    exact ⟨fun ⟨_, hsignature, _⟩ => hsignature, fun hsignature => ⟨_, hsignature, rfl⟩⟩
  · obtain ⟨hsignature, rfl⟩ := SignedTransaction.ofParts_eq_ok_iff.mp hparts
    exact ⟨rfl, SignedTransaction.decode_eq_ok_iff.mpr ⟨hsignature, hlength.le, rfl⟩⟩

/-- A transaction with a fee above 256 bits and the two sorts of access entries. -/
def wideTransaction : Transaction where
  chainId := 1
  nonce := 0xffffffffffffffff
  maxFee := 2 ^ 256
  recipient := some .zero
  data := List.replicate 60 0x7f
  accessList := [⟨.zero, [.zero 32, .zero 32]⟩, ⟨.zero, []⟩]

/-- A signature with the widest component there is, and half of a post-quantum pair. -/
theorem parts_agree_with_wire_widest :
    let signature : EcdsaSignature := ⟨1, 2 ^ 256 - 1, 0⟩
    let wire := wireOf wideTransaction signature [1, 2] []
    wire.length < lengthBound ∧
      SignedTransaction.decode wire = .ok ⟨wideTransaction, signature, [1, 2], []⟩ := by
  intro signature wire
  have hlength : wire.length < lengthBound := by decide +kernel
  have hparts : SignedTransaction.ofParts wideTransaction signature [1, 2] [] =
      .ok ⟨wideTransaction, signature, [1, 2], []⟩ := if_pos (by decide +kernel)
  have hagree := parts_agree_with_wire wideTransaction signature [1, 2] [] hlength
  exact ⟨hlength, (hagree.1 _).mp hparts⟩

/-- Bytes are read as a transaction exactly when it is written as these bytes, signed or not; so no
other bytes spell it. -/
theorem written_form_unique (bytes : Bytes) (hlength : bytes.length < lengthBound) :
    (∀ signed, SignedTransaction.decode bytes = .ok signed ↔
      signed.signature.WellFormed ∧ signed.encode = bytes) ∧
    ∀ tx, Transaction.decode bytes = .ok tx ↔ tx.signingPayload = bytes := by
  constructor
  · intro signed
    rw [SignedTransaction.decode_eq_ok_iff]
    exact ⟨fun ⟨hsignature, _, hbytes⟩ => ⟨hsignature, hbytes.symm⟩,
      fun ⟨hsignature, hbytes⟩ => ⟨hsignature, hlength.le, hbytes.symm⟩⟩
  · intro tx
    rw [Transaction.decode_eq_ok_iff]
    exact ⟨fun ⟨_, hbytes⟩ => hbytes.symm, fun hbytes => ⟨hlength.le, hbytes.symm⟩⟩

/-- The empty transaction, signed without a post-quantum pair and not signed. -/
theorem written_form_unique_empty :
    let signed : Bytes :=
      [0x05, 0xce] ++ List.replicate 8 0x80 ++ [0xc0, 0x01, 0x07, 0x09, 0x80, 0x80]
    let unsigned : Bytes := [0x05, 0xc9] ++ List.replicate 8 0x80 ++ [0xc0]
    signed.length < lengthBound ∧ unsigned.length < lengthBound ∧
      SignedTransaction.encode ⟨{}, ⟨1, 7, 9⟩, [], []⟩ = signed ∧
      Transaction.signingPayload {} = unsigned := by
  intro signed unsigned
  have hsigned : signed.length < lengthBound := by decide
  have hunsigned : unsigned.length < lengthBound := by decide
  exact ⟨hsigned, hunsigned, (((written_form_unique signed hsigned).1 _).mp rfl).2,
    ((written_form_unique unsigned hunsigned).2 _).mp rfl⟩

/-- A transaction that is not signed is read back from the bytes that its signers hash. -/
theorem unsigned_read_back (tx : Transaction) (hlength : tx.signingPayload.length < lengthBound) :
    Transaction.decode tx.signingPayload = .ok tx :=
  Transaction.decode_eq_ok_iff.mpr ⟨hlength.le, rfl⟩

/-- A wide transaction that makes a contract on a chain whose number has more than 256 bits. -/
theorem unsigned_read_back_wide :
    let tx : Transaction := { wideTransaction with chainId := 2 ^ 300, recipient := none }
    tx.signingPayload.length < lengthBound ∧ Transaction.decode tx.signingPayload = .ok tx := by
  intro tx
  have hlength : tx.signingPayload.length < lengthBound := by decide +kernel
  exact ⟨hlength, unsigned_read_back tx hlength⟩

end HybridTx
