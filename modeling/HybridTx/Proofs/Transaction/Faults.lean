import HybridTx.Proofs.Transaction.Wire

/-! Why bytes are not read as a signed transaction. The fields are checked in a fixed order, each by
a rule of its own that looks at no other field, and the first that is at fault gives the error. -/

namespace HybridTx

open Rlp

theorem fault?_orMalformed {α : Type} (x : Except Rlp.Error α) :
    fault? (orMalformed x) = (fault? x).map .malformed := fault?_mapError _ x

/-- What keeps an item from being a storage key. -/
def storageKeyFault : Item → Option TransactionError
  | .bytes payload =>
    if payload.length = 32 then none
    else some (.invalidField "access_list" s!"storage key of {payload.length} bytes")
  | .list _ => some (.malformed .expectedString)

/-- What keeps an item from being the account `field`. -/
def accountFault (field : String) : Item → Option TransactionError
  | .bytes payload =>
    if payload.length = 20 then none
    else some (.invalidField field
      s!"Invalid field address: expected 20 bytes, got {payload.length}")
  | .list _ => some (.malformed .expectedString)

/-- What keeps an item from being the storage keys of an account: the first bad key. -/
def storageKeysFault : Item → Option TransactionError
  | .list keys => keys.findSome? storageKeyFault
  | .bytes _ => some (.malformed .expectedList)

/-- What keeps an item from being an entry of the access list: the number of its parts, its account,
or its keys. -/
def entryFault : Item → Option TransactionError
  | .list [account, keys] => (accountFault "access_list" account).or (storageKeysFault keys)
  | .list parts =>
    some (.invalidField "access_list" s!"entry has {parts.length} items, expected 2")
  | .bytes _ => some (.malformed .expectedList)

/-- What keeps an item from being a parity. -/
def parityFault (item : Item) : Option TransactionError :=
  (item.wordFault.map .malformed).or
    (if item.magnitude > 1 then
      some (.invalidField "y_parity" s!"expected 0 or 1, got {item.magnitude}")
    else none)

/-- What keeps an item from being the component `field` of a signature. -/
def componentFault (field : String) (item : Item) : Option TransactionError :=
  (item.scalarFault.map .malformed).or
    (if bitLength item.magnitude > componentBits then
      some (.invalidField field s!"{bitLength item.magnitude} bits exceeds {componentBits}")
    else none)

/-- The fields of a signed transaction, as they stand on the wire. -/
inductive Field
  | chainId
  | nonce
  | maxPriorityFee
  | maxFee
  | gasLimit
  | recipient
  | value
  | data
  | accessList
  | yParity
  | r
  | s
  | pqSignature
  | pqPublicKey
deriving DecidableEq, Repr

namespace Field

/-- The fields that are signed, in the order in which they are checked. -/
def checkedFirst : List Field :=
  [recipient, accessList, chainId, nonce, maxPriorityFee, maxFee, gasLimit, value, data]

/-- All fields in the order in which they are checked. -/
def checked : List Field := checkedFirst ++ [yParity, r, s, pqSignature, pqPublicKey]

theorem mem_checked (field : Field) : field ∈ checked := by
  cases field <;> decide

/-- What keeps an item from being a field. -/
def fault : Field → Item → Option TransactionError
  | chainId, item | maxPriorityFee, item | maxFee, item | value, item =>
    item.scalarFault.map .malformed
  | nonce, item | gasLimit, item => item.wordFault.map .malformed
  | recipient, .bytes [] => none
  | recipient, item => accountFault "to" item
  | data, item | pqSignature, item | pqPublicKey, item => item.bytesFault.map .malformed
  | accessList, .list entries => entries.findSome? entryFault
  | accessList, .bytes _ => some (.malformed .expectedList)
  | yParity, item => parityFault item
  | r, item => componentFault "r" item
  | s, item => componentFault "s" item

/-- What is wrong with the item at the place of a field; no other item is looked at. -/
def faultIn (items : List Item) (field : Field) : Option TransactionError :=
  items[field.ctorIdx]?.bind field.fault

end Field

theorem message_wrongLength (found : Nat) :
    (TransactionError.wrongLength "address" 20 found).message =
      s!"Invalid field address: expected 20 bytes, got {found}" := by
  have htext : "Invalid field " ++ "address" ++ ": " ++ ("expected " ++ "20" ++ " bytes, got ") =
      "Invalid field address: expected 20 bytes, got " := by decide +kernel
  calc (TransactionError.wrongLength "address" 20 found).message
    _ = "Invalid field " ++ "address" ++ ": " ++
        ("expected " ++ "20" ++ " bytes, got " ++ toString found) := rfl
    _ = "Invalid field " ++ "address" ++ ": " ++ ("expected " ++ "20" ++ " bytes, got ") ++
        toString found := (String.append_assoc ..).symm
    _ = _ := congrArg (· ++ toString found) htext

theorem fault?_account (field : String) (payload : Bytes) :
    fault? ((Address.ofBytes payload).mapError fun e => .invalidField field e.message) =
      accountFault field (.bytes payload) := by
  by_cases hlength : payload.length = 20
  · have haddress : Address.ofBytes payload = .ok ⟨⟨payload, hlength⟩⟩ :=
      Address.ofBytes_eq_ok.mpr rfl
    rw [haddress, accountFault, if_pos hlength]
    rfl
  · have hnone : FixedBytes.ofBytes? 20 payload = none := dif_neg hlength
    rw [Address.ofBytes, fixedField, hnone, accountFault, if_neg hlength, ← message_wrongLength]
    rfl

theorem fault?_keyOfItem (item : Item) :
    fault? (AccessEntry.keyOfItem item) = storageKeyFault item := by
  cases item with
  | list items => rfl
  | bytes payload =>
    by_cases hlength : payload.length = 32
    · have hkey : AccessEntry.keyOfItem (.bytes payload) = .ok ⟨payload, hlength⟩ :=
        (AccessEntry.keyOfItem_eq_ok _ _).mpr rfl
      rw [hkey, storageKeyFault, if_pos hlength]
      rfl
    · have hnone : FixedBytes.ofBytes? 32 payload = none := dif_neg hlength
      have hread : orMalformed (Item.bytes payload).asBytes = .ok payload := rfl
      rw [AccessEntry.keyOfItem, hread, ok_bind, hnone, storageKeyFault, if_neg hlength]
      rfl

theorem fault?_entries {α : Type} (read : Item → Except TransactionError α)
    (fault : Item → Option TransactionError) (h : ∀ item, fault? (read item) = fault item)
    (items : List Item) :
    fault? (orMalformed (Item.list items).asList >>= fun items => items.mapM read) =
      items.findSome? fault := by
  have hread : orMalformed (Item.list items).asList = .ok items := rfl
  rw [hread, ok_bind, fault?_mapM, funext h]

theorem fault?_ofItem (item : Item) : fault? (AccessEntry.ofItem item) = entryFault item := by
  cases item with
  | bytes payload => rfl
  | list parts =>
    have hread : orMalformed (Item.list parts).asList = .ok parts := rfl
    rw [AccessEntry.ofItem, hread, ok_bind]
    rcases parts with _ | ⟨account, _ | ⟨keys, _ | ⟨extra, rest⟩⟩⟩
    · rfl
    · rfl
    · cases account with
      | list items => rfl
      | bytes payload =>
        have hbytes : orMalformed (Item.bytes payload).asBytes = .ok payload := rfl
        simp only [hbytes, ok_bind]
        rw [entryFault, ← fault?_account]
        apply fault?_bind
        intro address _
        cases keys with
        | bytes payload => rfl
        | list keys =>
          rw [storageKeysFault, ← fault?_entries _ _ fault?_keyOfItem, ← bind_assoc,
            fault?_bind_ok]
    · rfl

theorem fault?_recipientOfItem (item : Item) :
    fault? (recipientOfItem item) = Field.recipient.fault item := by
  cases item with
  | list items => rfl
  | bytes payload =>
    cases payload with
    | nil => rfl
    | cons byte rest =>
      rw [recipientOfItem]
      have hread : orMalformed (Item.bytes (byte :: rest)).asBytes = .ok (byte :: rest) := rfl
      simp only [hread, ok_bind]
      rw [fault?_bind_ok, fault?_account]
      rfl

theorem fault?_scalar (item : Item) :
    fault? (orMalformed item.asScalar) = item.scalarFault.map .malformed := by
  rw [fault?_orMalformed, Item.fault?_asScalar]

theorem fault?_word (item : Item) :
    fault? (orMalformed item.asWord) = item.wordFault.map .malformed := by
  rw [fault?_orMalformed, Item.fault?_asWord]

theorem fault?_bytes (item : Item) :
    fault? (orMalformed item.asBytes) = item.bytesFault.map .malformed := by
  rw [fault?_orMalformed, Item.fault?_asBytes]

theorem fault?_parityOfItem (item : Item) : fault? (parityOfItem item) = parityFault item := by
  rw [parityOfItem, parityFault, ← fault?_word]
  apply fault?_bind
  intro word hword
  rw [Item.magnitude_of_asWord (orMalformed_eq_ok.mp hword)]
  by_cases hparity : word > 1
  · have hvalue : word.toNat > 1 := UInt64.lt_iff_toNat_lt.mp hparity
    rw [if_pos hparity, if_pos hvalue]
    rfl
  · have hvalue : ¬word.toNat > 1 := UInt64.lt_iff_toNat_lt.not.mp hparity
    rw [if_neg hparity, if_neg hvalue]
    rfl

theorem fault?_componentOfItem (field : String) (item : Item) :
    fault? (componentOfItem field item) = componentFault field item := by
  rw [componentOfItem, componentFault, ← fault?_scalar]
  apply fault?_bind
  intro value hvalue
  rw [Item.magnitude_of_asScalar (orMalformed_eq_ok.mp hvalue)]
  by_cases hbits : bitLength value > componentBits
  · rw [if_pos hbits, if_pos hbits]
    rfl
  · rw [if_neg hbits, if_neg hbits]
    rfl

theorem fault?_accessList (item : Item) :
    fault? (orMalformed item.asList >>= fun entries => entries.mapM AccessEntry.ofItem) =
      Field.accessList.fault item := by
  cases item with
  | bytes payload => rfl
  | list entries => exact fault?_entries _ _ fault?_ofItem entries

theorem fault?_ofFields (chainId nonce maxPriorityFee maxFee gasLimit recipient value data
    accessList : Item) (signatures : List Item) :
    fault? (Transaction.ofFields chainId nonce maxPriorityFee maxFee gasLimit recipient value data
        accessList) =
      Field.checkedFirst.findSome? (Field.faultIn ([chainId, nonce, maxPriorityFee, maxFee,
        gasLimit, recipient, value, data, accessList] ++ signatures)) := by
  rw [Transaction.ofFields]
  refine fault?_bind_check (fault?_recipientOfItem recipient) fun _ => ?_
  rw [← bind_assoc]
  refine fault?_bind_check (fault?_accessList accessList) fun _ => ?_
  refine fault?_bind_check (fault?_scalar chainId) fun _ => ?_
  refine fault?_bind_check (fault?_word nonce) fun _ => ?_
  refine fault?_bind_check (fault?_scalar maxPriorityFee) fun _ => ?_
  refine fault?_bind_check (fault?_scalar maxFee) fun _ => ?_
  refine fault?_bind_check (fault?_word gasLimit) fun _ => ?_
  refine fault?_bind_check (fault?_scalar value) fun _ => ?_
  exact fault?_bind_check (fault?_bytes data) fun _ => rfl

theorem fault?_decode {bytes : Bytes} : ∀ {items : List Item},
    decodeTagged bytes = .ok items → items.length = signedFieldCount →
      fault? (SignedTransaction.decode bytes) = Field.checked.findSome? (Field.faultIn items)
  | [chainId, nonce, maxPriorityFee, maxFee, gasLimit, recipient, value, data, accessList, parity,
      r, s, pqSignature, pqPublicKey], hitems, _ => by
    have hfirst := fault?_ofFields chainId nonce maxPriorityFee maxFee gasLimit recipient value data
      accessList [parity, r, s, pqSignature, pqPublicKey]
    rw [SignedTransaction.decode, hitems, ok_bind, Field.checked, List.findSome?_append]
    refine (fault?_bind fun _ _ => ?_).trans (congrArg (Option.or · _) hfirst)
    refine fault?_bind_check (fault?_parityOfItem parity) fun _ => ?_
    refine fault?_bind_check (fault?_componentOfItem "r" r) fun _ => ?_
    refine fault?_bind_check (fault?_componentOfItem "s" s) fun _ => ?_
    refine fault?_bind_check (fault?_bytes pqSignature) fun _ => ?_
    exact fault?_bind_check (fault?_bytes pqPublicKey) fun _ => rfl

theorem decodeTagged_of_ne {tag : UInt8} (htag : tag ≠ transactionTag) (payload : Bytes) :
    decodeTagged (tag :: payload) = .error (.unsupportedType tag) := if_neg htag

theorem decodeTagged_tag (payload : Bytes) :
    decodeTagged (transactionTag :: payload) =
      orMalformed (decodeExact payload) >>= fun item => orMalformed item.asList := by
  rw [decodeTagged, if_pos rfl]

/-- Why bytes are no signed transaction: no bytes, another tag, or no list of fourteen items behind
it; of fourteen items the first that fails its own check, in the order of `Field.checked`, gives the
error, whatever the items of later fields are. -/
theorem SignedTransaction.first_fault_decides :
    SignedTransaction.decode [] = .error (.malformed .emptyInput) ∧
    (∀ (tag : UInt8) (payload : Bytes), tag ≠ 0x05 →
      SignedTransaction.decode (tag :: payload) = .error (.unsupportedType tag)) ∧
    ∀ payload : Bytes,
      (∀ e, decodeExact payload = .error e →
        SignedTransaction.decode (0x05 :: payload) = .error (.malformed e)) ∧
      (∀ text, decodeExact payload = .ok (.bytes text) →
        SignedTransaction.decode (0x05 :: payload) = .error (.malformed .expectedList)) ∧
      ∀ items, decodeExact payload = .ok (.list items) →
        (items.length ≠ 14 →
          SignedTransaction.decode (0x05 :: payload) = .error (.fieldCount 14 items.length)) ∧
        (items.length = 14 →
          ((∃ signed, SignedTransaction.decode (0x05 :: payload) = .ok signed) ↔
            ∀ field : Field, field.faultIn items = none) ∧
          ∀ e, SignedTransaction.decode (0x05 :: payload) = .error e ↔
            ∃ before field later, Field.checked = before ++ field :: later ∧
              (∀ earlier ∈ before, earlier.faultIn items = none) ∧
              field.faultIn items = some e) := by
  refine ⟨decode_of_error rfl, fun tag payload htag => ?_, fun payload => ?_⟩
  · exact decode_of_error (decodeTagged_of_ne htag payload)
  have htagged := decodeTagged_tag payload
  refine ⟨fun e he => ?_, fun text htext => ?_, fun items hitems => ?_⟩
  · rw [he] at htagged
    exact decode_of_error htagged
  · rw [htext] at htagged
    exact decode_of_error htagged
  rw [hitems] at htagged
  refine ⟨fun hcount => decode_of_length htagged hcount, fun hcount => ?_⟩
  have hfault : fault? (SignedTransaction.decode (0x05 :: payload)) =
      Field.checked.findSome? (Field.faultIn items) := fault?_decode htagged hcount
  constructor
  · refine fault?_eq_none.symm.trans ?_
    rw [hfault, List.findSome?_eq_none_iff]
    exact ⟨fun hfields field => hfields field field.mem_checked,
      fun hfields field _ => hfields field⟩
  · intro e
    refine fault?_eq_some.symm.trans ?_
    rw [hfault, List.findSome?_eq_some_iff]
    constructor
    · rintro ⟨before, field, later, horder, hfield, hbefore⟩
      exact ⟨before, field, later, horder, hbefore, hfield⟩
    · rintro ⟨before, field, later, horder, hbefore, hfield⟩
      exact ⟨before, field, later, horder, hfield, hbefore⟩

/-- Nothing but the second account of the access list is named, though the chain number is not
written as a number either, nor a component of the signature, and the parity is a list. -/
theorem SignedTransaction.first_fault_decides_entry :
    let entries : Item := .list [.list [.bytes (List.replicate 20 1), .list []],
      .list [.bytes [1, 2, 3], .list [.bytes [7]]]]
    let items : List Item := [.bytes [0, 1], .bytes [], .bytes [], .bytes [], .bytes [], .bytes [],
      .bytes [], .bytes [], entries, .list [], .bytes [0], .bytes [], .bytes [], .bytes []]
    let payload := (Item.list items).encode
    decodeExact payload = .ok (.list items) ∧ items.length = 14 ∧
      SignedTransaction.decode (0x05 :: payload) =
        .error (.invalidField "access_list" "Invalid field address: expected 20 bytes, got 3") := by
  intro entries items payload
  have hpayload : decodeExact payload = .ok (.list items) :=
    decodeExact_eq_ok_iff.mpr ⟨by decide +kernel, by decide +kernel, rfl⟩
  obtain ⟨-, herror⟩ :=
    ((SignedTransaction.first_fault_decides.2.2 payload).2.2 items hpayload).2 rfl
  refine ⟨hpayload, rfl, (herror _).mpr ⟨[.recipient], .accessList, _, rfl, ?_, ?_⟩⟩
  · decide
  · decide +kernel

end HybridTx
