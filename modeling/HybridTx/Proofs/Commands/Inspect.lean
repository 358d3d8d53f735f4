import HybridTx.Proofs.Commands.Values
import HybridTx.Proofs.Text.Split
import HybridTx.Proofs.Transaction.Texts
import HybridTx.Proofs.Transaction.Wire

/-! What is shown of a transaction is enough to make it again. The texts of the view are read back,
by the readers of the command line, as the fields that they were written from. -/

namespace HybridTx

/-- An entry as the argument that gives it: the address, and behind a colon the storage keys with
commas between them. -/
def AccessView.argument (entry : AccessView) : String :=
  entry.address ++ ":" ++ ",".intercalate entry.storageKeys

namespace TransactionView

/-- The arguments that give the fields of a view, if the two words in it are words. -/
def fieldArgs? (view : TransactionView) : Option FieldArgs := do
  let nonce ← readWord? view.nonce
  let gasLimit ← readWord? view.gasLimit
  some {
    chainId := some view.chainId, nonce, maxPriorityFee := some view.maxPriorityFee
    maxFee := some view.maxFee, gasLimit := some gasLimit, recipient := view.recipient
    value := view.value, data := view.data, access := view.accessList.map AccessView.argument }

/-- The transaction that a view shows, made from its texts alone. -/
def rebuild? (view : TransactionView) (chain : ChainConfig) : Option SignedTransaction := do
  let args ← view.fieldArgs?
  let transaction ← (args.toTransaction chain).toOption
  let r ← (readAmount "r" view.r).toOption
  let s ← (readAmount "s" view.s).toOption
  let pqSignature ← (readDigits "pq-signature" view.pqSignature).toOption
  let pqPublicKey ← (readDigits "pq-public-key" view.pqPublicKey).toOption
  (SignedTransaction.ofParts transaction ⟨view.yParity, r, s⟩ pqSignature pqPublicKey).toOption

end TransactionView

theorem FixedBytes.leftPad?_bytes {size : Nat} (block : FixedBytes size) :
    leftPad? size block.bytes = some block := by
  obtain ⟨bytes, hlength⟩ := block
  have hfull : List.replicate (size - bytes.length) 0 ++ bytes = bytes := by
    rw [hlength, Nat.sub_self]
    rfl
  rw [leftPad?, dif_pos hlength.le]
  simp only [hfull]

theorem readStorageKey_encodeMarked (key : FixedBytes 32) :
    readStorageKey (Hex.encodeMarked key.bytes) = .ok key := by
  rw [readStorageKey, readDigits_encodeMarked, ok_bind, key.leftPad?_bytes]

/-- Neither of the marks between the parts of an entry is in a written byte string. -/
theorem Hex.ne_mark_of_mem_encodeMarked {bytes : Bytes} :
    ∀ c ∈ (encodeMarked bytes).toList, c ≠ ':' ∧ c ≠ ',' :=
  forall_mem_encodeMarked (by decide) (by decide) bytes

/-- The keys of an entry are read back, also where there are none. -/
theorem readStorageKeys_intercalate (keys : List (FixedBytes 32)) :
    readStorageKeys ([','].intercalate (keys.map fun key => (Hex.encodeMarked key.bytes).toList)) =
      .ok keys := by
  let write (key : FixedBytes 32) : List Char := (Hex.encodeMarked key.bytes).toList
  have hread : ∀ key ∈ keys, (readStorageKey ∘ String.ofList) (write key) = .ok key := by
    intro key _
    rw [Function.comp_apply, String.ofList_toList, readStorageKey_encodeMarked]
  obtain rfl | hne := eq_or_ne keys []
  · rfl
  have hparts : Text.splitAt ',' ([','].intercalate (keys.map write)) = keys.map write := by
    apply Text.splitAt_intercalate (by simpa using hne)
    intro part hpart hcomma
    obtain ⟨key, -, rfl⟩ := List.mem_map.mp hpart
    exact (Hex.ne_mark_of_mem_encodeMarked _ hcomma).2 rfl
  have hkept : (keys.map write).filter (Text.trimChars · ≠ []) = keys.map write := by
    rw [List.filter_eq_self]
    intro part hpart
    obtain ⟨key, -, rfl⟩ := List.mem_map.mp hpart
    rw [Hex.trimChars_encodeMarked, Hex.toList_encodeMarked]
    rfl
  rw [readStorageKeys, hparts, hkept, mapM_map_eq_ok hread]

theorem readAccessEntry_argument (entry : AccessEntry) :
    readAccessEntry (AccessView.ofEntry entry).argument = .ok entry := by
  obtain ⟨address, keys⟩ := entry
  have htext : (AccessView.ofEntry ⟨address, keys⟩).argument.toList =
      address.display.toList ++
        ':' :: [','].intercalate (keys.map fun key => (Hex.encodeMarked key.bytes).toList) := by
    simp [AccessView.argument, AccessView.ofEntry]
    rfl
  have hcolon : ':' ∉ address.display.toList := by
    intro h
    exact (Hex.ne_mark_of_mem_encodeMarked _ h).1 rfl
  rw [readAccessEntry, htext, Text.cutAt_append hcolon]
  simp only [String.ofList_toList, Address.ofHex_display, Option.getD_some,
    readStorageKeys_intercalate]
  rfl

theorem readRecipient_display {args : FieldArgs} {recipient : Option Address}
    (h : args.recipient = recipient.map Address.display) : args.readRecipient = .ok recipient := by
  rw [FieldArgs.readRecipient, h]
  cases recipient with
  | none => rfl
  | some address =>
    simp only [Option.map_some, Address.ofHex_display]
    rfl

theorem accessList_read_back (entries : List AccessEntry) :
    ((entries.map AccessView.ofEntry).map AccessView.argument).mapM readAccessEntry =
      .ok entries := by
  rw [List.map_map]
  exact mapM_map_eq_ok fun entry _ => readAccessEntry_argument entry

namespace TransactionView

variable (signed : SignedTransaction)

/-- The shown fields are read back as the transaction, whatever the configuration has for fields
that are left out: none is. -/
theorem toTransaction_ofSigned (chain : ChainConfig) :
    ∃ args, (ofSigned signed).fieldArgs? = some args ∧
      args.toTransaction chain = .ok signed.transaction := by
  have hnonce : readWord? (ofSigned signed).nonce = some signed.transaction.nonce :=
    readWord?_decimal _
  have hgasLimit : readWord? (ofSigned signed).gasLimit = some signed.transaction.gasLimit :=
    readWord?_decimal _
  rw [fieldArgs?, hnonce, hgasLimit]
  refine ⟨_, rfl, ?_⟩
  rw [FieldArgs.toTransaction, readRecipient_display rfl]
  simp only [ofSigned, Option.getD_some, readAmount_decimal, readDigits_encodeMarked,
    accessList_read_back, ok_bind]

theorem rebuild?_ofSigned (hshape : signed.signature.WellFormed) (chain : ChainConfig) :
    (ofSigned signed).rebuild? chain = some signed := by
  obtain ⟨args, hargs, htransaction⟩ := toTransaction_ofSigned signed chain
  have hparts : SignedTransaction.ofParts signed.transaction signed.signature signed.pqSignature
      signed.pqPublicKey = .ok signed := SignedTransaction.ofParts_eq_ok_iff.mpr ⟨hshape, rfl⟩
  rw [rebuild?, hargs, Option.bind_eq_bind, Option.bind_some, htransaction]
  simp only [ofSigned, readAmount_decimal, readDigits_encodeMarked]
  exact congrArg Except.toOption hparts

theorem ofSigned_injective : Function.Injective ofSigned := by
  intro signed other h
  have htransaction : signed.transaction = other.transaction := by
    obtain ⟨args, hargs, hread⟩ := toTransaction_ofSigned signed {}
    obtain ⟨others, hothers, hother⟩ := toTransaction_ofSigned other {}
    rw [h, hothers] at hargs
    cases hargs
    rw [hread] at hother
    exact Except.ok.inj hother
  have hparity : signed.signature.yParity = other.signature.yParity := congrArg yParity h
  have hr : signed.signature.r = other.signature.r := decimal_injective (congrArg r h)
  have hs : signed.signature.s = other.signature.s := decimal_injective (congrArg s h)
  have hpqSignature : signed.pqSignature = other.pqSignature :=
    Hex.encodeMarked_injective (congrArg pqSignature h)
  have hpqPublicKey : signed.pqPublicKey = other.pqPublicKey :=
    Hex.encodeMarked_injective (congrArg pqPublicKey h)
  obtain ⟨transaction, ⟨yParity, r, s⟩, pqSignature, pqPublicKey⟩ := signed
  obtain ⟨transaction', ⟨yParity', r', s'⟩, pqSignature', pqPublicKey'⟩ := other
  cases htransaction
  cases hparity
  cases hr
  cases hs
  cases hpqSignature
  cases hpqPublicKey
  rfl

end TransactionView

/-- What is shown of a transaction with a well-formed signature gives it back: its fields, passed as
arguments again, are those that it signs, its components and byte strings are read as its own, and
the parts together are written as the same bytes. -/
theorem view_loses_nothing (signed : SignedTransaction) (hshape : signed.signature.WellFormed)
    (chain : ChainConfig) :
    let view := TransactionView.ofSigned signed
    (∃ args, view.fieldArgs? = some args ∧ args.toTransaction chain = .ok signed.transaction) ∧
    (∀ name, readAmount name view.r = .ok signed.signature.r ∧
      readAmount name view.s = .ok signed.signature.s ∧
      readDigits name view.pqSignature = .ok signed.pqSignature ∧
      readDigits name view.pqPublicKey = .ok signed.pqPublicKey) ∧
    (∃ rebuilt, view.rebuild? chain = some rebuilt ∧ rebuilt.encode = signed.encode) ∧
    ∀ other, other ≠ signed → TransactionView.ofSigned other ≠ view := by
  intro view
  refine ⟨?_, fun name => ⟨?_, ?_, ?_, ?_⟩, ?_, ?_⟩
  · exact TransactionView.toTransaction_ofSigned signed chain
  · exact readAmount_decimal name signed.signature.r
  · exact readAmount_decimal name signed.signature.s
  · exact readDigits_encodeMarked name signed.pqSignature
  · exact readDigits_encodeMarked name signed.pqPublicKey
  · exact ⟨signed, TransactionView.rebuild?_ofSigned signed hshape chain, rfl⟩
  · intro other hne hview
    exact hne (TransactionView.ofSigned_injective hview)

/-- A transaction with a fee of 257 bits, two entries of one account, one of them without keys, and
half of a post-quantum pair. -/
theorem view_loses_nothing_wide :
    let signed : SignedTransaction := ⟨wideTransaction, ⟨1, 2 ^ 256 - 1, 0⟩, [1, 2], []⟩
    let view := TransactionView.ofSigned signed
    signed.signature.WellFormed ∧
      view.accessList.getLast?.map AccessView.argument =
        some "0x0000000000000000000000000000000000000000:" ∧
      ∃ rebuilt, view.rebuild? {} = some rebuilt ∧ rebuilt.encode = signed.encode := by
  intro signed view
  have hshape : signed.signature.WellFormed := by decide +kernel
  exact ⟨hshape, by decide +kernel, (view_loses_nothing signed hshape {}).2.2.1⟩

end HybridTx
