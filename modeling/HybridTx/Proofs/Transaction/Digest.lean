import HybridTx.Proofs.Hash.Streaming
import HybridTx.Proofs.Rlp.Nesting
import HybridTx.Transaction.Signed

/-! What both signatures sign. The tag and the field list are hashed one after the other, and the
bytes of a transaction are put together elsewhere; the digests are the same. -/

namespace HybridTx

open Rlp Keccak

/-- The hash of a transaction is the digest of its unsigned bytes. -/
theorem Transaction.hash_eq (tx : Transaction) : tx.hash = ⟨keccak256 tx.signingPayload⟩ := by
  have hparts : tx.hash =
      ⟨([[transactionTag], encodeList tx.encodeFields].foldl Hasher.update .start).finish⟩ := rfl
  have hbytes : [[transactionTag], encodeList tx.encodeFields].flatten = tx.signingPayload := by
    rw [encodeFields, ← Item.encodeAll_eq_map, List.flatten_cons, List.flatten_singleton]
    rfl
  rw [hparts, Hasher.finish_foldl_update, hbytes]

/-- The fields that are signed are the first ones on the wire. -/
theorem SignedTransaction.take_toItems (signed : SignedTransaction) :
    signed.toItems.take unsignedFieldCount = signed.transaction.toItems := rfl

/-- Signatures sign the digest of the payload, however it is taken in: a hasher that takes in any
parts gives the digest of the parts together, so the hash of a transaction is the digest of its
unsigned bytes. -/
theorem hash_is_digest_of_payload :
    (∀ message, ∃ blocks tail, keccakSponge.IsBlocks message blocks tail ∧
      (keccakSponge.pad tail).length = keccakSponge.rate ∧ keccak256 message =
        digestOf ((blocks ++ [keccakSponge.pad tail]).foldl Sponge.absorbBlock .zero)) ∧
    (∀ parts : List Bytes, (parts.foldl Hasher.update .start).finish = keccak256 parts.flatten) ∧
    (∀ tx : Transaction, tx.hash = ⟨keccak256 tx.signingPayload⟩) ∧
    ∀ signed : SignedTransaction, signed.signingHash =
      ⟨keccak256
        (transactionTag :: encodeList ((signed.toItems.take unsignedFieldCount).map Item.encode))⟩
    := by
  refine ⟨fun message => ?_, Hasher.finish_foldl_update, Transaction.hash_eq, fun signed => ?_⟩
  · obtain ⟨blocks, tail, h⟩ := keccakSponge.exists_isBlocks message
    exact ⟨blocks, tail, h, Sponge.length_pad h.short, keccak256_of_isBlocks h⟩
  · rw [SignedTransaction.signingHash, Transaction.hash_eq, signed.take_toItems,
      ← Item.encodeAll_eq_map]
    rfl

end HybridTx
