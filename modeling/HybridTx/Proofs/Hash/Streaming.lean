import HybridTx.Hash.Sponge

/-! Messages in blocks, and messages in parts. A sponge absorbs a message block by block, and a
hasher keeps the state after the whole blocks of what it has taken in with the bytes behind them,
wherever the parts began and ended. -/

namespace HybridTx.Keccak

namespace Sponge

/-- A message cut into whole blocks, with a tail behind them that is none. -/
structure IsBlocks (sponge : Sponge) (message : Bytes) (blocks : List Bytes) (tail : Bytes) :
    Prop where
  joined : blocks.flatten ++ tail = message
  full : ∀ block ∈ blocks, block.length = sponge.rate
  short : tail.length < sponge.rate

variable {sponge : Sponge} {message block tail : Bytes} {blocks : List Bytes}

theorem exists_isBlocks (sponge : Sponge) (message : Bytes) :
    ∃ blocks tail, sponge.IsBlocks message blocks tail := by
  by_cases h : message.length < sponge.rate
  · exact ⟨[], message, rfl, nofun, h⟩
  · obtain ⟨blocks, tail, hrest⟩ := exists_isBlocks sponge (message.drop sponge.rate)
    refine ⟨message.take sponge.rate :: blocks, tail, ?_, ?_, hrest.short⟩
    · rw [List.flatten_cons, List.append_assoc, hrest.joined, List.take_append_drop]
    · refine List.forall_mem_cons.mpr ⟨?_, hrest.full⟩
      rw [List.length_take]
      omega
termination_by message.length
decreasing_by
  have := sponge.rate_pos
  rw [List.length_drop]
  omega

theorem absorbBlocks_short (state : State) (h : message.length < sponge.rate) :
    sponge.absorbBlocks state message = (state, message) := by
  rw [absorbBlocks, dif_pos]
  rw [List.length_take]
  omega

theorem absorbBlocks_cons (state : State) (h : block.length = sponge.rate) (rest : Bytes) :
    sponge.absorbBlocks state (block ++ rest) =
      sponge.absorbBlocks (absorbBlock state block) rest := by
  rw [absorbBlocks, ← h, List.take_left, List.drop_left, dif_neg (Nat.lt_irrefl _)]

/-- Every whole block is absorbed in turn, and the tail is left over. -/
theorem IsBlocks.absorbBlocks (h : sponge.IsBlocks message blocks tail) (state : State) :
    sponge.absorbBlocks state message = (blocks.foldl absorbBlock state, tail) := by
  obtain ⟨rfl, hfull, hshort⟩ := h
  induction blocks generalizing state with
  | nil => exact absorbBlocks_short state hshort
  | cons block blocks ih =>
    obtain ⟨hblock, hblocks⟩ := List.forall_mem_cons.mp hfull
    rw [List.flatten_cons, List.append_assoc, absorbBlocks_cons state hblock, ih _ hblocks,
      List.foldl_cons]

theorem length_pad (h : tail.length < sponge.rate) : (sponge.pad tail).length = sponge.rate := by
  rw [pad]
  split
  · simp only [List.length_append, List.length_cons, List.length_replicate, List.length_nil]
    omega
  · rw [List.length_append, List.length_singleton]
    omega

theorem length_outputBlock (h : sponge.rate ≤ 200) (state : State) :
    (sponge.outputBlock state).length = sponge.rate := by
  rw [outputBlock, List.length_take_of_le (by rwa [State.length_toBytes])]

end Sponge

/-- The digest of a message is made from its blocks, of which the last is filled up. -/
theorem keccak256_of_isBlocks {message tail : Bytes} {blocks : List Bytes}
    (h : keccakSponge.IsBlocks message blocks tail) :
    keccak256 message =
      digestOf ((blocks ++ [keccakSponge.pad tail]).foldl Sponge.absorbBlock .zero) := by
  rw [keccak256, Sponge.absorb, h.absorbBlocks, List.foldl_append, List.foldl_cons, List.foldl_nil]

namespace Hasher

/-- What a hasher holds when it has taken in a message. -/
def HasTaken (hasher : Hasher) (message : Bytes) : Prop :=
  ∃ blocks, keccakSponge.IsBlocks message blocks hasher.pending ∧
    hasher.state = blocks.foldl Sponge.absorbBlock .zero

theorem hasTaken_start : start.HasTaken [] := ⟨[], ⟨rfl, nofun, keccakSponge.rate_pos⟩, rfl⟩

variable {hasher : Hasher} {message : Bytes}

/-- The bytes that filled no block are the start of the next one. -/
theorem HasTaken.update (h : hasher.HasTaken message) (part : Bytes) :
    (hasher.update part).HasTaken (message ++ part) := by
  obtain ⟨blocks, ⟨hjoined, hfull, -⟩, hstate⟩ := h
  obtain ⟨more, tail, hmore⟩ := keccakSponge.exists_isBlocks (hasher.pending ++ part)
  have hupdate : hasher.update part = ⟨more.foldl Sponge.absorbBlock hasher.state, tail⟩ := by
    rw [Hasher.update, hmore.absorbBlocks]
  rw [hupdate]
  refine ⟨blocks ++ more, ⟨?_, ?_, hmore.short⟩, ?_⟩
  · rw [List.flatten_append, List.append_assoc, hmore.joined, ← List.append_assoc, hjoined]
  · exact List.forall_mem_append.mpr ⟨hfull, hmore.full⟩
  · rw [List.foldl_append, hstate]

theorem HasTaken.foldl_update (h : hasher.HasTaken message) (parts : List Bytes) :
    (parts.foldl Hasher.update hasher).HasTaken (message ++ parts.flatten) := by
  induction parts generalizing hasher message with
  | nil => rwa [List.flatten_nil, List.append_nil]
  | cons part parts ih =>
    rw [List.foldl_cons, List.flatten_cons, ← List.append_assoc]
    exact ih (h.update part)

theorem HasTaken.finish (h : hasher.HasTaken message) : hasher.finish = keccak256 message := by
  obtain ⟨blocks, hblocks, hstate⟩ := h
  rw [keccak256_of_isBlocks hblocks, List.foldl_append, ← hstate, List.foldl_cons, List.foldl_nil,
    Hasher.finish]

/-- However a message is cut into parts, its digest is that of the whole. -/
theorem finish_foldl_update (parts : List Bytes) :
    (parts.foldl update start).finish = keccak256 parts.flatten :=
  (hasTaken_start.foldl_update parts).finish

end Hasher

end HybridTx.Keccak
