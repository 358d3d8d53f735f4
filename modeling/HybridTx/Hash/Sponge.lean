import HybridTx.Hash.Keccak

/-! Sponges over the Keccak permutation: Keccak-256 of a whole message, a hasher that takes a
message in parts, and the extendable output of SHAKE128 and SHAKE256. -/

namespace HybridTx.Keccak

/-- What tells one sponge from another: the bytes absorbed between permutations, and the bits that
close the message. -/
structure Sponge where
  rate : Nat
  closing : UInt8
  rate_pos : 0 < rate

/-- Keccak-256 closes a message with a single bit. -/
def keccakSponge : Sponge := ⟨136, 0x01, by decide⟩

/-- SHAKE128. -/
def shake128Sponge : Sponge := ⟨168, 0x1f, by decide⟩

/-- SHAKE256. -/
def shake256Sponge : Sponge := ⟨136, 0x1f, by decide⟩

namespace Sponge

/-- Adds a block to the state and permutes. -/
def absorbBlock (state : State) (block : Bytes) : State := (state.xor (State.ofBytes block)).permute

/-- Fills the last part of a message up to a block: the closing bits, zeros, and a last bit. -/
def pad (sponge : Sponge) (tail : Bytes) : Bytes :=
  if tail.length + 1 < sponge.rate then
    tail ++ sponge.closing :: List.replicate (sponge.rate - tail.length - 2) 0 ++ [0x80]
  else tail ++ [sponge.closing ||| 0x80]

/-- Absorbs every whole block of a message and returns the state with the bytes left over. -/
def absorbBlocks (sponge : Sponge) (state : State) (message : Bytes) : State × Bytes :=
  let block := message.take sponge.rate
  if _h : block.length < sponge.rate then (state, message)
  else absorbBlocks sponge (absorbBlock state block) (message.drop sponge.rate)
termination_by message.length
decreasing_by
  have := sponge.rate_pos
  simp only [List.length_drop]
  simp only [block, List.length_take] at _h
  omega

/-- Absorbs a whole message and closes it. -/
def absorb (sponge : Sponge) (message : Bytes) : State :=
  let (state, tail) := sponge.absorbBlocks .zero message
  absorbBlock state (sponge.pad tail)

/-- The output that a state gives before it is permuted again. -/
def outputBlock (sponge : Sponge) (state : State) : Bytes := state.toBytes.take sponge.rate

/-- The first `blocks` blocks of output. -/
def squeeze (sponge : Sponge) : (blocks : Nat) → State → Bytes
  | 0, _ => []
  | blocks + 1, state => sponge.outputBlock state ++ sponge.squeeze blocks state.permute

/-- The first `count` bytes of output for a message. -/
def output (sponge : Sponge) (count : Nat) (message : Bytes) : Bytes :=
  (sponge.squeeze ((count + sponge.rate - 1) / sponge.rate) (sponge.absorb message)).take count

end Sponge

/-- The Keccak-256 digest that a closed sponge holds. -/
def digestOf (state : State) : FixedBytes 32 := ⟨state.toBytes.take 32, by simp⟩

/-- The Keccak-256 digest of a message. -/
def keccak256 (message : Bytes) : FixedBytes 32 := digestOf (keccakSponge.absorb message)

/-- A Keccak-256 hasher in the middle of a message: the state after the whole blocks so far, and
the bytes that do not fill a block yet. -/
structure Hasher where
  state : State
  pending : Bytes

namespace Hasher

/-- Before the first byte. -/
def start : Hasher := ⟨.zero, []⟩

/-- Takes in the next part of the message. -/
def update (hasher : Hasher) (part : Bytes) : Hasher :=
  let (state, pending) := keccakSponge.absorbBlocks hasher.state (hasher.pending ++ part)
  ⟨state, pending⟩

/-- Closes the message. -/
def finish (hasher : Hasher) : FixedBytes 32 :=
  digestOf (Sponge.absorbBlock hasher.state (keccakSponge.pad hasher.pending))

end Hasher

end HybridTx.Keccak
