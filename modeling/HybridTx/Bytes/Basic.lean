/-! Byte strings, byte strings of a fixed length, and the big-endian reading of both as natural
numbers. -/

namespace HybridTx

-- The power of a number is the core library's, also where a module imports another one's.
attribute [default_instance 20000, instance (high)] instPowNat

/-- A byte string. -/
abbrev Bytes := List UInt8

/-- The number of binary digits of `n`; zero has none. -/
def bitLength (n : Nat) : Nat := if n = 0 then 0 else n.log2 + 1

namespace Bytes

/-- The big-endian value of a byte string. Leading zeros do not change it. -/
def toNat (bytes : Bytes) : Nat := bytes.foldl (fun value byte => value * 256 + byte.toNat) 0

/-- The last `width` big-endian bytes of a number. -/
def bigEndian : (width : Nat) → Nat → Bytes
  | 0, _ => []
  | width + 1, value => bigEndian width (value / 256) ++ [UInt8.ofNat value]

/-- The big-endian bytes of a number without leading zeros; zero has no bytes. -/
def ofNat (value : Nat) : Bytes := bigEndian ((bitLength value + 7) / 8) value

/-- The last `width` bytes of a number, least significant first. -/
def littleEndian : (width : Nat) → Nat → Bytes
  | 0, _ => []
  | width + 1, value => UInt8.ofNat value :: littleEndian width (value / 256)

/-- The little-endian value of a byte string. -/
def littleToNat (bytes : Bytes) : Nat := bytes.foldr (fun byte value => byte.toNat + value * 256) 0

@[simp] theorem length_bigEndian (width value : Nat) : (bigEndian width value).length = width := by
  induction width generalizing value with
  | zero => rfl
  | succ width ih => simp [bigEndian, ih]

@[simp] theorem length_littleEndian (width value : Nat) :
    (littleEndian width value).length = width := by
  induction width generalizing value with
  | zero => rfl
  | succ width ih => simp [littleEndian, ih]

@[simp] theorem toNat_nil : toNat [] = 0 := rfl

theorem toNat_append_singleton (bytes : Bytes) (byte : UInt8) :
    toNat (bytes ++ [byte]) = toNat bytes * 256 + byte.toNat := by
  simp [toNat, List.foldl_append]

end Bytes

/-- A byte string of exactly `size` bytes. -/
structure FixedBytes (size : Nat) where
  bytes : Bytes
  length_eq : bytes.length = size
deriving DecidableEq

namespace FixedBytes

/-- Refuses a byte string of any other length. -/
def ofBytes? (size : Nat) (bytes : Bytes) : Option (FixedBytes size) :=
  if h : bytes.length = size then some ⟨bytes, h⟩ else none

/-- All bytes zero. -/
def zero (size : Nat) : FixedBytes size := ⟨List.replicate size 0, List.length_replicate⟩

/-- Fills up with zeros on the left; refuses a byte string that is too long. -/
def leftPad? (size : Nat) (bytes : Bytes) : Option (FixedBytes size) :=
  if h : bytes.length ≤ size then
    some ⟨List.replicate (size - bytes.length) 0 ++ bytes, by simp; omega⟩
  else none

/-- The big-endian form of a number, if it fits. -/
def ofNat? (size value : Nat) : Option (FixedBytes size) := leftPad? size (Bytes.ofNat value)

/-- The last `size` big-endian bytes of a number. -/
def ofNat (size value : Nat) : FixedBytes size :=
  ⟨Bytes.bigEndian size value, Bytes.length_bigEndian size value⟩

/-- The big-endian value. -/
def toNat {size : Nat} (block : FixedBytes size) : Nat := block.bytes.toNat

end FixedBytes

end HybridTx
