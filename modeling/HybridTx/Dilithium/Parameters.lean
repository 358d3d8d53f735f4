import HybridTx.Bytes.Basic

/-! The three security levels of the lattice signature, and the sizes that follow from them. -/

namespace HybridTx.Dilithium

/-- Coefficients are residues modulo this prime. -/
def modulus : Nat := 8380417

/-- The number of coefficients of a polynomial. -/
def degree : Nat := 256

/-- The low bits of the public vector that only the secret key holds. -/
def droppedBits : Nat := 13

/-- What tells one security level from another. -/
structure Parameters where
  /-- Polynomials in the public vector. -/
  rows : Nat
  /-- Polynomials in the secret vector. -/
  columns : Nat
  /-- Bound of the secret coefficients. -/
  eta : Nat
  /-- Bits of a packed secret coefficient. -/
  etaBits : Nat
  /-- Nonzero coefficients of a challenge. -/
  weight : Nat
  /-- Bits of a packed mask coefficient; masks lie within `2 ^ (maskBits - 1)`. -/
  maskBits : Nat
  /-- Half the width of a rounding step. -/
  step : Nat
  /-- Bits of a packed high part. -/
  highBits : Nat
  /-- Most hints of a signature. -/
  maxHints : Nat
  /-- Bytes of a challenge digest. -/
  challengeBytes : Nat
deriving DecidableEq

/-- Security level 2. -/
def level2 : Parameters := ⟨4, 4, 2, 3, 39, 18, (modulus - 1) / 88, 6, 80, 32⟩

/-- Security level 3. -/
def level3 : Parameters := ⟨6, 5, 4, 4, 49, 20, (modulus - 1) / 32, 4, 55, 48⟩

/-- Security level 5. -/
def level5 : Parameters := ⟨8, 7, 2, 3, 60, 20, (modulus - 1) / 32, 4, 75, 64⟩

namespace Parameters

variable (p : Parameters)

/-- Bound of the mask coefficients. -/
def mask : Nat := 2 ^ (p.maskBits - 1)

/-- Bound of a coefficient of a challenge times a secret. -/
def slack : Nat := p.weight * p.eta

/-- Bytes of a polynomial packed with `bits` bits a coefficient. -/
def packedSize (bits : Nat) : Nat := degree / 8 * bits

/-- Bytes of a public key: a seed and the high bits of the public vector. -/
def publicKeySize : Nat := 32 + p.rows * packedSize (23 - droppedBits)

/-- Bytes of a secret key: two seeds, the digest of the public key, both secret vectors, and the low
bits of the public vector. -/
def secretKeySize : Nat :=
  128 + (p.columns + p.rows) * packedSize p.etaBits + p.rows * packedSize droppedBits

/-- Bytes of a signature: the challenge digest, the response, the places of the hints and their
counts. -/
def signatureSize : Nat :=
  p.challengeBytes + p.columns * packedSize p.maskBits + p.maxHints + p.rows

end Parameters

end HybridTx.Dilithium
