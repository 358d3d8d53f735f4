import HybridTx.Dilithium.Packing
import HybridTx.Hash.Sponge

/-! Polynomials drawn from the output of a sponge. A stream gives as many blocks as a bound allows;
the bounds are far above what any sample takes. -/

namespace HybridTx.Dilithium

open Keccak

/-- Collects the values that `read` finds in the blocks of a stream until there are `wanted`. -/
def collect (sponge : Sponge) (read : Bytes → List Nat) :
    (blocks wanted : Nat) → State → List Nat
  | 0, wanted, _ => List.replicate wanted 0
  | blocks + 1, wanted, state =>
    let found := read (sponge.outputBlock state)
    if found.length ≥ wanted then found.take wanted
    else found ++ collect sponge read blocks (wanted - found.length) state.permute

/-- Most blocks taken from one stream. -/
def streamBlocks : Nat := 64

/-- A seed followed by a 16-bit number, lowest byte first. -/
def seedWith (seed : Bytes) (number : Nat) : Bytes := seed ++ Bytes.littleEndian 2 number

/-- The residues among the 23-bit numbers in groups of three bytes. -/
def readResidues : Bytes → List Nat
  | a :: b :: c :: rest =>
    let value := (a.toNat + b.toNat <<< 8 + c.toNat <<< 16) % 2 ^ 23
    if value < modulus then value :: readResidues rest else readResidues rest
  | _ => []

/-- A uniform polynomial. -/
def sampleUniform (seed : Bytes) (number : Nat) : Poly :=
  collect shake128Sponge readResidues streamBlocks degree
    (shake128Sponge.absorb (seedWith seed number))

/-- The coefficient for four random bits, if they give one. -/
def smallOfNibble? (eta nibble : Nat) : Option Nat :=
  if eta = 2 then if nibble < 15 then some (difference 2 (nibble % 5)) else none
  else if nibble < 9 then some (difference 4 nibble) else none

/-- The coefficients for the halves of each byte, the lower half first. -/
def readSmall (eta : Nat) (bytes : Bytes) : List Nat :=
  bytes.flatMap fun byte =>
    (smallOfNibble? eta (byte.toNat % 16)).toList ++ (smallOfNibble? eta (byte.toNat / 16)).toList

/-- A polynomial with coefficients between `-eta` and `eta`. -/
def sampleSmall (eta : Nat) (seed : Bytes) (number : Nat) : Poly :=
  collect shake256Sponge (readSmall eta) streamBlocks degree
    (shake256Sponge.absorb (seedWith seed number))

/-- A mask: a polynomial with coefficients in `(-mask, mask]`. -/
def sampleMask (p : Parameters) (seed : Bytes) (number : Nat) : Poly :=
  unpackBelow p.maskBits p.mask
    (shake256Sponge.output (Parameters.packedSize p.maskBits) (seedWith seed number))

/-- Places a one of random sign at a random place up to `index`, moves what was there to `index`,
and goes on with the next index. Bytes above `index` are skipped. -/
def placeOnes (index signs : Nat) (a : Poly) : Bytes → Poly
  | [] => a
  | byte :: rest =>
    if index ≥ degree then a
    else
      let place := byte.toNat
      if place > index then placeOnes index signs a rest
      else
        let one := if signs % 2 = 1 then modulus - 1 else 1
        placeOnes (index + 1) (signs / 2) ((a.set index (a.getD place 0)).set place one) rest

/-- A challenge: `weight` coefficients are one or minus one, the others zero. Only the first 32
bytes of the digest are used. -/
def sampleChallenge (p : Parameters) (digest : Bytes) : Poly :=
  let stream := shake256Sponge.output (16 * shake256Sponge.rate) (digest.take 32)
  placeOnes (degree - p.weight) (Bytes.littleToNat (stream.take 8)) Poly.zero (stream.drop 8)

/-- The transformed matrix that a seed stands for. -/
def expandMatrix (p : Parameters) (seed : Bytes) : List (List Poly) :=
  (List.range p.rows).map fun i =>
    (List.range p.columns).map fun j => sampleUniform seed (i * 256 + j)

end HybridTx.Dilithium
