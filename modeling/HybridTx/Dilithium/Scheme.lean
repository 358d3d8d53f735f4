import HybridTx.Dilithium.Rounding
import HybridTx.Dilithium.Sampling

/-! Keys, signatures and their check. A key pair follows from a seed, and a signature from the
secret key and the message: no randomness enters signing. -/

namespace HybridTx.Dilithium

open Keccak

/-- The secret key, taken apart. The vectors are transformed. -/
structure SecretParts where
  matrix : List (List Poly)
  maskSeed : Bytes
  publicDigest : Bytes
  s1 : List Poly
  s2 : List Poly
  t0 : List Poly

/-- Takes a secret key apart. -/
def SecretParts.ofBytes (p : Parameters) (secret : Bytes) : SecretParts :=
  let small := unpackVector p.etaBits (p.columns + p.rows) (unpackBelow p.etaBits p.eta)
    (secret.drop 128)
  let low := unpackVector droppedBits p.rows
    (unpackBelow droppedBits (2 ^ (droppedBits - 1)))
    (secret.drop (128 + (p.columns + p.rows) * Parameters.packedSize p.etaBits))
  { matrix := expandMatrix p (secret.take 32)
    maskSeed := (secret.drop 32).take 32
    publicDigest := (secret.drop 64).take 64
    s1 := (small.take p.columns).map Poly.transform
    s2 := (small.drop p.columns).map Poly.transform
    t0 := low.map Poly.transform }

/-- The public key with the high bits `t1`. -/
def packPublic (seed : Bytes) (t1 : List Poly) : Bytes :=
  seed ++ t1.flatMap (packValues (23 - droppedBits))

/-- The public and the secret key for a seed of 32 bytes. -/
def keypair (p : Parameters) (seed : Bytes) : Bytes × Bytes :=
  let expanded := shake256Sponge.output 128 seed
  let matrixSeed := expanded.take 32
  let secretSeed := (expanded.drop 32).take 64
  let maskSeed := expanded.drop 96
  let s1 := (List.range p.columns).map (sampleSmall p.eta secretSeed)
  let s2 := (List.range p.rows).map fun i => sampleSmall p.eta secretSeed (p.columns + i)
  let s1Transformed := s1.map Poly.transform
  let t := List.zipWith (fun row s => (dot row s1Transformed).untransform.add s)
    (expandMatrix p matrixSeed) s2
  let split := t.map (·.map splitDropped)
  let publicKey := packPublic matrixSeed (split.map (·.map Prod.fst))
  let secretKey := matrixSeed ++ maskSeed ++ shake256Sponge.output 64 publicKey
    ++ (s1 ++ s2).flatMap (packBelow p.etaBits p.eta)
    ++ split.flatMap fun a => packBelow droppedBits (2 ^ (droppedBits - 1)) (a.map Prod.snd)
  (publicKey, secretKey)

/-- The digest that binds a message to a public key. -/
def messageDigest (publicDigest message : Bytes) : Bytes :=
  shake256Sponge.output 64 (publicDigest ++ message)

/-- The challenge digest for a message and the high parts of a commitment. -/
def challengeDigest (p : Parameters) (digest : Bytes) (high : List (List Nat)) : Bytes :=
  shake256Sponge.output p.challengeBytes (digest ++ high.flatMap (packValues p.highBits))

/-- Tries the mask with a given number. A response, or low parts, that would tell about the secret
are refused, and so are too many hints. -/
def attempt (p : Parameters) (key : SecretParts) (digest maskSeed : Bytes) (number : Nat) :
    Option Bytes :=
  let y := (List.range p.columns).map fun i => sampleMask p maskSeed (p.columns * number + i)
  let yTransformed := y.map Poly.transform
  let commitment := key.matrix.map fun row =>
    ((dot row yTransformed).untransform).map (splitStep p)
  let high := commitment.map (·.map Prod.fst)
  let low := commitment.map (·.map Prod.snd)
  let challenge := challengeDigest p digest high
  let c := (sampleChallenge p challenge).transform
  let times (a : Poly) : Poly := (c.pointwise a).untransform
  let z := List.zipWith (fun mask s => mask.add (times s)) y key.s1
  if !z.all (Poly.within (p.mask - p.slack)) then none
  else
    let r := List.zipWith (fun a s => Poly.sub a (times s)) low key.s2
    if !r.all (Poly.within (p.step - p.slack)) then none
    else
      let ct0 := key.t0.map times
      if !ct0.all (Poly.within p.step) then none
      else
        let hints := List.zipWith (List.zipWith (needsHint p))
          (List.zipWith Poly.add r ct0) high
        if hints.flatten.count true > p.maxHints then none
        else
          some (challenge ++ z.flatMap (packBelow p.maskBits p.mask) ++ packHints p hints)

/-- The first signature among `attempts` masks from `number` on. -/
def search (p : Parameters) (key : SecretParts) (digest maskSeed : Bytes) :
    (attempts number : Nat) → Option Bytes
  | 0, _ => none
  | attempts + 1, number =>
    match attempt p key digest maskSeed number with
    | some signature => some signature
    | none => search p key digest maskSeed attempts (number + 1)

/-- How many masks there are. They are numbered in 16 bits, so higher numbers give the same ones. -/
def maskCount : Nat := 2 ^ 16

/-- The signature over a message by a secret key of the right size, from the first mask that gives
one. There is none where every mask is refused, and trying masks would never end. -/
def sign? (p : Parameters) (secret message : Bytes) : Option Bytes :=
  let key := SecretParts.ofBytes p secret
  let digest := messageDigest key.publicDigest message
  let maskSeed := shake256Sponge.output 64 (key.maskSeed ++ List.replicate 32 0 ++ digest)
  search p key digest maskSeed maskCount 0

/-- Checks the parts of a signature: the commitment that the response gives back leads to the same
challenge. A response fits its packed form, and no tighter bound is asked of it. -/
def verifyParts (p : Parameters) (publicKey message challenge : Bytes) (z : List Poly)
    (hints : List (List Bool)) : Bool :=
  let t1 := unpackVector (23 - droppedBits) p.rows (unpackValues (23 - droppedBits))
    (publicKey.drop 32)
  let digest := messageDigest (shake256Sponge.output 64 publicKey) message
  let c := (sampleChallenge p challenge).transform
  let zTransformed := z.map Poly.transform
  let commitment := List.zipWith
    (fun row t => ((dot row zTransformed).sub
      (c.pointwise (t.scale (2 ^ droppedBits)).transform)).untransform)
    (expandMatrix p (publicKey.take 32)) t1
  let high := List.zipWith (List.zipWith (applyHint p)) hints commitment
  challengeDigest p digest high == challenge

/-- The signature is one over the message by the owner of the public key. Keys and signatures of a
wrong size never verify. -/
def verify (p : Parameters) (publicKey message signature : Bytes) : Bool :=
  if publicKey.length ≠ p.publicKeySize ∨ signature.length ≠ p.signatureSize then false
  else
    let challenge := signature.take p.challengeBytes
    let rest := signature.drop p.challengeBytes
    let size := p.columns * Parameters.packedSize p.maskBits
    match unpackHints p (rest.drop size) with
    | none => false
    | some hints =>
      let z := unpackVector p.maskBits p.columns (unpackBelow p.maskBits p.mask) rest
      verifyParts p publicKey message challenge z hints

end HybridTx.Dilithium
