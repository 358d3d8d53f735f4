import HybridTx.Proofs.Bytes.Digits
import HybridTx.Proofs.Hash.Words
import HybridTx.Proofs.Secp256k1.Multiples
import HybridTx.Secp256k1.Key

/-! What signing and recovering come to, by way of the multiples of points that they take. -/

namespace HybridTx

namespace Secp256k1

/-- A signature is told by the point that its secret number gives. -/
theorem signWithNonce?_of_mul {secret nonce digest x y : Nat}
    (hpoint : Point.mul nonce generator = .affine x y) :
    signWithNonce? secret nonce digest =
      let r := x % groupOrder
      let s := inverse groupOrder nonce * (digest + r * secret) % groupOrder
      if r = 0 ∨ s = 0 then none
      else if isHigh s then some ⟨if y % 2 == 1 then 0 else 1, r, groupOrder - s⟩
      else some ⟨if y % 2 == 1 then 1 else 0, r, s⟩ := by
  rw [signWithNonce?, hpoint]

/-- The definition as an equation of functions: it is told apart without a look at the secret
number, which no rewriting should try to compute. -/
theorem SecretKey.sign_eq : SecretKey.sign = fun key hash =>
    let signature? := do
      let nonce ← nonce? key.toBytes.bytes hash.bytes
      signWithNonce? key.scalar nonce hash.toNat
    match signature? with
    | some signature => .ok signature
    | none => .error (.signingFailed outOfRange) := by
  delta SecretKey.sign
  rfl

theorem SecretKey.sign_of_nonce {key : SecretKey} {hash : TxHash} {nonce : Nat}
    {signature : EcdsaSignature} (hnonce : nonce? key.toBytes.bytes hash.bytes = some nonce)
    (hsignature : signWithNonce? key.scalar nonce hash.toNat = some signature) :
    key.sign hash = .ok signature := by
  rw [sign_eq]
  simp only [hnonce, Option.bind_eq_bind, Option.bind_some, hsignature]

theorem recoverPoint?_of_mul {digest r s : Nat} {odd : Bool} {point p q key : Point}
    (hlift : lift? r odd = some point)
    (hgenerator : Point.mul
      (subMod groupOrder 0 (inverse groupOrder r * digest % groupOrder)) generator = p)
    (hpoint : Point.mul (inverse groupOrder r * s % groupOrder) point = q)
    (hsum : p.add q = key) (hkey : key ≠ .infinity) : recoverPoint? digest r s odd = some key := by
  rw [recoverPoint?, hlift]
  simp only [Option.bind_eq_bind, Option.bind_some, hgenerator, hpoint, hsum]

/-- An account is recovered from the signatures with a parity bit, components in range and a small
`s`, and it is that of the recovered key. -/
theorem recoverAddress_eq_some_iff {hash : TxHash} {signature : EcdsaSignature}
    {address : Address} :
    recoverAddress hash signature = some address ↔
      signature.yParity ≤ 1 ∧ (0 < signature.r ∧ signature.r < groupOrder) ∧
        (0 < signature.s ∧ signature.s < groupOrder) ∧ isHigh signature.s = false ∧
        ∃ key, recoverPoint? hash.toNat signature.r signature.s (signature.yParity == 1) =
          some key ∧ key.address = address := by
  simp only [recoverAddress, Option.bind_eq_bind, Option.bind_none, Option.ite_none_left_eq_some,
    Option.bind_eq_some_iff, FixedBytes.ofNat?_eq_some_iff, Option.some.injEq, not_or]
  constructor
  · rintro ⟨hparity, r, hr, s, hs, ⟨hr0, hrlt, hs0, hslt⟩, hlow, key, hkey, haddress⟩
    rw [hr] at hr0 hrlt hkey
    rw [hs] at hs0 hslt hlow hkey
    exact ⟨UInt8.not_lt.mp hparity, ⟨Nat.pos_of_ne_zero hr0, not_le.mp hrlt⟩,
      ⟨Nat.pos_of_ne_zero hs0, not_le.mp hslt⟩, by simpa using hlow, key, hkey, haddress⟩
  · rintro ⟨hparity, ⟨hr0, hrlt⟩, ⟨hs0, hslt⟩, hlow, key, hkey, haddress⟩
    have hwidth : groupOrder ≤ 2 ^ (8 * 32) := by decide
    have hr := FixedBytes.toNat_ofNat (lt_of_lt_of_le hrlt hwidth)
    have hs := FixedBytes.toNat_ofNat (lt_of_lt_of_le hslt hwidth)
    refine ⟨UInt8.not_lt.mpr hparity, _, hr, _, hs, ?_⟩
    rw [hr, hs]
    exact ⟨⟨hr0.ne', not_le.mpr hrlt, hs0.ne', not_le.mpr hslt⟩, by simp [hlow], key, hkey,
      haddress⟩

theorem signer_apply {σ : Type} (key : SecretKey) (hash : TxHash) (state : σ) :
    (signer (StateM σ)).sign key hash state =
      ((key.sign hash).mapError KeyError.toSignerError, state) := rfl

theorem verifier_apply {σ : Type} (hash : TxHash) (signature : EcdsaSignature) (state : σ) :
    (verifier (StateM σ)).recover hash signature state =
      (.ok (recoverAddress hash signature), state) := rfl

/-- `NonceState.stir`, by way of numbers. -/
def NonceState.stirNumbers (state : NonceState) (separator : UInt8) (extra : Bytes) : NonceState :=
  let key := Sha256.hmacNumbers state.key (state.output ++ separator :: extra)
  ⟨key, Sha256.hmacNumbers key state.output⟩

/-- The first number that is drawn for a key and a digest. -/
def firstDrawn (secret digest : Bytes) : Nat :=
  let seed := secret ++ digest
  let start := (NonceState.mk (.replicate 32 0) (.replicate 32 1)).stirNumbers 0 seed
  let state := start.stirNumbers 1 seed
  (Sha256.hmacNumbers state.key state.output).toNat

theorem nonce?_of_firstDrawn {secret digest : Bytes} {nonce : Nat}
    (hdrawn : firstDrawn secret digest = nonce) (hrange : 0 < nonce ∧ nonce < groupOrder) :
    nonce? secret digest = some nonce := by
  have hstir : NonceState.stir = NonceState.stirNumbers := by
    funext state separator extra
    rw [NonceState.stir, NonceState.stirNumbers, Sha256.hmac_eq]
  have hfirst : (Sha256.hmac (NonceState.start secret digest).key
      (NonceState.start secret digest).output).toNat = nonce := by
    rw [← hdrawn, firstDrawn, NonceState.start, hstir, Sha256.hmac_eq]
  rw [nonce?, nonceAttempts, NonceState.draw?, hfirst]
  exact if_pos hrange

/-- The key with the number one. -/
def unitKey : SecretKey := ⟨1, by decide, by decide⟩

/-- The hash of an empty transaction with the standard fees. -/
def sampleHash : TxHash :=
  ⟨.ofNat 32 0x785f09c0d301244e21d3c11bed7ef884bafca8cefca1d7903bf2899e10535dc5⟩

/-- What the key signs it with. -/
def sampleSignature : EcdsaSignature where
  yParity := 1
  r := 101433979453707654657673974078745306680754681645580842907253973948766910242684
  s := 36993865132193210259046804824974507470156407228227506877082145798373485008720

theorem sign_sampleHash : unitKey.sign sampleHash = .ok sampleSignature := by
  have hpoint : Point.mul
      12743297490306706331003614453329054062661112479584798137530834192731075686783
      generator = .affine
      101433979453707654657673974078745306680754681645580842907253973948766910242684
      43666621727021017459647674011250086418552151415770793739444725813667882435458 :=
    Point.mul_eq_of_isMultiple (by decide) (by decide) (by decide +kernel)
  exact SecretKey.sign_of_nonce (nonce?_of_firstDrawn (by decide +kernel) (by decide))
    ((signWithNonce?_of_mul hpoint).trans (by decide +kernel))

theorem recover_sampleHash :
    recoverAddress sampleHash sampleSignature = some unitKey.address := by
  have hgenerator : Point.mul
      (subMod groupOrder 0 (inverse groupOrder sampleSignature.r * sampleHash.toNat % groupOrder))
      generator = .affine
        13415533072834441197133145222640666547411869828571166790110694885946916691318
        21906516964859800524071552877595656041468448900054921159880169716351493064804 :=
    Point.mul_eq_of_isMultiple (by decide) (by decide) (by decide +kernel)
  have hpoint : Point.mul (inverse groupOrder sampleSignature.r * sampleSignature.s % groupOrder)
      (.affine sampleSignature.r
        72125467510295177963923310997437821434717833249869770300012858194240952236205) = .affine
        11369930978259641655468457706458424002729159671515247513434274634551994915941
        21441266005651878001649407489902771467081976544621666594642242621855369818917 :=
    Point.mul_eq_of_isMultiple (by decide) (by decide) (by decide +kernel)
  have hkey : recoverPoint? sampleHash.toNat sampleSignature.r sampleSignature.s true =
      some generator :=
    recoverPoint?_of_mul (by decide +kernel) hgenerator hpoint (by decide +kernel) nofun
  exact recoverAddress_eq_some_iff.mpr
    ⟨by decide, by decide, by decide, by decide +kernel, generator, hkey, rfl⟩

end Secp256k1

end HybridTx
