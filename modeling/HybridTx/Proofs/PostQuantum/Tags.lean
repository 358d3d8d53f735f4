import HybridTx.Proofs.Dilithium.Numbers
import HybridTx.Proofs.PostQuantum.Sizes
import HybridTx.Proofs.Results
import HybridTx.Proofs.Signing.BuiltIn

/-! The tag in front of a post-quantum signature. Three words tell the algorithm of a signature: its
tag, the length of the public key and the length of the body. A verifier accepts only where the
three agree, and a signer writes the tag of the key, whatever keys it makes itself. -/

namespace HybridTx

open Dilithium (Parameters ResponseWithin keypair_eq length_secretKey level2 searchMasks secretKey)

namespace PqAlgorithm

@[simp] theorem ofId_id (algorithm : PqAlgorithm) : ofId algorithm.id = .ok algorithm :=
  ofId_eq_ok.mpr rfl

theorem isLevel_of_parameters? {algorithm : PqAlgorithm} {p : Parameters}
    (h : algorithm.parameters? = some p) : p.IsLevel := by
  cases algorithm <;> cases h
  · exact .inl rfl
  · exact .inr (.inl rfl)
  · exact .inr (.inr rfl)

theorem mem_of_parameters? {algorithm : PqAlgorithm} {p : Parameters}
    (h : algorithm.parameters? = some p) : algorithm ∈ [dilithium2, dilithium3, dilithium5] := by
  cases algorithm <;> first | decide | cases h

end PqAlgorithm

variable {publicKey message : Bytes}

namespace PqSignature

/-- What parses is what was packed, if there is a body. -/
theorem ofBytes_eq_ok {bytes : Bytes} {parsed : PqSignature} :
    ofBytes bytes = .ok parsed ↔ parsed.toBytes = bytes ∧ parsed.body ≠ [] := by
  constructor
  · intro h
    match bytes, h with
    | tag :: first :: rest, h =>
      obtain ⟨algorithm, halgorithm, hparsed⟩ := bind_eq_ok.mp h
      cases hparsed
      rw [PqAlgorithm.ofId_eq_ok] at halgorithm
      exact ⟨by rw [toBytes, halgorithm], List.cons_ne_nil _ _⟩
  · rintro ⟨rfl, hbody⟩
    obtain ⟨algorithm, body⟩ := parsed
    obtain ⟨first, rest, rfl⟩ := List.exists_cons_of_ne_nil hbody
    simp only [toBytes, ofBytes, PqAlgorithm.ofId_id]
    rfl

end PqSignature

/-- What a verifier accepts is the packed form of a signature of a built-in algorithm, whose own
check holds. -/
theorem verifyTagged_eq_ok_true {signature : Bytes} :
    verifyTagged publicKey message signature = .ok true ↔
      ∃ (parsed : PqSignature) (p : Parameters), parsed.toBytes = signature ∧
        parsed.algorithm.parameters? = some p ∧
        Dilithium.verify p publicKey message parsed.body = true := by
  constructor
  · intro h
    cases signature with
    | nil => cases h
    | cons tag body =>
      simp only [verifyTagged] at h
      split at h
      · cases h
      · next algorithm halgorithm =>
        rw [PqAlgorithm.ofId_eq_ok] at halgorithm
        split at h
        · cases h
        · next p hp =>
          refine ⟨⟨algorithm, body⟩, p, ?_, hp, by simpa using h⟩
          rw [PqSignature.toBytes, halgorithm]
  · rintro ⟨⟨algorithm, body⟩, p, rfl, hp, hverify⟩
    simp only [PqSignature.toBytes, verifyTagged, PqAlgorithm.ofId_id, hp, hverify]

/-- What a verifier accepts parses, and its algorithm is the one that the length of the public key
tells. -/
theorem parsed_of_verifyTagged {signature : Bytes}
    (h : verifyTagged publicKey message signature = .ok true) :
    ∃ parsed : PqSignature, PqSignature.ofBytes signature = .ok parsed ∧
      parsed.algorithm ∈ [PqAlgorithm.dilithium2, .dilithium3, .dilithium5] ∧
      PqAlgorithm.ofPublicKey publicKey = .ok parsed.algorithm ∧ parsed.toBytes = signature := by
  obtain ⟨parsed, p, hpacked, hp, hverify⟩ := verifyTagged_eq_ok_true.mp h
  obtain ⟨hkey, hlength⟩ := Dilithium.length_of_verify hverify
  have hbody : parsed.body ≠ [] := by
    rw [← List.length_pos_iff, hlength]
    exact (PqAlgorithm.isLevel_of_parameters? hp).signatureSize_pos
  exact ⟨parsed, PqSignature.ofBytes_eq_ok.mpr ⟨hpacked, hbody⟩,
    PqAlgorithm.mem_of_parameters? hp, PqAlgorithm.ofPublicKey_eq_ok.mpr ⟨p, hp, hkey.symm⟩,
    hpacked⟩

/-- At most one tag in front of a body is accepted. -/
theorem tag_eq_of_verifyTagged {body : Bytes} {tag other : UInt8}
    (htag : verifyTagged publicKey message (tag :: body) = .ok true)
    (hother : verifyTagged publicKey message (other :: body) = .ok true) : tag = other := by
  obtain ⟨first, -, -, hfirst, hpacked⟩ := parsed_of_verifyTagged htag
  obtain ⟨second, -, -, hsecond, hpacked'⟩ := parsed_of_verifyTagged hother
  have halgorithm : first.algorithm = second.algorithm := by
    rw [hfirst] at hsecond
    exact Except.ok.inj hsecond
  calc tag = first.algorithm.id := (List.head_eq_of_cons_eq hpacked).symm
    _ = second.algorithm.id := by rw [halgorithm]
    _ = other := List.head_eq_of_cons_eq hpacked'

namespace PqSecretKey

variable {p : Parameters} {algorithm : PqAlgorithm}

/-- A seed gives a key pair of every algorithm that is built in. -/
theorem generate_eq_ok (hp : algorithm.parameters? = some p) (seed : Bytes) :
    generate algorithm seed =
      .ok (⟨algorithm, p, secretKey p seed, hp, length_secretKey seed⟩,
        Dilithium.publicKey p seed) := by
  have hparameters : algorithm.parameters = .ok p := by
    simp only [PqAlgorithm.parameters, hp]
  have hbytes := ofBytes_bytes ⟨algorithm, p, secretKey p seed, hp, length_secretKey seed⟩
  simp only [generate, hparameters, ok_bind, keypair_eq, hbytes]

/-- A signature is what the search for a mask comes to, behind the tag of the key. -/
theorem sign_eq_ok {secret : PqSecretKey} {signature : PqSignature} :
    secret.sign message = .ok signature ↔ signature.algorithm = secret.algorithm ∧
      signature.body ∈ searchMasks secret.parameters secret.bytes message := by
  obtain ⟨algorithm, body⟩ := signature
  rw [← Dilithium.sign?_eq_searchMasks, Part.mem_coe, Option.mem_def, sign]
  cases Dilithium.sign? secret.parameters secret.bytes message <;> simp [eq_comm]

/-- A key signs unless the search for a mask has no end. -/
theorem sign_eq_error {secret : PqSecretKey} :
    (∃ e, secret.sign message = .error e) ↔
      ¬(searchMasks secret.parameters secret.bytes message).Dom := by
  rw [← Dilithium.sign?_eq_none, sign]
  cases Dilithium.sign? secret.parameters secret.bytes message <;> simp

/-- What the secret key of a pair signs is accepted under the public key. -/
theorem verifyTagged_of_mem_searchMasks (hp : algorithm.parameters? = some p) (seed : Bytes)
    {body : Bytes} (h : body ∈ searchMasks p (secretKey p seed) message) :
    verifyTagged (Dilithium.publicKey p seed) message (algorithm.id :: body) = .ok true ∧
      ResponseWithin p body := by
  obtain ⟨hverify, hwithin⟩ :=
    Dilithium.verify_of_mem_searchMasks seed (PqAlgorithm.isLevel_of_parameters? hp) h
  exact ⟨verifyTagged_eq_ok_true.mpr ⟨⟨algorithm, body⟩, p, rfl, hp, hverify⟩, hwithin⟩

end PqSecretKey

namespace DilithiumSigner

variable (signer : DilithiumSigner) (m : Type → Type) [Monad m] (random : Nat → m Bytes)

/-- What a signer gives is what the key gives, whatever algorithm the signer makes keys of. -/
theorem backend_sign (secret : PqSecretKey) (hash : TxHash) :
    ∃ outcome, (signer.backend m random).sign secret hash = pure outcome ∧
      (∀ bytes, outcome = .ok bytes ↔
        ∃ body ∈ searchMasks secret.parameters secret.bytes hash.bytes,
          secret.algorithm.id :: body = bytes) ∧
      ((∃ e, outcome = .error e) ↔
        ¬(searchMasks secret.parameters secret.bytes hash.bytes).Dom) := by
  refine ⟨_, rfl, fun bytes => ?_, ?_⟩
  · simp only [mapError_eq_ok, map_eq_ok, PqSecretKey.sign_eq_ok]
    constructor
    · rintro ⟨⟨algorithm, body⟩, ⟨rfl, hbody⟩, rfl⟩
      exact ⟨body, hbody, rfl⟩
    · rintro ⟨body, hbody, rfl⟩
      exact ⟨⟨_, body⟩, ⟨rfl, hbody⟩, rfl⟩
  · rw [← PqSecretKey.sign_eq_error]
    generalize PqSecretKey.sign _ _ = made
    cases made <;> simp [Except.map, Except.mapError]

end DilithiumSigner

/-- No algorithm is taken for another. What is accepted has the one tag that goes with the public
key, and what a key pair signs has the tag of the pair and is accepted, whatever algorithm the
signer makes keys of. Signing fails only where the search for a mask has no end. -/
theorem accepted_tag_is_that_of_the_key :
    (∀ publicKey message signature : Bytes, verifyTagged publicKey message signature = .ok true →
      ∃ parsed : PqSignature, PqSignature.ofBytes signature = .ok parsed ∧
        parsed.algorithm ∈ [PqAlgorithm.dilithium2, .dilithium3, .dilithium5] ∧
        PqAlgorithm.ofPublicKey publicKey = .ok parsed.algorithm ∧
        parsed.toBytes = signature) ∧
    (∀ publicKey message body : Bytes,
      {tag | verifyTagged publicKey message (tag :: body) = .ok true}.Subsingleton) ∧
    ∀ (maker : DilithiumSigner) (seed : Bytes), ∃ secret publicKey,
      maker.generate seed = .ok (secret, publicKey) ∧ secret.algorithm = maker.algorithm ∧
        ∀ (signer : DilithiumSigner) (m : Type → Type) [Monad m] (random : Nat → m Bytes)
          (hash : TxHash), ∃ outcome,
          (signer.backend m random).sign secret hash = pure outcome ∧
          (∀ body ∈ searchMasks secret.parameters secret.bytes hash.bytes,
            outcome = .ok (maker.algorithm.id :: body) ∧
              verifyTagged publicKey hash.bytes (maker.algorithm.id :: body) = .ok true ∧
              ResponseWithin secret.parameters body) ∧
          (∀ bytes, outcome = .ok bytes → bytes.head? = some maker.algorithm.id ∧
            verifyTagged publicKey hash.bytes bytes = .ok true) ∧
          ((∃ e, outcome = .error e) ↔
            ¬(searchMasks secret.parameters secret.bytes hash.bytes).Dom) := by
  refine ⟨fun _ _ _ => parsed_of_verifyTagged, fun _ _ _ _ htag _ hother =>
    tag_eq_of_verifyTagged htag hother, fun maker seed => ?_⟩
  refine ⟨_, _, PqSecretKey.generate_eq_ok maker.supported seed, rfl,
    fun signer m _ random hash => ?_⟩
  obtain ⟨outcome, hsign, hok, herror⟩ := signer.backend_sign m random
    ⟨maker.algorithm, maker.parameters, _, maker.supported, length_secretKey seed⟩ hash
  refine ⟨outcome, hsign, fun body hbody => ⟨(hok _).mpr ⟨body, hbody, rfl⟩,
    PqSecretKey.verifyTagged_of_mem_searchMasks maker.supported seed hbody⟩, ?_, herror⟩
  intro bytes hbytes
  obtain ⟨body, hbody, rfl⟩ := (hok bytes).mp hbytes
  exact ⟨rfl, (PqSecretKey.verifyTagged_of_mem_searchMasks maker.supported seed hbody).1⟩

/-- A signer of the third level signs with a key pair of the second. The signature is accepted with
the tag of that level and no other. -/
theorem accepted_tag_is_that_of_the_key_signed :
    let maker : DilithiumSigner := ⟨.dilithium2, level2, rfl⟩
    let hash : TxHash := ⟨List.replicate 32 3, rfl⟩
    ∃ secret publicKey body, maker.generate (List.replicate 32 0) = .ok (secret, publicKey) ∧
      (DilithiumSigner.default.backend Id fun size => List.replicate size 0).sign secret hash =
        .ok (0x01 :: body) ∧
      PqAlgorithm.ofPublicKey publicKey = .ok .dilithium2 ∧
      verifyTagged publicKey hash.bytes (0x01 :: body) = .ok true ∧
      ∀ tag ≠ 0x01, verifyTagged publicKey hash.bytes (tag :: body) ≠ .ok true := by
  intro maker hash
  obtain ⟨hparsed, htags, hpairs⟩ := accepted_tag_is_that_of_the_key
  obtain ⟨secret, publicKey, hpair, -, hsigners⟩ := hpairs maker (List.replicate 32 0)
  obtain ⟨outcome, hsign, hmade, -⟩ :=
    hsigners .default Id (fun size => List.replicate size 0) hash
  have hknown := PqSecretKey.generate_eq_ok maker.supported (List.replicate 32 0)
  obtain ⟨rfl, rfl⟩ := Prod.mk.inj (Except.ok.inj (hpair.symm.trans hknown))
  obtain ⟨body, hbody⟩ := Part.dom_iff_mem.mp Dilithium.searchMasks_dom
  obtain ⟨rfl, haccepted, -⟩ := hmade body hbody
  obtain ⟨parsed, -, -, hkey, hpacked⟩ := hparsed _ _ _ haccepted
  have htag : parsed.algorithm.id = PqAlgorithm.dilithium2.id := List.head_eq_of_cons_eq hpacked
  have halgorithm : parsed.algorithm = .dilithium2 := by
    simpa using congrArg PqAlgorithm.ofId htag
  refine ⟨_, _, body, hpair, hsign, halgorithm ▸ hkey, haccepted, fun tag hother htrue => ?_⟩
  exact hother (htags _ _ _ htrue haccepted)

end HybridTx
