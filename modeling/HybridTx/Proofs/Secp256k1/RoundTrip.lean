import HybridTx.Proofs.Secp256k1.Canonical
import HybridTx.Proofs.Secp256k1.Group
import HybridTx.Proofs.Transaction.Wire
import Mathlib.FieldTheory.Finite.Basic

/-! The account that is recovered from a signature is that of the key that made it. The point whose
x is the first component is found again from its parity, or its opposite where the second component
was replaced, and undoing the signing gives the multiple of the generator that the key is. Nothing
is lost of the components on the way through bytes, however short they are. -/

namespace HybridTx.Secp256k1

section Lift

variable {x y root value : Nat} {P : curve.Point}

theorem parity_neg (hy : y < fieldPrime) :
    ((fieldPrime - y) % 2 == 1) = !(y % 2 == 1) := by
  have hodd : fieldPrime % 2 = 1 := by decide
  have hparity : (fieldPrime - y) % 2 = 1 - y % 2 := by omega
  rw [hparity]
  obtain h | h := Nat.mod_two_eq_zero_or_one y <;> rw [h] <;> rfl

theorem subMod_zero (hy0 : y ≠ 0) (hy : y < fieldPrime) :
    subMod fieldPrime 0 y = fieldPrime - y := by
  rw [subMod, Nat.zero_add]
  exact Nat.mod_eq_of_lt (by omega)

/-- The power that is taken for a root is one: one more than the number of field elements is a
multiple of four. -/
theorem powMod_square (hy : (y : ZMod fieldPrime) ≠ 0) (h : (value : ZMod fieldPrime) = y ^ 2) :
    (powMod fieldPrime value ((fieldPrime + 1) / 4) : ZMod fieldPrime) ^ 2 = y ^ 2 := by
  have hexponent : 2 * ((fieldPrime + 1) / 4 * 2) = fieldPrime - 1 + 2 := by decide
  rw [cast_powMod, h, ← pow_mul, ← pow_mul, hexponent, pow_add, ZMod.pow_card_sub_one_eq_one hy,
    one_mul]

theorem eq_or_eq_neg (hroot : root < fieldPrime) (hy0 : y ≠ 0) (hy : y < fieldPrime)
    (h : (root : ZMod fieldPrime) ^ 2 = y ^ 2) : root = y ∨ root = fieldPrime - y := by
  obtain h | h := sq_eq_sq_iff_eq_or_eq_neg.mp h
  · exact .inl (eq_of_cast_eq hroot hy h)
  · refine .inr (eq_of_cast_eq hroot (by omega) ?_)
    rw [h, Nat.cast_sub hy.le, ZMod.natCast_self, zero_sub]

theorem sqrtWithParity?_of_square (hy0 : y ≠ 0) (hy : y < fieldPrime)
    (h : (value : ZMod fieldPrime) = y ^ 2) (odd : Bool) :
    sqrtWithParity? value odd =
      some (if (y % 2 == 1) = odd then y else fieldPrime - y) := by
  have hroot : powMod fieldPrime value ((fieldPrime + 1) / 4) < fieldPrime := powMod_lt (by decide)
  have hsquare := powMod_square (natCast_ne_zero_of_lt hy0 hy) h
  have hchecked : powMod fieldPrime value ((fieldPrime + 1) / 4) *
      powMod fieldPrime value ((fieldPrime + 1) / 4) % fieldPrime = value % fieldPrime := by
    rw [← ZMod.natCast_eq_natCast_iff', Nat.cast_mul, ← pow_two, hsquare, h]
  rw [sqrtWithParity?, if_pos hchecked]
  generalize powMod fieldPrime value ((fieldPrime + 1) / 4) = root at *
  obtain rfl | rfl := eq_or_eq_neg hroot hy0 hy hsquare
  · rw [subMod_zero hy0 hy]
    simp only [beq_iff_eq, apply_ite some]
  · have hback : fieldPrime - (fieldPrime - y) = y := by omega
    rw [subMod_zero (by omega) (by omega), hback, parity_neg hy]
    cases odd <;> cases (y % 2 == 1) <;> rfl

theorem Names.equation {x y : Nat} (hp : Names (.affine x y) P) :
    ((x * x * x + 7 : Nat) : ZMod fieldPrime) = y ^ 2 := by
  cases hp with
  | affine hx hy h =>
    have hequation := (WeierstrassCurve.Affine.equation_iff _ _).mp h.1
    simp only [curve] at hequation
    push_cast
    linear_combination -hequation

/-- The point with a given x is one of the two opposite ones that have it. -/
theorem lift?_of_names (hp : Names (.affine x y) P) (hy0 : y ≠ 0) (odd : Bool) :
    ∃ point, lift? x odd = some point ∧ Names point (if (y % 2 == 1) = odd then P else -P) := by
  have hy : y < fieldPrime := by
    cases hp
    assumption
  refine ⟨_, by rw [lift?, sqrtWithParity?_of_square hy0 hy hp.equation, Option.map_some], ?_⟩
  split
  · exact hp
  · exact hp.neg hy0

end Lift

section Multiples

variable {x y a : Nat} {p : Point}

theorem nsmul_base_eq_zero_iff : a • base = 0 ↔ (a : ZMod groupOrder) = 0 := by
  have h := @nsmul_base_eq_iff a 0
  rwa [zero_nsmul, Nat.cast_zero] at h

theorem neg_nsmul_base (a : Nat) : -(a • base) = ((groupOrder - 1) * a) • base := by
  have hsplit : a + (groupOrder - 1) * a = a * groupOrder := by
    rw [Nat.sub_mul, Nat.one_mul, Nat.add_sub_cancel' (Nat.le_mul_of_pos_left a (by decide)),
      mul_comm]
  have hsum : a • base + ((groupOrder - 1) * a) • base = 0 := by
    rw [← add_nsmul, hsplit, nsmul_base_eq_zero_iff, Nat.cast_mul, ZMod.natCast_self, mul_zero]
  exact neg_eq_of_add_eq_zero_right hsum

/-- The generator has odd order, so no multiple of it is its own opposite. -/
theorem y_ne_zero (hp : Names (.affine x y) (a • base)) : y ≠ 0 := by
  rintro rfl
  have hdouble : Names .infinity (a • base + a • base) := hp.double
  have hzero : (2 * a) • base = 0 := by
    rw [two_mul, add_nsmul]
    exact hdouble.eq .infinity
  have htwo : ((2 : Nat) : ZMod groupOrder) ≠ 0 := natCast_ne_zero_of_lt (by decide) (by decide)
  rw [nsmul_base_eq_zero_iff, Nat.cast_mul, mul_eq_zero] at hzero
  have ha : a • base = 0 := nsmul_base_eq_zero_iff.mpr (hzero.resolve_left htwo)
  rw [ha] at hp
  cases hp

theorem ne_zero_of_names (hp : Names (.affine x y) (a • base)) : (a : ZMod groupOrder) ≠ 0 := by
  intro h
  rw [nsmul_base_eq_zero_iff.mpr h] at hp
  cases hp

/-- The key that is recovered: what the second component undoes is the signing. -/
theorem recoverPoint?_of_names {digest r s secret m : Nat} {odd : Bool} {point : Point}
    (hlift : lift? r odd = some point) (hpoint : Names point (m • base))
    (hr : (r : ZMod groupOrder) ≠ 0) (hsecret : (secret : ZMod groupOrder) ≠ 0)
    (hs : (s * m : ZMod groupOrder) = digest + r * secret) :
    recoverPoint? digest r s odd = some (Point.mul secret generator) := by
  have hinverse : (inverse groupOrder r : ZMod groupOrder) * r = 1 :=
    cast_inverse_mul (by decide) (IsUnit.mk0 _ hr)
  have hkey := names_generator.mul secret
  have hsum := (names_generator.mul
    (subMod groupOrder 0 (inverse groupOrder r * digest % groupOrder))).add
    (hpoint.mul (inverse groupOrder r * s % groupOrder))
  have hscalars : (subMod groupOrder 0 (inverse groupOrder r * digest % groupOrder)) • base +
      (inverse groupOrder r * s % groupOrder) • m • base = secret • base := by
    rw [← mul_nsmul, ← add_nsmul, nsmul_base_eq_iff]
    have hreduced : inverse groupOrder r * digest % groupOrder ≤ groupOrder :=
      (Nat.mod_lt _ (by decide)).le
    rw [Nat.cast_add, cast_subMod hreduced, Nat.cast_mul, ZMod.natCast_mod, ZMod.natCast_mod]
    push_cast
    linear_combination (inverse groupOrder r : ZMod groupOrder) * hs + secret * hinverse
  rw [hscalars] at hsum
  refine recoverPoint?_of_mul hlift rfl rfl (hsum.unique hkey) fun hinfinity => ?_
  rw [hinfinity] at hkey
  exact hsecret (nsmul_base_eq_zero_iff.mp (hkey.eq .infinity))

end Multiples

section Sign

variable {secret nonce digest x y : Nat} {signature : EcdsaSignature}

/-- What a signature is made of: a point, and a number that is replaced by its opposite when it is
in the larger half. -/
theorem exists_of_signWithNonce? (h : signWithNonce? secret nonce digest = some signature) :
    ∃ x y s, Point.mul nonce generator = .affine x y ∧ x % groupOrder ≠ 0 ∧ s ≠ 0 ∧
      s = inverse groupOrder nonce * (digest + x % groupOrder * secret) % groupOrder ∧
      signature = ⟨((y % 2 == 1) ^^ isHigh s).toUInt8, x % groupOrder,
        if isHigh s then groupOrder - s else s⟩ := by
  rw [signWithNonce?] at h
  split at h
  · cases h
  · next x y hpoint =>
    obtain ⟨s, hs⟩ : ∃ s, s = inverse groupOrder nonce * (digest + x % groupOrder * secret) %
      groupOrder := ⟨_, rfl⟩
    simp only [← hs, Option.ite_none_left_eq_some, not_or] at h
    obtain ⟨⟨hr0, hs0⟩, h⟩ := h
    refine ⟨x, y, s, hpoint, hr0, hs0, hs, ?_⟩
    cases hhigh : isHigh s with
    | false =>
      rw [hhigh] at h
      exact (Option.some.inj h).symm.trans (by rw [Bool.xor_false]; rfl)
    | true =>
      rw [hhigh] at h
      refine (Option.some.inj h).symm.trans ?_
      cases (y % 2 == 1) <;> rfl

theorem signWithNonce?_canonical (h : signWithNonce? secret nonce digest = some signature) :
    signature.yParity ≤ 1 ∧ (0 < signature.r ∧ signature.r < groupOrder) ∧
      (0 < signature.s ∧ signature.s < groupOrder) ∧ isHigh signature.s = false := by
  obtain ⟨x, y, s, -, hr0, hs0, hs, rfl⟩ := exists_of_signWithNonce? h
  have hr : x % groupOrder < groupOrder := Nat.mod_lt _ (by decide)
  have hslt : s < groupOrder := by
    rw [hs]
    exact Nat.mod_lt _ (by decide)
  have hparity : ∀ odd : Bool, odd.toUInt8 ≤ 1 := by decide
  refine ⟨hparity _, ⟨Nat.pos_of_ne_zero hr0, hr⟩, ?_⟩
  cases hhigh : isHigh s with
  | false => exact ⟨⟨Nat.pos_of_ne_zero hs0, hslt⟩, hhigh⟩
  | true =>
    exact ⟨⟨Nat.sub_pos_of_lt hslt, Nat.sub_lt (by decide) (Nat.pos_of_ne_zero hs0)⟩,
      not_isHigh_sub hhigh⟩

/-- The point that is lifted is the one that was signed with, or its opposite where the second
component is. -/
theorem recoverPoint?_of_sign (hpoint : Point.mul nonce generator = .affine x y)
    (hx : x < groupOrder) (hsecret : (secret : ZMod groupOrder) ≠ 0)
    (h : signWithNonce? secret nonce digest = some signature) :
    recoverPoint? digest signature.r signature.s (signature.yParity == 1) =
      some (Point.mul secret generator) := by
  have hnonce := names_generator.mul nonce
  rw [hpoint] at hnonce
  have hinverse : (inverse groupOrder nonce : ZMod groupOrder) * nonce = 1 :=
    cast_inverse_mul (by decide) (IsUnit.mk0 _ (ne_zero_of_names hnonce))
  obtain ⟨x', y', s, hpoint', hr0, -, hs, rfl⟩ := exists_of_signWithNonce? h
  obtain ⟨rfl, rfl⟩ := Point.affine.inj (hpoint.symm.trans hpoint')
  rw [Nat.mod_eq_of_lt hx] at hr0 hs ⊢
  have hr : (x : ZMod groupOrder) ≠ 0 := natCast_ne_zero_of_lt hr0 hx
  have hreduced : s ≤ groupOrder := by
    rw [hs]
    exact (Nat.mod_lt _ (by decide)).le
  have hproduct : (s * nonce : ZMod groupOrder) = digest + x * secret := by
    rw [hs, ZMod.natCast_mod]
    push_cast
    linear_combination (digest + x * secret : ZMod groupOrder) * hinverse
  have hodd : ∀ odd : Bool, (odd.toUInt8 == 1) = odd := by decide
  obtain ⟨point, hlift, hnames⟩ :=
    lift?_of_names hnonce (y_ne_zero hnonce) ((y % 2 == 1) ^^ isHigh s)
  rw [hodd]
  cases hhigh : isHigh s with
  | false =>
    rw [hhigh] at hlift hnames
    rw [Bool.xor_false, if_pos rfl] at hnames
    exact recoverPoint?_of_names hlift hnames hr hsecret hproduct
  | true =>
    rw [hhigh] at hlift hnames
    rw [if_neg (by simp), neg_nsmul_base] at hnames
    refine recoverPoint?_of_names hlift hnames hr hsecret ?_
    simp only [if_true]
    rw [Nat.cast_sub hreduced, Nat.cast_mul, Nat.cast_sub (by decide), ZMod.natCast_self]
    push_cast
    linear_combination hproduct

end Sign

/-- The x of the point that a hash is signed with does not stay as it is in the signature: it is not
below the group order, though it is one of the field. -/
def SecretKey.ReducesX (key : SecretKey) (hash : TxHash) : Prop :=
  ∃ nonce x y, nonce? key.toBytes.bytes hash.bytes = some nonce ∧
    Point.mul nonce generator = .affine x y ∧ groupOrder ≤ x

variable {key : SecretKey} {hash : TxHash} {signature : EcdsaSignature}

theorem exists_nonce_of_sign (h : key.sign hash = .ok signature) :
    ∃ nonce, nonce? key.toBytes.bytes hash.bytes = some nonce ∧
      signWithNonce? key.scalar nonce hash.toNat = some signature := by
  cases hnonce : nonce? key.toBytes.bytes hash.bytes with
  | none =>
    have hfault : key.sign hash = .error (.signingFailed outOfRange) := by
      rw [SecretKey.sign_eq]
      simp only [hnonce, Option.bind_eq_bind, Option.bind_none]
    cases hfault.symm.trans h
  | some nonce =>
    cases hmade : signWithNonce? key.scalar nonce hash.toNat with
    | none =>
      have hfault : key.sign hash = .error (.signingFailed outOfRange) := by
        rw [SecretKey.sign_eq]
        simp only [hnonce, Option.bind_eq_bind, Option.bind_some, hmade]
      cases hfault.symm.trans h
    | some made =>
      have hsigned := SecretKey.sign_of_nonce hnonce hmade
      exact ⟨nonce, rfl, hmade.trans (congrArg some (Except.ok.inj (hsigned.symm.trans h)))⟩

theorem wellFormed_of_sign (h : key.sign hash = .ok signature) : signature.WellFormed := by
  obtain ⟨nonce, -, hsignature⟩ := exists_nonce_of_sign h
  obtain ⟨hparity, ⟨-, hr⟩, ⟨-, hs⟩, -⟩ := signWithNonce?_canonical hsignature
  exact wellFormed_of_lt hparity hr hs

theorem recover_of_sign (h : key.sign hash = .ok signature) (hreduced : ¬key.ReducesX hash) :
    recoverAddress hash signature = some key.address := by
  obtain ⟨nonce, hnonce, hsignature⟩ := exists_nonce_of_sign h
  obtain ⟨hparity, hr, hs, hlow⟩ := signWithNonce?_canonical hsignature
  obtain ⟨x, y, -, hpoint, -⟩ := exists_of_signWithNonce? hsignature
  have hx : x < groupOrder :=
    Nat.lt_of_not_le fun hle => hreduced ⟨nonce, x, y, hnonce, hpoint, hle⟩
  have hsecret := natCast_ne_zero_of_lt key.pos.ne' key.lt
  exact recoverAddress_eq_some_iff.mpr ⟨hparity, hr, hs, hlow, _,
    recoverPoint?_of_sign hpoint hx hsecret hsignature, rfl⟩

/-- Signatures are well formed and name the key that made them, and still do when they were written
and read with any transaction, unless the x of their point was reduced. Their components pass
through 32 bytes, whatever zeros these start with, and larger numbers do not. -/
theorem signer_is_recovered (h : key.sign hash = .ok signature) :
    signature.WellFormed ∧
    (¬key.ReducesX hash →
      recoverAddress hash signature = some key.address ∧
      ∀ tx pqSignature pqPublicKey,
        let signed : SignedTransaction := ⟨tx, signature, pqSignature, pqPublicKey⟩
        signed.encode.length < Rlp.lengthBound →
          ∃ read, SignedTransaction.decode signed.encode = .ok read ∧
            recoverAddress hash read.signature = some key.address) ∧
    (∀ block : FixedBytes 32, FixedBytes.ofNat? 32 block.toNat = some block) ∧
    ∀ value, FixedBytes.ofNat? 32 value = none ↔ 2 ^ 256 ≤ value := by
  have hshape := wellFormed_of_sign h
  refine ⟨hshape, fun hreduced => ?_, fun block => FixedBytes.ofNat?_eq_some_iff.mpr rfl,
    fun value => FixedBytes.ofNat?_eq_none_iff⟩
  have hrecovered := recover_of_sign h hreduced
  refine ⟨hrecovered, ?_⟩
  intro tx pqSignature pqPublicKey signed hlength
  exact ⟨signed, SignedTransaction.decode_encode hshape hlength, hrecovered⟩

/-- A hash that is signed with short components. -/
def shortHash : TxHash := ⟨.ofNat 32 77166⟩

/-- A signature whose components both start with a byte of zeros. -/
def shortSignature : EcdsaSignature where
  yParity := 1
  r := 310625115474381939214217189436510230177820254971077068080981727374692116267
  s := 303351189350544174835856614658643725689710673160449951368445136578820047770

def shortNonce : Nat :=
  82882103364333232683297945768295054122146566628568773915125465577685754699850

theorem nonce_shortHash : nonce? unitKey.toBytes.bytes shortHash.bytes = some shortNonce :=
  nonce?_of_firstDrawn (by decide +kernel) (by decide)

theorem mul_shortNonce : Point.mul shortNonce generator = .affine shortSignature.r
    111555160138967503348565980014277897275226359943818280248288861034151086229817 :=
  Point.mul_eq_of_isMultiple (by decide) (by decide) (by decide +kernel)

/-- The signer is named by short components, and still is when a transaction was read with them. -/
theorem signer_is_recovered_short :
    unitKey.sign shortHash = .ok shortSignature ∧ ¬unitKey.ReducesX shortHash ∧
      shortSignature.r < 2 ^ 248 ∧ shortSignature.s < 2 ^ 248 ∧
      recoverAddress shortHash shortSignature = some unitKey.address ∧
      ∃ read, SignedTransaction.decode (SignedTransaction.mk {} shortSignature [] []).encode =
          .ok read ∧
        recoverAddress shortHash read.signature = some unitKey.address := by
  have hsigned : unitKey.sign shortHash = .ok shortSignature :=
    SecretKey.sign_of_nonce nonce_shortHash
      ((signWithNonce?_of_mul mul_shortNonce).trans (by decide +kernel))
  have hreduced : ¬unitKey.ReducesX shortHash := by
    rintro ⟨nonce, x, y, hnonce, hpoint, hx⟩
    obtain rfl := Option.some.inj (nonce_shortHash.symm.trans hnonce)
    obtain ⟨rfl, -⟩ := Point.affine.inj (mul_shortNonce.symm.trans hpoint)
    exact absurd hx (by decide)
  obtain ⟨-, hrecovered, -⟩ := signer_is_recovered hsigned
  obtain ⟨haddress, hwire⟩ := hrecovered hreduced
  exact ⟨hsigned, hreduced, by decide, by decide, haddress,
    hwire {} [] [] (by decide +kernel)⟩

end HybridTx.Secp256k1
