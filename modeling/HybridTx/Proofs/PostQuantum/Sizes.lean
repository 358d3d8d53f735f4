import HybridTx.PostQuantum.Key
import HybridTx.Proofs.Results

/-! The sizes of post-quantum keys. No two algorithms have secret keys of one size, nor public keys
of one size, so the size of a key tells its algorithm. -/

namespace HybridTx

open Dilithium (Parameters)

namespace PqAlgorithm

variable {size : Parameters → Nat} {algorithm : PqAlgorithm}

/-- No two algorithms have parameters of one size. -/
def ToldBy (size : Parameters → Nat) : Prop :=
  ∀ ⦃a b : PqAlgorithm⦄ ⦃p q : Parameters⦄, a.parameters? = some p → b.parameters? = some q →
    size p = size q → a = b

theorem toldBy_publicKeySize : ToldBy Parameters.publicKeySize := by
  intro a b p q ha hb h
  cases a <;> cases ha <;> cases b <;> cases hb <;> first | rfl | exact absurd h (by decide)

theorem toldBy_secretKeySize : ToldBy Parameters.secretKeySize := by
  intro a b p q ha hb h
  cases a <;> cases ha <;> cases b <;> cases hb <;> first | rfl | exact absurd h (by decide)

theorem mem_all (algorithm : PqAlgorithm) : algorithm ∈ all := by
  cases algorithm <;> decide

/-- The first algorithm with a size is the only one. -/
theorem withSize?_eq_some_iff (hsize : ToldBy size) {length : Nat} :
    withSize? size length = some algorithm ↔
      ∃ p, algorithm.parameters? = some p ∧ size p = length := by
  have hfound : ∀ {found}, withSize? size length = some found →
      ∃ p, found.parameters? = some p ∧ size p = length := by
    intro found h
    simpa using List.find?_some h
  refine ⟨hfound, ?_⟩
  rintro ⟨p, hp, hlength⟩
  cases h : withSize? size length with
  | none =>
    have hnone := List.find?_eq_none.mp h algorithm algorithm.mem_all
    simp [hp, hlength] at hnone
  | some found =>
    obtain ⟨q, hq, hlength'⟩ := hfound h
    rw [hsize hq hp (hlength'.trans hlength.symm)]

theorem ofPublicKey_eq_ok {publicKey : Bytes} :
    ofPublicKey publicKey = .ok algorithm ↔
      ∃ p, algorithm.parameters? = some p ∧ p.publicKeySize = publicKey.length := by
  rw [← withSize?_eq_some_iff toldBy_publicKeySize, ofPublicKey]
  cases withSize? Parameters.publicKeySize publicKey.length <;> simp

theorem ofSecretKey_eq_ok {secretKey : Bytes} :
    ofSecretKey secretKey = .ok algorithm ↔
      ∃ p, algorithm.parameters? = some p ∧ p.secretKeySize = secretKey.length := by
  rw [← withSize?_eq_some_iff toldBy_secretKeySize, ofSecretKey]
  cases withSize? Parameters.secretKeySize secretKey.length <;> simp

end PqAlgorithm

namespace PqSecretKey

/-- A key is read from its own bytes as a key of its own algorithm. -/
theorem ofBytes_bytes (key : PqSecretKey) : ofBytes key.algorithm key.bytes = .ok key := by
  obtain ⟨algorithm, p, bytes, hp, hlength⟩ := key
  rw [ofBytes]
  split
  · next hnone => cases hp.symm.trans hnone
  · next found hfound =>
    obtain rfl : p = found := Option.some.inj (hp.symm.trans hfound)
    rw [dif_pos hlength]

/-- The length of the bytes tells the algorithm again. -/
theorem infer_bytes (key : PqSecretKey) : infer key.bytes = .ok key := by
  have halgorithm : PqAlgorithm.ofSecretKey key.bytes = .ok key.algorithm :=
    PqAlgorithm.ofSecretKey_eq_ok.mpr ⟨key.parameters, key.supported, key.length_eq.symm⟩
  exact bind_eq_ok.mpr ⟨_, halgorithm, key.ofBytes_bytes⟩

end PqSecretKey

end HybridTx
