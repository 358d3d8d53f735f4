import HybridTx.PostQuantum.Algorithm

/-! Post-quantum signatures. On the wire the number of the algorithm stands in front, so a verifier
needs no other word of which algorithm to use. -/

namespace HybridTx

/-- A post-quantum signature and its algorithm. -/
structure PqSignature where
  algorithm : PqAlgorithm
  body : Bytes
deriving DecidableEq

namespace PqSignature

/-- The number of the algorithm, then the body. -/
def toBytes (signature : PqSignature) : Bytes := signature.algorithm.id :: signature.body

/-- Takes the number of the algorithm off. A number without a body is refused. -/
def ofBytes : Bytes → Except KeyError PqSignature
  | id :: first :: rest => do .ok ⟨← PqAlgorithm.ofId id, first :: rest⟩
  | bytes => .error (.invalidSignature s!"PQ signature of {bytes.length} bytes has no body")

end PqSignature

end HybridTx
