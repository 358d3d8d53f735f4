import HybridTx.Files.Tree
import HybridTx.Main
import HybridTx.Signing.Desk
import HybridTx.Proofs.Commands.Fallback
import HybridTx.Proofs.Commands.Inspect
import HybridTx.Proofs.PostQuantum.Tags
import HybridTx.Proofs.Rlp.Extension
import HybridTx.Proofs.Rlp.Scalar
import HybridTx.Proofs.Secp256k1.Canonical
import HybridTx.Proofs.Secp256k1.KeyText
import HybridTx.Proofs.Secp256k1.RoundTrip
import HybridTx.Proofs.Signing.Additivity
import HybridTx.Proofs.Signing.Batch
import HybridTx.Proofs.Signing.Lifecycle
import HybridTx.Proofs.Tool.Answer
import HybridTx.Proofs.Tool.Refinement
import HybridTx.Proofs.Transaction.Faults
import HybridTx.Proofs.Transaction.Separation
import HybridTx.Proofs.Commands.AccessList
import HybridTx.Proofs.Keys.Interrupted
import HybridTx.Proofs.Rlp.Overflow
