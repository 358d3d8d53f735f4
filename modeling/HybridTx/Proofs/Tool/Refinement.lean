import HybridTx.Proofs.Commands.Process
import HybridTx.Proofs.PostQuantum.Tags
import HybridTx.Proofs.Tool.Signer

/-! The program as its own signer tool. What one end writes the other reads, so signing and
verifying through a process comes to the same as with the backend that is built in. -/

namespace HybridTx

variable {σ : Type} {host : Host (StateM σ)} {config path : Path} {before started : σ}

/-- The signature that the backend makes from a key, which is told by its length. -/
def signWith (content : Bytes) (hash : TxHash) : Except KeyError PqSignature := do
  (← PqSecretKey.infer content).sign hash.bytes

/-- A key that was made from a seed is told by its length, and signs what the search comes to. -/
theorem signWith_secretKey {algorithm : PqAlgorithm} {p : Dilithium.Parameters}
    (hp : algorithm.parameters? = some p) (seed : Bytes) {hash : TxHash} {body : Bytes}
    (h : body ∈ Dilithium.searchMasks p (Dilithium.secretKey p seed) hash.bytes) :
    signWith (Dilithium.secretKey p seed) hash = .ok ⟨algorithm, body⟩ := by
  let key : PqSecretKey :=
    ⟨algorithm, p, Dilithium.secretKey p seed, hp, Dilithium.length_secretKey seed⟩
  exact bind_eq_ok.mpr ⟨key, key.infer_bytes, PqSecretKey.sign_eq_ok.mpr ⟨rfl, h⟩⟩

/-- The path of the file changes nothing but the wording of a fault. -/
theorem signWithFile_cases (path : Path) (content : Bytes) (hash : TxHash) :
    (∃ signature, signWith content hash = .ok signature ∧
      signWithFile path content hash = .ok signature) ∨
    ∃ e e', signWith content hash = .error e ∧ signWithFile path content hash = .error e' := by
  rw [signWith, signWithFile]
  cases PqSecretKey.infer content with
  | error e => exact .inr ⟨_, _, rfl, rfl⟩
  | ok key =>
    have hfile : KeyStore.inFile path (.ok key) = .ok key := rfl
    rw [hfile, ok_bind]
    cases key.sign hash.bytes with
    | error e => exact .inr ⟨_, _, rfl, rfl⟩
    | ok signature => exact .inl ⟨_, rfl, rfl⟩

theorem isWord_verdictWord (isValid : Bool) : Text.IsWord (verdictWord isValid) := by
  have hchars : (verdictWord isValid).toList.all (fun c => !Text.isBlank c) = true := by
    cases isValid <;> decide
  simp only [List.all_eq_true, Bool.not_eq_true'] at hchars
  exact ⟨by cases isValid <;> decide, hchars⟩

namespace SignerTool

theorem readVerdict_verdictWord (isValid : Bool) :
    readVerdict [verdictWord isValid] = .ok isValid := by
  cases isValid <;> rfl

/-- Running the tool is running the program: it is given the arguments as they are, behind its own
that lead to the post-quantum commands, and what it prints comes back as it is. What it says beside
may be lost among other messages. -/
structure IsProgram (tool : SignerTool) (runner : ToolRunner (StateM σ)) (host : Host (StateM σ))
    (config : Path) : Prop where
  nul_notMem : ∀ text ∈ tool.program :: tool.baseArgs, '\x00' ∉ text.toList
  leads : Arguments.LeadsToPq tool.baseArgs config
  run_eq : ∀ args before, ∃ log, runner.run tool.program args before =
    (.ok ((runProgram host args before).1.toOutput log), (runProgram host args before).2)

/-- An answer that is got through a process, beside the one that is got without: the same value, or
a failure where there is an error. -/
inductive Mirrors {α : Type} : Except SignerError α → Except KeyError α → Prop
  | ok (a : α) : Mirrors (.ok a) (.ok a)
  | failed (reason : String) (e : KeyError) : Mirrors (.error (.failed reason)) (.error e)

theorem Mirrors.ok_iff {α : Type} {answer : Except SignerError α} {made : Except KeyError α} {a : α}
    (h : Mirrors answer made) : answer = .ok a ↔ made = .ok a := by
  cases h <;> simp

theorem Mirrors.failed_iff {α : Type} {answer : Except SignerError α} {made : Except KeyError α}
    (h : Mirrors answer made) :
    (∃ reason, answer = .error (.failed reason)) ↔ ∃ e, made = .error e := by
  cases h <;> simp

variable {tool : SignerTool} {runner : ToolRunner (StateM σ)}

theorem mirrors_word {α : Type} (command : String) {word : String} (hword : Text.IsWord word)
    {read : List String → Except SignerError α} {a : α} (hread : read [word] = .ok a)
    (log : Bytes) :
    Mirrors ((tool.interpret command
      ((Ending.ofOutcome (.ofLine (.ok word))).toOutput log)).bind read) (.ok a) := by
  have hprinted : (Outcome.ofLine (.ok word)).output = word ++ "\n" := by
    simp [Outcome.ofLine, Outcome.output]
  have houtput : (Ending.ofOutcome (.ofLine (.ok word))).toOutput log =
      ⟨.code 0, Bytes.ofString (word ++ "\n"), log⟩ := by
    rw [← hprinted]
    rfl
  rw [houtput, interpret_word tool command hword, Except.bind, hread]
  exact .ok a

theorem mirrors_fault {α : Type} (command : String) (fault : CommandError) (e : KeyError)
    (read : List String → Except SignerError α) (log : Bytes) :
    Mirrors ((tool.interpret command
      ((Ending.ofOutcome (.ofLine (.error fault))).toOutput log)).bind read) (.error e) := by
  have hone : ((Ending.ofOutcome (.ofLine (.error fault))).toOutput log).status = .code 1 := rfl
  have hstatus : ((Ending.ofOutcome (.ofLine (.error fault))).toOutput log).status ≠ .code 0 := by
    rw [hone]
    decide
  obtain ⟨reason, hfailed⟩ := interpret_failed tool command hstatus
  rw [hfailed]
  exact .failed reason e

variable {publicKey signature content : Bytes} {hash : TxHash}

theorem mirrors_verify (htool : tool.IsProgram runner host config)
    (hstage : runner.stage publicKey before = (.ok path, started))
    (hpath : Arguments.IsPathArgument path) (hoffers : host.Offers config started path publicKey) :
    Mirrors ((tool.verifier runner).verify publicKey hash signature before).1
      (verifyTagged publicKey hash.bytes signature) := by
  obtain ⟨after, hprogram⟩ := runProgram_verify hash signature htool.leads hpath hoffers
  obtain ⟨log, hrun⟩ := htool.run_eq
    (tool.baseArgs ++ ["verify", path, Hex.encode hash.bytes, Hex.encode signature]) started
  rw [hprogram] at hrun
  rw [verify_of_run htool.nul_notMem hpath.nul_notMem hstage hrun rfl]
  dsimp only
  cases verifyTagged publicKey hash.bytes signature with
  | ok isValid =>
    exact mirrors_word "verify" (isWord_verdictWord isValid) (readVerdict_verdictWord isValid) log
  | error e => exact mirrors_fault "verify" (.key e) e readVerdict log

theorem mirrors_sign (htool : tool.IsProgram runner host config) (disk : Disk (StateM σ))
    (hpath : Arguments.IsPathArgument path) (hoffers : host.Offers config before path content) :
    Mirrors ((tool.signer disk runner).sign path hash before).1
      ((signWith content hash).map PqSignature.toBytes) := by
  obtain ⟨after, hprogram⟩ := runProgram_sign hash htool.leads hpath hoffers
  obtain ⟨log, hrun⟩ :=
    htool.run_eq (tool.baseArgs ++ ["sign", path, Hex.encode hash.bytes]) before
  rw [hprogram] at hrun
  rw [sign_of_run htool.nul_notMem hpath.nul_notMem hrun]
  dsimp only
  obtain ⟨signature, hmade, hfile⟩ | ⟨e, e', hmade, hfile⟩ := signWithFile_cases path content hash
  · have hword : Text.IsWord (Hex.encode signature.toBytes) :=
      Hex.isWord_encode (List.cons_ne_nil _ _)
    rw [hmade, hfile]
    exact mirrors_word "sign" hword (readSignature_encode signature.toBytes) log
  · rw [hmade, hfile]
    exact mirrors_fault "sign" (.key e') e readSignature log

/-- Signing and verifying through the program comes to the same as without it: the very verdict that
the backend gives for the staged public key, the tagged bytes that it makes from the key file, and a
failure of the process where the backend has an error. -/
theorem refines_backend (htool : tool.IsProgram runner host config) (disk : Disk (StateM σ)) :
    (∀ publicKey hash signature before path staged,
      runner.stage publicKey before = (.ok path, staged) → Arguments.IsPathArgument path →
      host.Offers config staged path publicKey →
        Mirrors ((tool.verifier runner).verify publicKey hash signature before).1
          (verifyTagged publicKey hash.bytes signature)) ∧
    ∀ path content hash before, Arguments.IsPathArgument path →
      host.Offers config before path content →
        Mirrors ((tool.signer disk runner).sign path hash before).1
          ((signWith content hash).map PqSignature.toBytes) :=
  ⟨fun _ _ _ _ _ _ hstage hpath hoffers => mirrors_verify htool hstage hpath hoffers,
    fun _ _ _ _ hpath hoffers => mirrors_sign htool disk hpath hoffers⟩

/-- A host whose files are a list of paths with what they hold. -/
def listedHost : Host (StateM (List (Path × Bytes))) where
  disk := {
    read := fun path files => ((files.lookup path).elim (.error .notFound) .ok, files)
    write := fun path content files => (.ok (), (path, content) :: files)
    restrict := fun _ files => (.ok (), files)
    makeDir := fun _ files => (.ok (), files)
    isPresent := fun path files => ((files.lookup path).isSome, files)
    isDir := fun _ files => (false, files) }
  tools := {
    run := fun _ _ files => (.error .notFound, files)
    stage := fun _ files => (.error .denied, files)
    unstage := fun _ files => ((), files) }
  random := fun size files => (List.replicate size 0, files)
  home := none

/-- Programs on these files: all are the program itself, and say more than it does. -/
def listedRunner : ToolRunner (StateM (List (Path × Bytes))) where
  run _ args files :=
    let (ending, after) := runProgram listedHost args files
    (.ok (ending.toOutput (Bytes.ofString ("INFO started\n" ++ ending.remarks))), after)
  stage content files := (.ok "/tmp/staged", ("/tmp/staged", content) :: files)
  unstage path files := ((), files.filter (·.1 ≠ path))

/-- A key file of the second level signs through the process, and the signature is accepted through
it too. An empty signature is a rejection, one of an algorithm that is not built in is a failure,
and so is signing with three bytes for a key. The configuration file may be named in front or not.
-/
theorem refines_backend_listed :
    let named : SignerTool := ⟨"tandem", ["--config", "other.toml", "pq"], "keys"⟩
    let plain : SignerTool := ⟨"tandem", ["pq"], "keys"⟩
    let verify (publicKey : Bytes) (hash : TxHash) (signature : Bytes) :=
      ((named.verifier listedRunner).verify publicKey hash signature []).1
    let sign (content : Bytes) (hash : TxHash) :=
      ((plain.signer listedHost.disk listedRunner).sign "some.key" hash [("some.key", content)]).1
    let seed := List.replicate 32 0
    let hash : TxHash := ⟨List.replicate 32 3, rfl⟩
    named.IsProgram listedRunner listedHost "other.toml" ∧
      plain.IsProgram listedRunner listedHost "tandem.toml" ∧
      (∃ signature, sign (Dilithium.secretKey Dilithium.level2 seed) hash = .ok signature ∧
        verify (Dilithium.publicKey Dilithium.level2 seed) hash signature = .ok true) ∧
      verify [7] ⟨.zero 32⟩ [] = .ok false ∧
      (∃ reason, verify [7] ⟨.zero 32⟩ [0x04, 0x01] = .error (.failed reason)) ∧
      ∃ reason, sign [1, 2, 3] ⟨.zero 32⟩ = .error (.failed reason) := by
  intro named plain verify sign seed hash
  have hnamed : named.IsProgram listedRunner listedHost "other.toml" := {
    nul_notMem := by decide
    leads := Arguments.leadsToPq_config (by decide) (by simp [Arguments.isOptionLike])
    run_eq := fun _ _ => ⟨_, rfl⟩ }
  have hplain : plain.IsProgram listedRunner listedHost "tandem.toml" := {
    nul_notMem := by decide
    leads := Arguments.leadsToPq_pq
    run_eq := fun _ _ => ⟨_, rfl⟩ }
  have hstaged : Arguments.IsPathArgument "/tmp/staged" := ⟨by decide, rfl, by decide⟩
  have hfile : Arguments.IsPathArgument "some.key" := ⟨by decide, rfl, by decide⟩
  have hverify : ∀ publicKey hash signature,
      Mirrors (verify publicKey hash signature) (verifyTagged publicKey hash.bytes signature) :=
    fun publicKey hash signature => (refines_backend hnamed listedHost.disk).1 publicKey hash
      signature [] _ _ rfl hstaged ⟨_, _, _, rfl, rfl⟩
  have hsign : ∀ content hash,
      Mirrors (sign content hash) ((signWith content hash).map PqSignature.toBytes) :=
    fun content hash => (refines_backend hplain listedHost.disk).2 "some.key" content hash _ hfile
      ⟨_, _, _, rfl, rfl⟩
  refine ⟨hnamed, hplain, ?_, (hverify _ _ []).ok_iff.mpr rfl,
    (hverify _ _ [4, 1]).failed_iff.mpr ⟨_, rfl⟩,
    (hsign _ _).failed_iff.mpr ⟨.invalidSecretKey "no algorithm has 3-byte secret keys", ?_⟩⟩
  · obtain ⟨body, hbody⟩ := Part.dom_iff_mem.mp Dilithium.searchMasks_dom
    have hlevel : PqAlgorithm.dilithium2.parameters? = some Dilithium.level2 := rfl
    have hmade : signWith (Dilithium.secretKey Dilithium.level2 seed) hash = .ok ⟨_, body⟩ :=
      signWith_secretKey hlevel seed hbody
    obtain ⟨haccepted, -⟩ := PqSecretKey.verifyTagged_of_mem_searchMasks hlevel seed hbody
    exact ⟨_, (hsign _ _).ok_iff.mpr (map_eq_ok.mpr ⟨_, hmade, rfl⟩),
      (hverify _ _ _).ok_iff.mpr haccepted⟩
  · have hlength : PqAlgorithm.ofSecretKey [1, 2, 3] =
        .error (.invalidSecretKey "no algorithm has 3-byte secret keys") := by decide +kernel
    rw [signWith, PqSecretKey.infer, hlength]
    rfl

end SignerTool

end HybridTx
