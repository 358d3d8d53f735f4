import HybridTx.Proofs.Results
import HybridTx.Proofs.Text.Hex
import HybridTx.Proofs.Text.Split
import HybridTx.Proofs.Text.Utf8
import HybridTx.Tool.Signer

/-! A program that signs: when it is run, and what is made of what it writes. -/

namespace HybridTx

/-- No digits have a NUL among them. -/
theorem Hex.nul_notMem_encode (bytes : Bytes) : '\x00' ∉ (Hex.encode bytes).toList := by
  have hdigits : ∀ c ∈ (encode bytes).toList, c ≠ '\x00' := forall_mem_encode (by decide) bytes
  exact fun h => hdigits _ h rfl

namespace SignerTool

variable {σ : Type} {tool : SignerTool} {disk : Disk (StateM σ)} {runner : ToolRunner (StateM σ)}
  {state staged ran after : σ} {output : ToolOutput}

theorem any_contains_nul {texts : List String} :
    texts.any (·.contains '\x00') = false ↔ ∀ text ∈ texts, '\x00' ∉ text.toList := by
  simp [List.any_eq_false]

/-- A program is run when no NUL is in any text that it is given. -/
theorem ask_of_run {command : String} {args : List String}
    (hplain : ∀ text ∈ tool.program :: (tool.baseArgs ++ command :: args), '\x00' ∉ text.toList)
    (hrun : runner.run tool.program (tool.baseArgs ++ command :: args) state =
      (.ok output, after)) :
    tool.ask runner command args state = (tool.interpret command output, after) := by
  have hnul := any_contains_nul.mpr hplain
  simp only [ask, hnul, Bool.false_eq_true, if_false, bind, StateT.bind, hrun]
  rfl

/-- A finished program has answered when it ended well and wrote text. -/
theorem interpret_eq_ok {command : String} {lines : List String} :
    tool.interpret command output = .ok lines ↔
      output.status = .code 0 ∧ ∃ text, Utf8.decode output.stdout = .ok text ∧
        answerLines text = lines := by
  rw [interpret]
  split
  · next hstatus =>
    cases Utf8.decode output.stdout <;> simp [hstatus]
  · next hstatus => simp [hstatus]

/-- An answer is had from a program that could be given its arguments, and was run to its end. -/
theorem ask_eq_ok {command : String} {args lines : List String} :
    tool.ask runner command args state = (.ok lines, after) ↔
      (∀ text ∈ tool.program :: (tool.baseArgs ++ command :: args), '\x00' ∉ text.toList) ∧
        ∃ output, runner.run tool.program (tool.baseArgs ++ command :: args) state =
            (.ok output, after) ∧ tool.interpret command output = .ok lines := by
  by_cases hplain : ∀ text ∈ tool.program :: (tool.baseArgs ++ command :: args),
      '\x00' ∉ text.toList
  · rcases hrun : runner.run tool.program (tool.baseArgs ++ command :: args) state with
      ⟨e | output, ran⟩
    · have hfault : (tool.ask runner command args state).1 ≠ .ok lines := by
        have hnul := any_contains_nul.mpr hplain
        simp only [ask, hnul, Bool.false_eq_true, if_false, bind, StateT.bind, hrun]
        exact nofun
      constructor
      · intro h
        exact absurd (congrArg Prod.fst h) hfault
      · rintro ⟨-, _, h, -⟩
        cases h
    · rw [ask_of_run hplain hrun]
      constructor
      · intro h
        obtain ⟨hlines, rfl⟩ := Prod.mk.inj h
        exact ⟨hplain, output, rfl, hlines⟩
      · rintro ⟨-, _, h, hlines⟩
        cases h
        exact congrArg (Prod.mk · after) hlines
  · constructor
    · intro h
      have hnul : ¬((tool.program :: (tool.baseArgs ++ command :: args)).any
          (·.contains '\x00')) = false := mt any_contains_nul.mp hplain
      rw [Bool.not_eq_false] at hnul
      simp only [ask, hnul, if_true] at h
      cases congrArg Prod.fst h
    · rintro ⟨h, -⟩
      exact absurd h hplain

theorem readSignature_eq_ok {lines : List String} {signature : Bytes} :
    readSignature lines = .ok signature ↔
      ∃ line, lines.getLast? = some line ∧ Hex.decodeMarked line = .ok signature := by
  rw [readSignature, lastLine]
  cases lines.getLast? <;> simp

/-- The last line of what the program writes is the signature, if the program could be run and ended
well. -/
theorem sign_eq_ok {key : Path} {hash : TxHash} {signature : Bytes} :
    (tool.signer disk runner).sign key hash state = (.ok signature, after) ↔
      (∀ text ∈ tool.program :: (tool.baseArgs ++ ["sign", key, Hex.encode hash.bytes]),
        '\x00' ∉ text.toList) ∧
      ∃ output text line, runner.run tool.program
          (tool.baseArgs ++ ["sign", key, Hex.encode hash.bytes]) state = (.ok output, after) ∧
        output.status = .code 0 ∧ Utf8.decode output.stdout = .ok text ∧
        (answerLines text).getLast? = some line ∧ Hex.decodeMarked line = .ok signature := by
  have hsign : (tool.signer disk runner).sign key hash state =
      ((tool.ask runner "sign" [key, Hex.encode hash.bytes] state).1.bind readSignature,
        (tool.ask runner "sign" [key, Hex.encode hash.bytes] state).2) := rfl
  rw [hsign]
  constructor
  · intro h
    obtain ⟨hread, rfl⟩ := Prod.mk.inj h
    obtain ⟨lines, hlines, hsignature⟩ := bind_eq_ok.mp hread
    obtain ⟨hplain, output, hrun, hinterpret⟩ := ask_eq_ok.mp (Prod.ext hlines rfl)
    obtain ⟨hstatus, text, htext, rfl⟩ := interpret_eq_ok.mp hinterpret
    obtain ⟨line, hline, hdigits⟩ := readSignature_eq_ok.mp hsignature
    exact ⟨hplain, output, text, line, hrun, hstatus, htext, hline, hdigits⟩
  · rintro ⟨hplain, output, text, line, hrun, hstatus, htext, hline, hdigits⟩
    have hasked := ask_eq_ok.mpr
      ⟨hplain, output, hrun, interpret_eq_ok.mpr ⟨hstatus, text, htext, rfl⟩⟩
    rw [hasked]
    exact congrArg (Prod.mk · after) (readSignature_eq_ok.mpr ⟨line, hline, hdigits⟩)

variable (hprogram : ∀ text ∈ tool.program :: tool.baseArgs, '\x00' ∉ text.toList)

include hprogram

/-- The signature is what is read from the answer to `sign`. -/
theorem sign_of_run {key : Path} {hash : TxHash} (hkey : '\x00' ∉ key.toList)
    (hrun : runner.run tool.program (tool.baseArgs ++ ["sign", key, Hex.encode hash.bytes]) state =
      (.ok output, after)) :
    (tool.signer disk runner).sign key hash state =
      ((tool.interpret "sign" output).bind readSignature, after) := by
  have hplain : ∀ text ∈ tool.program :: (tool.baseArgs ++ ["sign", key, Hex.encode hash.bytes]),
      '\x00' ∉ text.toList := by
    simp only [List.forall_mem_cons, List.forall_mem_append] at hprogram ⊢
    exact ⟨hprogram.1, hprogram.2, by decide, hkey, Hex.nul_notMem_encode _, by simp⟩
  simp only [signer, bind, StateT.bind, ask_of_run hplain hrun]
  rfl

/-- The verdict is what is read from the answer to `verify`. -/
theorem verifyKeyFile_of_run {publicKey : Path} {signature : Bytes} {hash : TxHash}
    (hkey : '\x00' ∉ publicKey.toList)
    (hrun : runner.run tool.program
      (tool.baseArgs ++ ["verify", publicKey, Hex.encode hash.bytes, Hex.encode signature]) state =
        (.ok output, after)) :
    tool.verifyKeyFile runner publicKey hash signature state =
      ((tool.interpret "verify" output).bind readVerdict, after) := by
  have hplain : ∀ text ∈ tool.program ::
      (tool.baseArgs ++ ["verify", publicKey, Hex.encode hash.bytes, Hex.encode signature]),
      '\x00' ∉ text.toList := by
    simp only [List.forall_mem_cons, List.forall_mem_append] at hprogram ⊢
    exact ⟨hprogram.1, hprogram.2, by decide, hkey, Hex.nul_notMem_encode _,
      Hex.nul_notMem_encode _, by simp⟩
  simp only [verifyKeyFile, bind, StateT.bind, ask_of_run hplain hrun]
  rfl

/-- The public key is in a file for as long as the program runs. -/
theorem verify_of_run {publicKey signature : Bytes} {hash : TxHash} {path : Path}
    (hpath : '\x00' ∉ path.toList) (hstage : runner.stage publicKey state = (.ok path, staged))
    (hrun : runner.run tool.program
      (tool.baseArgs ++ ["verify", path, Hex.encode hash.bytes, Hex.encode signature]) staged =
        (.ok output, ran))
    (hunstage : runner.unstage path ran = ((), after)) :
    (tool.verifier runner).verify publicKey hash signature state =
      ((tool.interpret "verify" output).bind readVerdict, after) := by
  have hverdict := verifyKeyFile_of_run hprogram hpath hrun
  simp only [verifier, bind, StateT.bind, hstage, hverdict, hunstage]
  rfl

end SignerTool

/-- A text that is one word: some characters, none of them blank. -/
structure Text.IsWord (text : String) : Prop where
  ne_empty : text ≠ ""
  solid : ∀ c ∈ text.toList, isBlank c = false

theorem Hex.isWord_encode {bytes : Bytes} (hne : bytes ≠ []) : Text.IsWord (encode bytes) where
  ne_empty := by
    intro h
    have hread := decodeMarked_encode bytes
    rw [h] at hread
    exact hne (Except.ok.inj hread).symm
  solid := isBlank_of_mem_encode

namespace SignerTool

theorem answerLines_word {word : String} (hword : Text.IsWord word) :
    answerLines (word ++ "\n") = [word] := by
  have hbreak : ∀ part ∈ [word.toList, []], '\n' ∉ part := by
    intro part hpart hmem
    simp only [List.mem_cons, List.not_mem_nil, or_false] at hpart
    obtain rfl | rfl := hpart
    · exact absurd (hword.solid _ hmem) (by decide)
    · cases hmem
  have hsplit : Text.splitAt '\n' (word ++ "\n").toList = [word.toList, []] := by
    have htext : (word ++ "\n").toList = ['\n'].intercalate [word.toList, []] := by
      simp
    rw [htext, Text.splitAt_intercalate (List.cons_ne_nil _ _) hbreak]
  have hsolid : Text.trimChars word.toList = word.toList := Text.trimChars_eq_self hword.solid
  have hnone : Text.trimChars [] = [] := rfl
  have hne : word.toList ≠ [] := by simpa using hword.ne_empty
  rw [answerLines, hsplit, List.map_cons, List.map_singleton, hsolid, hnone]
  simp [hne]

/-- A program that ends well with a word on a line of its own answers with it. -/
theorem interpret_word (tool : SignerTool) (command : String) {word : String}
    (hword : Text.IsWord word) (log : Bytes) :
    tool.interpret command ⟨.code 0, Bytes.ofString (word ++ "\n"), log⟩ = .ok [word] := by
  have htext : Utf8.decode (Bytes.ofString (word ++ "\n")) = .ok (word ++ "\n") :=
    Utf8.decode_eq_ok_iff.mpr rfl
  rw [interpret, if_pos rfl]
  simp only [htext, answerLines_word hword]

/-- A program that does not end well has failed, whatever it wrote. -/
theorem interpret_failed (tool : SignerTool) (command : String) {output : ToolOutput}
    (hstatus : output.status ≠ .code 0) :
    ∃ reason, tool.interpret command output = .error (.failed reason) := by
  rw [interpret, if_neg hstatus]
  exact ⟨_, rfl⟩

theorem readSignature_encode (bytes : Bytes) : readSignature [Hex.encode bytes] = .ok bytes := by
  have hlast : lastLine [Hex.encode bytes] = .ok (Hex.encode bytes) := rfl
  rw [readSignature, hlast, ok_bind, Hex.decodeMarked_encode]
  rfl

end SignerTool

end HybridTx
