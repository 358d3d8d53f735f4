import HybridTx.Proofs.Text.Lines
import HybridTx.Proofs.Tool.Signer

/-! What a program that signs answers is its last line that is not blank. A program that ends badly
has failed, whatever it wrote; one that ends well has answered with its last line, or its output is
malformed. -/

namespace HybridTx

/-- The output with more text before and behind it. -/
def ToolOutput.surround (output : ToolOutput) (front back : String) : ToolOutput :=
  { output with stdout := Bytes.ofString front ++ (output.stdout ++ Bytes.ofString back) }

namespace SignerTool

/-- The bytes are text, and the line is the last one in it that is not blank. -/
def IsAnswer (stdout : Bytes) (line : String) : Prop :=
  ∃ text : String, stdout = Bytes.ofString text ∧ Text.LastLine text.toList line.toList

/-- The bytes are text, and all of it is blank. -/
def IsBlankText (stdout : Bytes) : Prop :=
  ∃ text : String, stdout = Bytes.ofString text ∧ Text.IsBlanks text.toList

/-- A verdict is spelled in one word. -/
def SpellsVerdict (line : String) (isValid : Bool) : Prop := line = toString isValid

/-- A byte string is spelled in its digits, in capitals or not, behind one `0x` or none. -/
def SpellsBytes (line : String) (bytes : Bytes) : Prop :=
  (Text.dropHexMark line.toList).map Char.toLower = Hex.encodeChars bytes

instance (line : String) (bytes : Bytes) : Decidable (SpellsBytes line bytes) :=
  inferInstanceAs (Decidable (_ = _))

/-- All that comes of a program that was run: a value exactly when it ended well and the answer
spells the value, a failure exactly when it ended badly, and a complaint about its output
otherwise. -/
structure ReadsAnswer {α : Type} (spells : String → α → Prop) (output : ToolOutput)
    (result : Except SignerError α) : Prop where
  ok_iff : ∀ a, result = .ok a ↔
    output.status = .code 0 ∧ ∃ line, IsAnswer output.stdout line ∧ spells line a
  failed_iff : (∃ reason, result = .error (.failed reason)) ↔ output.status ≠ .code 0
  malformed_iff : (∃ reason, result = .error (.malformedOutput reason)) ↔
    output.status = .code 0 ∧ ∀ line a, IsAnswer output.stdout line → ¬spells line a

/-- The same value, or an error of the same kind. -/
inductive SameOutcome {α : Type} : Except SignerError α → Except SignerError α → Prop
  | ok (a : α) : SameOutcome (.ok a) (.ok a)
  | failed (reason other : String) : SameOutcome (.error (.failed reason)) (.error (.failed other))
  | malformed (reason other : String) :
    SameOutcome (.error (.malformedOutput reason)) (.error (.malformedOutput other))

def signatureFrom (tool : SignerTool) (output : ToolOutput) : Except SignerError Bytes :=
  (tool.interpret "sign" output).bind readSignature

/-- The verdict that is read from what a program wrote. -/
def verdictFrom (tool : SignerTool) (output : ToolOutput) : Except SignerError Bool :=
  (tool.interpret "verify" output).bind readVerdict

section Answer

variable {stdout : Bytes} {line other : String}

theorem IsAnswer.unique (h : IsAnswer stdout line) (hother : IsAnswer stdout other) :
    line = other := by
  obtain ⟨text, rfl, hline⟩ := h
  obtain ⟨_, htext, hother⟩ := hother
  obtain rfl := Utf8.ofString_injective htext
  exact String.toList_injective (hline.unique hother)

theorem getLast?_answerLines {text : String} :
    (answerLines text).getLast? = some line ↔ Text.LastLine text.toList line.toList := by
  have hlines : answerLines text = (Text.solidLines text.toList).map String.ofList := rfl
  rw [hlines, List.getLast?_map, Option.map_eq_some_iff, ← Text.getLast?_solidLines]
  constructor
  · rintro ⟨chars, hlast, rfl⟩
    rwa [String.toList_ofList]
  · intro hlast
    exact ⟨_, hlast, String.ofList_toList⟩

/-- Lines in front of an output and blanks behind it leave its answer as it is. An output that is
blank has no answer, and may be given one by the lines. -/
theorem isAnswer_surround {front back : String} (hfront : Text.IsLines front.toList)
    (hback : Text.IsBlanks back.toList) (h : IsBlankText stdout → Text.IsBlanks front.toList) :
    IsAnswer (Bytes.ofString front ++ (stdout ++ Bytes.ofString back)) line ↔
      IsAnswer stdout line := by
  constructor
  · rintro ⟨whole, hwhole, hline⟩
    obtain ⟨text, rfl⟩ : Utf8.IsText stdout := by
      rw [← Utf8.isText_append_ofString, ← Utf8.isText_ofString_append]
      exact ⟨whole, hwhole⟩
    rw [← Utf8.ofString_append, ← Utf8.ofString_append] at hwhole
    obtain rfl := Utf8.ofString_injective hwhole
    rw [String.toList_append, String.toList_append, ← List.append_assoc,
      Text.lastLine_append_blanks hback] at hline
    refine ⟨text, rfl, ?_⟩
    obtain hblanks | ⟨last, hlast⟩ := Text.exists_lastLine text.toList
    · have hall := h ⟨text, rfl, hblanks⟩
      rw [Text.lastLine_append_blanks hblanks] at hline
      exact absurd hline (Text.isBlanks_iff.mp hall _)
    · rwa [hline.unique (hlast.append_left hfront)]
  · rintro ⟨text, rfl, hline⟩
    refine ⟨front ++ (text ++ back), ?_, ?_⟩
    · rw [Utf8.ofString_append, Utf8.ofString_append]
    · rw [String.toList_append, String.toList_append]
      exact ((Text.lastLine_append_blanks hback).mpr hline).append_left hfront

end Answer

section Outcome

variable {α : Type} {spells : String → α → Prop} {output output' : ToolOutput}
  {result result' : Except SignerError α}

theorem readsAnswer_failed (reason : String) (hstatus : output.status ≠ .code 0) :
    ReadsAnswer spells output (.error (.failed reason)) where
  ok_iff := by simp [hstatus]
  failed_iff := by simp [hstatus]
  malformed_iff := by simp [hstatus]

theorem readsAnswer_malformed (reason : String) (hstatus : output.status = .code 0)
    (h : ∀ line a, IsAnswer output.stdout line → ¬spells line a) :
    ReadsAnswer spells output (.error (.malformedOutput reason)) where
  ok_iff a := by
    refine ⟨nofun, ?_⟩
    rintro ⟨-, line, hline, hspells⟩
    exact absurd hspells (h line a hline)
  failed_iff := by simp [hstatus]
  malformed_iff := ⟨fun _ => ⟨hstatus, h⟩, fun _ => ⟨reason, rfl⟩⟩

theorem readsAnswer_ok {line : String} {a : α} (hstatus : output.status = .code 0)
    (hline : IsAnswer output.stdout line) (h : ∀ b, spells line b ↔ a = b) :
    ReadsAnswer spells output (.ok a) where
  ok_iff b := by
    constructor
    · intro hb
      exact ⟨hstatus, line, hline, (h b).mpr (Except.ok.inj hb)⟩
    · rintro ⟨-, other, hother, hspells⟩
      rw [hother.unique hline] at hspells
      rw [(h b).mp hspells]
  failed_iff := by simp [hstatus]
  malformed_iff := by
    refine ⟨nofun, ?_⟩
    rintro ⟨-, hnone⟩
    exact absurd ((h a).mpr rfl) (hnone line a hline)

theorem readsAnswer_lastLine (tool : SignerTool) (command : String) (output : ToolOutput)
    {read : String → Except SignerError α} (hok : ∀ line a, read line = .ok a ↔ spells line a)
    (herror : ∀ line e, read line = .error e → ∃ reason, e = .malformedOutput reason) :
    ReadsAnswer spells output
      ((tool.interpret command output).bind fun lines => lastLine lines >>= read) := by
  by_cases hstatus : output.status = .code 0
  · rw [interpret, if_pos hstatus]
    cases htext : Utf8.decode output.stdout with
    | error e =>
      refine readsAnswer_malformed _ hstatus ?_
      rintro line a ⟨text, hstdout, -⟩
      rw [Utf8.decode_eq_ok_iff.mpr hstdout] at htext
      cases htext
    | ok text =>
      have hstdout := Utf8.decode_eq_ok_iff.mp htext
      simp only [lastLine, Except.bind]
      cases hlast : (answerLines text).getLast? with
      | none =>
        refine readsAnswer_malformed _ hstatus ?_
        rintro line a ⟨_, hother, hline⟩
        obtain rfl := Utf8.ofString_injective (hstdout.symm.trans hother)
        rw [getLast?_answerLines.mpr hline] at hlast
        cases hlast
      | some line =>
        have hline : IsAnswer output.stdout line := ⟨text, hstdout, getLast?_answerLines.mp hlast⟩
        simp only [ok_bind]
        cases hread : read line with
        | ok a =>
          refine readsAnswer_ok hstatus hline fun b => ?_
          rw [← hok, hread, Except.ok.injEq]
        | error e =>
          obtain ⟨reason, rfl⟩ := herror line e hread
          refine readsAnswer_malformed _ hstatus fun other a hother hspells => ?_
          rw [hother.unique hline, ← hok, hread] at hspells
          cases hspells
  · obtain ⟨reason, hfailed⟩ := interpret_failed tool command hstatus
    rw [hfailed]
    exact readsAnswer_failed reason hstatus

theorem ReadsAnswer.sameOutcome (h : ReadsAnswer spells output result)
    (h' : ReadsAnswer spells output' result') (hstatus : output'.status = output.status)
    (hanswer : ∀ line, IsAnswer output'.stdout line ↔ IsAnswer output.stdout line) :
    SameOutcome result result' := by
  by_cases hend : output.status = .code 0
  · by_cases hvalue : ∃ a line, IsAnswer output.stdout line ∧ spells line a
    · obtain ⟨a, hread⟩ := hvalue
      rw [(h.ok_iff a).mpr ⟨hend, hread⟩]
      simp only [← hanswer] at hread
      rw [(h'.ok_iff a).mpr ⟨hstatus.trans hend, hread⟩]
      exact .ok a
    · have hnone : ∀ line a, IsAnswer output.stdout line → ¬spells line a :=
        fun line a hline hspells => hvalue ⟨a, line, hline, hspells⟩
      obtain ⟨reason, rfl⟩ := h.malformed_iff.mpr ⟨hend, hnone⟩
      simp only [← hanswer] at hnone
      obtain ⟨other, rfl⟩ := h'.malformed_iff.mpr ⟨hstatus.trans hend, hnone⟩
      exact .malformed reason other
  · obtain ⟨reason, rfl⟩ := h.failed_iff.mpr hend
    obtain ⟨other, rfl⟩ := h'.failed_iff.mpr (by rwa [hstatus])
    exact .failed reason other

end Outcome

theorem signatureFrom_readsAnswer (tool : SignerTool) (output : ToolOutput) :
    ReadsAnswer SpellsBytes output (tool.signatureFrom output) := by
  refine readsAnswer_lastLine tool "sign" output (fun line a => ?_) (fun line e h => ?_)
  · rw [mapError_eq_ok, Hex.decodeMarked, Hex.decodeChars_eq_ok, SpellsBytes]
  · obtain ⟨fault, -, rfl⟩ := mapError_eq_error.mp h
    exact ⟨_, rfl⟩

theorem verdictFrom_readsAnswer (tool : SignerTool) (output : ToolOutput) :
    ReadsAnswer SpellsVerdict output (tool.verdictFrom output) := by
  refine readsAnswer_lastLine tool "verify" output (fun line a => ?_) (fun line e h => ?_)
  · rw [SpellsVerdict]
    split <;> cases a <;> simp_all [toString]
  · split at h
    · cases h
    · cases h
    · cases h
      exact ⟨_, rfl⟩

theorem sameOutcome_surround (tool : SignerTool) {output : ToolOutput} {front back : String}
    (hfront : Text.IsLines front.toList) (hback : Text.IsBlanks back.toList)
    (h : IsBlankText output.stdout → Text.IsBlanks front.toList) :
    SameOutcome (tool.signatureFrom output) (tool.signatureFrom (output.surround front back)) ∧
      SameOutcome (tool.verdictFrom output) (tool.verdictFrom (output.surround front back)) :=
  have hanswer := fun _ => isAnswer_surround hfront hback h
  ⟨(signatureFrom_readsAnswer tool output).sameOutcome (signatureFrom_readsAnswer tool _) rfl
      hanswer,
    (verdictFrom_readsAnswer tool output).sameOutcome (verdictFrom_readsAnswer tool _) rfl hanswer⟩

/-- Signing and verifying with a program that was run give what is read from its output, which is
its last line that is not blank and nothing else. Lines in front of the output and blanks behind it
change nothing, but for an output without such a line, which may be given one. -/
theorem answer_is_last_line {σ : Type} (tool : SignerTool) (runner : ToolRunner (StateM σ))
    (hprogram : ∀ text ∈ tool.program :: tool.baseArgs, '\x00' ∉ text.toList) :
    (∀ disk key hash state output after, '\x00' ∉ key.toList →
      runner.run tool.program (tool.baseArgs ++ ["sign", key, Hex.encode hash.bytes]) state =
        (.ok output, after) →
      (tool.signer disk runner).sign key hash state = (tool.signatureFrom output, after)) ∧
    (∀ publicKey hash signature state output after, '\x00' ∉ publicKey.toList →
      runner.run tool.program (tool.baseArgs ++
        ["verify", publicKey, Hex.encode hash.bytes, Hex.encode signature]) state =
          (.ok output, after) →
      tool.verifyKeyFile runner publicKey hash signature state =
        (tool.verdictFrom output, after)) ∧
    (∀ publicKey hash signature path state staged output ran after, '\x00' ∉ path.toList →
      runner.stage publicKey state = (.ok path, staged) →
      runner.run tool.program (tool.baseArgs ++
        ["verify", path, Hex.encode hash.bytes, Hex.encode signature]) staged =
          (.ok output, ran) →
      runner.unstage path ran = ((), after) →
      (tool.verifier runner).verify publicKey hash signature state =
        (tool.verdictFrom output, after)) ∧
    (∀ output, ReadsAnswer SpellsBytes output (tool.signatureFrom output) ∧
      ReadsAnswer SpellsVerdict output (tool.verdictFrom output)) ∧
    ∀ (output : ToolOutput) (front back : String), Text.IsLines front.toList →
      Text.IsBlanks back.toList → (IsBlankText output.stdout → Text.IsBlanks front.toList) →
      SameOutcome (tool.signatureFrom output) (tool.signatureFrom (output.surround front back)) ∧
        SameOutcome (tool.verdictFrom output) (tool.verdictFrom (output.surround front back)) := by
  refine ⟨?_, ?_, ?_, ?_, ?_⟩
  · intro disk key hash state output after hkey hrun
    exact sign_of_run hprogram hkey hrun
  · intro publicKey hash signature state output after hkey hrun
    exact verifyKeyFile_of_run hprogram hkey hrun
  · intro publicKey hash signature path state staged output ran after hpath hstage hrun hunstage
    exact verify_of_run hprogram hpath hstage hrun hunstage
  · intro output
    exact ⟨signatureFrom_readsAnswer tool output, verdictFrom_readsAnswer tool output⟩
  · intro output front back hfront hback h
    exact sameOutcome_surround tool hfront hback h

/-- Programs that all write what is to be written next. -/
def scriptedRunner : ToolRunner (StateM ToolOutput) where
  run _ _ output := (.ok output, output)
  stage _ output := (.ok "staged.key", output)
  unstage _ output := ((), output)

/-- A verdict is not taken from a line in front of the last one, from the end of a longer word, or
from a program that ended badly. A signature is read behind a log, and in capitals. -/
theorem answer_is_last_line_logged :
    let tool : SignerTool := ⟨"pq", ["--quiet"], "keys"⟩
    let written (stdout : String) : ToolOutput := ⟨.code 0, Bytes.ofString stdout, []⟩
    let verify (output : ToolOutput) :=
      ((tool.verifier scriptedRunner).verify [7] ⟨.zero 32⟩ [8] output).1
    (∀ text ∈ tool.program :: tool.baseArgs, '\x00' ∉ text.toList) ∧
      verify (written "true\n\tfalse \r\n \n") = .ok false ∧
      (∃ reason, verify (written "true\nuntrue") = .error (.malformedOutput reason)) ∧
      (∃ reason, verify ⟨.code 1, Bytes.ofString "true", []⟩ = .error (.failed reason)) ∧
      SameOutcome (.ok [0xab])
        (tool.signatureFrom ((written "0xAB").surround "INFO\n" "\r\n")) := by
  intro tool written verify
  have hprogram : ∀ text ∈ tool.program :: tool.baseArgs, '\x00' ∉ text.toList := by decide
  obtain ⟨-, -, hverify, hread, hsame⟩ := answer_is_last_line tool scriptedRunner hprogram
  have hcall (output : ToolOutput) : verify output = tool.verdictFrom output := by
    have hstaged : '\x00' ∉ "staged.key".toList := by decide
    exact congrArg Prod.fst
      (hverify [7] ⟨.zero 32⟩ [8] _ output _ output _ _ hstaged rfl rfl rfl)
  have hanswer {stdout line : String} (h : (answerLines stdout).getLast? = some line) :
      IsAnswer (written stdout).stdout line := ⟨stdout, rfl, getLast?_answerLines.mp h⟩
  refine ⟨hprogram, ?_, ?_, ?_, ?_⟩
  · rw [hcall, (hread _).2.ok_iff]
    exact ⟨rfl, "false", hanswer (by decide), rfl⟩
  · rw [hcall, (hread _).2.malformed_iff]
    have huntrue : IsAnswer (written "true\nuntrue").stdout "untrue" := hanswer (by decide)
    refine ⟨rfl, fun line isValid hline => ?_⟩
    rw [hline.unique huntrue, SpellsVerdict]
    revert isValid
    decide
  · rw [hcall, (hread _).2.failed_iff]
    decide
  · have hdigits : tool.signatureFrom (written "0xAB") = .ok [0xab] := by
      rw [(hread _).1.ok_iff]
      exact ⟨rfl, "0xAB", hanswer (by decide), by decide⟩
    rw [← hdigits]
    refine (hsame (written "0xAB") "INFO\n" "\r\n" (.inr ⟨"INFO".toList, rfl⟩) (by decide) ?_).1
    rintro ⟨text, htext, hblanks⟩
    obtain rfl := Utf8.ofString_injective htext
    exact absurd hblanks (by decide)

end SignerTool

end HybridTx
