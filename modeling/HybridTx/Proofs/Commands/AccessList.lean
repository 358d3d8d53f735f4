import HybridTx.Commands.Fields
import HybridTx.Proofs.Text.Lines
import HybridTx.Proofs.Transaction.Texts

/-! The arguments that are read as entries of the access list: an address, and behind a colon the
digits of storage keys with commas between them. Every key that is not blank is read as the number
that it spells, and one argument that spells no entry spoils the whole transaction. -/

namespace HybridTx

/-- The digits of a storage key, with blanks around them or not: an even number of digits, no more
than 32 bytes have. -/
structure IsKeyText (text digits : List Char) : Prop where
  marked : Hex.IsMarked (Text.trimChars text) digits
  even : digits.length % 2 = 0
  short : digits.length ≤ 64

/-- An argument is the digits of an account up to its first colon, and parts with commas between
them behind it. Without a colon there is one empty part. -/
def IsEntryText (text account : List Char) (parts : List (List Char)) : Prop :=
  ∃ before behind, Text.IsCut ':' text before behind ∧ Hex.IsMarked before account ∧
    account.length = 40 ∧ Text.IsSplit ',' behind parts

/-- An argument is that of an entry: every part of it is blank or the digits of a key. -/
def SpellsEntry (text : List Char) : Prop :=
  ∃ account parts, IsEntryText text account parts ∧
    ∀ part ∈ parts, Text.IsBlanks part ∨ ∃ digits, IsKeyText part digits

namespace AccessEntry

/-- An argument is that of a given entry: its account, and its keys in the order of the parts that
are not blank, each of the value that the part spells. -/
def IsSpelledBy (entry : AccessEntry) (text : List Char) : Prop :=
  ∃ account parts, IsEntryText text account parts ∧
    account.map Char.toLower = entry.address.toHex.toList ∧
    List.Forall₂
      (fun part key => ∃ digits, IsKeyText part digits ∧ key.toNat = Text.digitsToNat 16 0 digits)
      (parts.filter fun part => ¬Text.IsBlanks part) entry.storageKeys

end AccessEntry

section Key

variable {part digits : List Char}

theorem isKeyText_iff :
    IsKeyText part digits ↔ Hex.IsMarked (Text.trimChars part) digits ∧
      ∃ bytes, digits.map Char.toLower = Hex.encodeChars bytes ∧ bytes.length ≤ 32 := by
  constructor
  · rintro ⟨hmarked, heven, hshort⟩
    obtain ⟨bytes, hbytes⟩ := Hex.exists_encodeChars_iff.mpr ⟨heven, hmarked.2⟩
    have hlength := Hex.length_of_toLower hbytes
    exact ⟨hmarked, bytes, hbytes, by omega⟩
  · rintro ⟨hmarked, bytes, hbytes, hshort⟩
    have hlength := Hex.length_of_toLower hbytes
    exact ⟨hmarked, by omega, by omega⟩

theorem readDigits_eq_ok {name : String} {bytes : Bytes} :
    readDigits name (String.ofList part) = .ok bytes ↔
      ∃ digits, Hex.IsMarked (Text.trimChars part) digits ∧
        digits.map Char.toLower = Hex.encodeChars bytes := by
  rw [readDigits, mapError_eq_ok, Hex.decodeMarked, Text.trim, String.toList_ofList,
    String.toList_ofList, Hex.decodeChars_dropHexMark_eq_ok]

theorem readStorageKey_eq_ok_iff {text : String} {key : FixedBytes 32} :
    readStorageKey text = .ok key ↔
      ∃ bytes, readDigits "storage key" text = .ok bytes ∧
        FixedBytes.leftPad? 32 bytes = some key := by
  rw [readStorageKey, bind_eq_ok]
  refine exists_congr fun bytes => and_congr_right fun _ => ?_
  cases FixedBytes.leftPad? 32 bytes <;> simp

/-- A key is read as the number that its digits spell. -/
theorem readStorageKey_eq_ok {key : FixedBytes 32} :
    readStorageKey (String.ofList part) = .ok key ↔
      ∃ digits, IsKeyText part digits ∧ key.toNat = Text.digitsToNat 16 0 digits := by
  simp only [readStorageKey_eq_ok_iff, readDigits_eq_ok, FixedBytes.leftPad?_eq_some_iff,
    isKeyText_iff]
  constructor
  · rintro ⟨bytes, ⟨digits, hmarked, hbytes⟩, hshort, hvalue⟩
    rw [← Hex.digitsToNat_of_toLower hbytes] at hvalue
    exact ⟨digits, ⟨hmarked, bytes, hbytes, hshort⟩, hvalue⟩
  · rintro ⟨digits, ⟨hmarked, bytes, hbytes, hshort⟩, hvalue⟩
    rw [Hex.digitsToNat_of_toLower hbytes] at hvalue
    exact ⟨bytes, ⟨digits, hmarked, hbytes⟩, hshort, hvalue⟩

theorem exists_readStorageKey_iff :
    (∃ key, readStorageKey (String.ofList part) = .ok key) ↔ ∃ digits, IsKeyText part digits := by
  simp only [readStorageKey_eq_ok_iff, readDigits_eq_ok, isKeyText_iff]
  constructor
  · rintro ⟨key, bytes, ⟨digits, hmarked, hbytes⟩, hkey⟩
    exact ⟨digits, hmarked, bytes, hbytes, FixedBytes.exists_leftPad?_iff.mp ⟨key, hkey⟩⟩
  · rintro ⟨digits, hmarked, bytes, hbytes, hshort⟩
    obtain ⟨key, hkey⟩ := FixedBytes.exists_leftPad?_iff.mpr hshort
    exact ⟨key, bytes, ⟨digits, hmarked, hbytes⟩, hkey⟩

end Key

section Keys

variable {text : List Char} {parts : List (List Char)}

theorem readStorageKeys_of_isSplit (h : Text.IsSplit ',' text parts) :
    readStorageKeys text =
      (parts.filter fun part => ¬Text.IsBlanks part).mapM (readStorageKey ∘ String.ofList) := by
  simp only [readStorageKeys, Text.splitAt_eq_iff.mpr h, ne_eq, Text.trimChars_eq_nil_iff]

theorem readStorageKeys_eq_ok (h : Text.IsSplit ',' text parts) {keys : List (FixedBytes 32)} :
    readStorageKeys text = .ok keys ↔
      List.Forall₂
        (fun part key => ∃ digits, IsKeyText part digits ∧
          key.toNat = Text.digitsToNat 16 0 digits)
        (parts.filter fun part => ¬Text.IsBlanks part) keys := by
  simp only [readStorageKeys_of_isSplit h, mapM_eq_ok_iff_forall₂, Function.comp_apply,
    readStorageKey_eq_ok]

theorem exists_readStorageKeys_iff (h : Text.IsSplit ',' text parts) :
    (∃ keys, readStorageKeys text = .ok keys) ↔
      ∀ part ∈ parts, Text.IsBlanks part ∨ ∃ digits, IsKeyText part digits := by
  simp only [readStorageKeys_of_isSplit h, exists_mapM_eq_ok, Function.comp_apply,
    exists_readStorageKey_iff, List.mem_filter, decide_eq_true_eq, and_imp, or_iff_not_imp_left]

end Keys

section Entry

variable {text : String} {before behind : List Char}

theorem readAccessEntry_eq_ok_iff (h : Text.IsCut ':' text.toList before behind)
    {entry : AccessEntry} :
    readAccessEntry text = .ok entry ↔ Address.ofHex (String.ofList before) = .ok entry.address ∧
      readStorageKeys behind = .ok entry.storageKeys := by
  obtain ⟨rfl, rfl⟩ := Text.isCut_iff.mp h
  simp only [readAccessEntry, bind_eq_ok, mapError_eq_ok]
  constructor
  · rintro ⟨address, haddress, keys, hkeys, hentry⟩
    cases hentry
    exact ⟨haddress, hkeys⟩
  · rintro ⟨haddress, hkeys⟩
    exact ⟨_, haddress, _, hkeys, rfl⟩

theorem exists_readAccessEntry_iff (h : Text.IsCut ':' text.toList before behind) :
    (∃ entry, readAccessEntry text = .ok entry) ↔
      (∃ address, Address.ofHex (String.ofList before) = .ok address) ∧
        ∃ keys, readStorageKeys behind = .ok keys := by
  simp only [readAccessEntry_eq_ok_iff h]
  constructor
  · rintro ⟨entry, haddress, hkeys⟩
    exact ⟨⟨_, haddress⟩, _, hkeys⟩
  · rintro ⟨⟨address, haddress⟩, keys, hkeys⟩
    exact ⟨⟨address, keys⟩, haddress, hkeys⟩

theorem exists_cut_split (text : List Char) :
    ∃ before behind parts, Text.IsCut ':' text before behind ∧ Text.IsSplit ',' behind parts :=
  ⟨_, _, _, Text.isCut_iff.mpr ⟨rfl, rfl⟩, Text.splitAt_eq_iff.mp rfl⟩

/-- An argument is read just when it spells an entry. -/
theorem exists_entry_iff :
    (∃ entry, readAccessEntry text = .ok entry) ↔ SpellsEntry text.toList := by
  constructor
  · intro h
    obtain ⟨before, behind, parts, hcut, hsplit⟩ := exists_cut_split text.toList
    rw [exists_readAccessEntry_iff hcut, Address.exists_ofHex_iff,
      exists_readStorageKeys_iff hsplit, String.toList_ofList] at h
    obtain ⟨⟨account, hmarked, hlength⟩, hparts⟩ := h
    exact ⟨account, parts, ⟨before, behind, hcut, hmarked, hlength, hsplit⟩, hparts⟩
  · rintro ⟨account, parts, ⟨before, behind, hcut, hmarked, hlength, hsplit⟩, hparts⟩
    rw [exists_readAccessEntry_iff hcut, Address.exists_ofHex_iff,
      exists_readStorageKeys_iff hsplit, String.toList_ofList]
    exact ⟨⟨account, hmarked, hlength⟩, hparts⟩

theorem readAccessEntry_eq_ok {entry : AccessEntry} :
    readAccessEntry text = .ok entry ↔ entry.IsSpelledBy text.toList := by
  constructor
  · intro h
    obtain ⟨before, behind, parts, hcut, hsplit⟩ := exists_cut_split text.toList
    rw [readAccessEntry_eq_ok_iff hcut, Address.ofHex_eq_ok, readStorageKeys_eq_ok hsplit,
      String.toList_ofList] at h
    obtain ⟨⟨account, hmarked, hlength, haddress⟩, hkeys⟩ := h
    exact ⟨account, parts, ⟨before, behind, hcut, hmarked, hlength, hsplit⟩, haddress, hkeys⟩
  · rintro ⟨account, parts, ⟨before, behind, hcut, hmarked, hlength, hsplit⟩, haddress, hkeys⟩
    rw [readAccessEntry_eq_ok_iff hcut, Address.ofHex_eq_ok, readStorageKeys_eq_ok hsplit,
      String.toList_ofList]
    exact ⟨⟨account, hmarked, hlength, haddress⟩, hkeys⟩

end Entry

namespace FieldArgs

/-- The chain that is named, or else the one that is configured. -/
def readChainId (args : FieldArgs) (chain : ChainConfig) : Except CommandError Nat :=
  args.chainId.elim (.ok chain.chainId.toNat) (readAmount "chain-id")

/-- Each field of a transaction is the one that was given for it, or else the one that is
configured. -/
structure Describes (args : FieldArgs) (chain : ChainConfig) (tx : Transaction) : Prop where
  chainId : args.readChainId chain = .ok tx.chainId
  nonce : args.nonce = tx.nonce
  maxPriorityFee : readAmount "max-priority-fee" (args.maxPriorityFee.getD chain.maxPriorityFee) =
    .ok tx.maxPriorityFee
  maxFee : readAmount "max-fee" (args.maxFee.getD chain.maxFee) = .ok tx.maxFee
  gasLimit : args.gasLimit.getD chain.gasLimit = tx.gasLimit
  recipient : args.readRecipient = .ok tx.recipient
  accessList : args.access.mapM readAccessEntry = .ok tx.accessList
  value : readAmount "value" args.value = .ok tx.value
  data : readDigits "data" args.data = .ok tx.data

variable {args : FieldArgs} {chain : ChainConfig} {tx : Transaction}

theorem toTransaction_eq_ok : args.toTransaction chain = .ok tx ↔ args.Describes chain tx := by
  constructor
  · cases hchain : args.chainId
    all_goals
      simp only [toTransaction, hchain, bind_eq_ok]
      rintro ⟨_, hid, _, hpriority, _, hmax, _, hrecipient, _, haccess, _, hvalue, _, hdata, htx⟩
      cases htx
      refine ⟨?_, rfl, hpriority, hmax, rfl, hrecipient, haccess, hvalue, hdata⟩
      simpa only [readChainId, hchain, Option.elim_none, Option.elim_some] using hid
  · rintro ⟨hid, hnonce, hpriority, hmax, hgas, hrecipient, haccess, hvalue, hdata⟩
    cases hchain : args.chainId
    all_goals
      simp only [readChainId, hchain, Option.elim_none, Option.elim_some] at hid
      simp only [toTransaction, hchain, bind_eq_ok]
      refine ⟨_, hid, _, hpriority, _, hmax, _, hrecipient, _, haccess, _, hvalue, _, hdata, ?_⟩
      rw [hnonce, hgas]

/-- The access list is read apart from the other fields. -/
theorem toTransaction_eq_ok_iff :
    args.toTransaction chain = .ok tx ↔
      ∃ base entries, { args with access := [] }.toTransaction chain = .ok base ∧
        args.access.mapM readAccessEntry = .ok entries ∧
        tx = { base with accessList := entries } := by
  simp only [toTransaction_eq_ok]
  constructor
  · intro h
    exact ⟨{ tx with accessList := [] }, tx.accessList, { h with accessList := rfl }, h.accessList,
      rfl⟩
  · rintro ⟨base, entries, h, hentries, rfl⟩
    exact { h with accessList := hentries }

end FieldArgs

/-- An argument is read just when it is that of an entry, and gives the account and the keys that it
spells, in their order. A transaction has the entries of its arguments one by one, and there is none
when an argument is that of no entry. -/
theorem access_list_read_as_spelled :
    (∀ text : String, (∃ entry, readAccessEntry text = .ok entry) ↔ SpellsEntry text.toList) ∧
    (∀ (text : String) (entry : AccessEntry),
      readAccessEntry text = .ok entry ↔ entry.IsSpelledBy text.toList) ∧
    ∀ (args : FieldArgs) (chain : ChainConfig),
      (∀ tx, args.toTransaction chain = .ok tx ↔
        ∃ base entries, { args with access := [] }.toTransaction chain = .ok base ∧
          List.Forall₂ (fun text entry => entry.IsSpelledBy text.toList) args.access entries ∧
          tx = { base with accessList := entries }) ∧
      ∀ text ∈ args.access, ¬SpellsEntry text.toList →
        ∃ e, args.toTransaction chain = .error e := by
  refine ⟨fun _ => exists_entry_iff, fun _ _ => readAccessEntry_eq_ok, fun args chain => ⟨?_, ?_⟩⟩
  · intro tx
    rw [FieldArgs.toTransaction_eq_ok_iff]
    simp only [mapM_eq_ok_iff_forall₂, readAccessEntry_eq_ok]
  · intro text htext hbad
    cases hread : args.toTransaction chain with
    | error e => exact ⟨e, rfl⟩
    | ok tx =>
      obtain ⟨_, entries, -, hentries, -⟩ := FieldArgs.toTransaction_eq_ok_iff.mp hread
      exact absurd (exists_entry_iff.mp (exists_mapM_eq_ok.mp ⟨entries, hentries⟩ text htext)) hbad

/-- One digit is no key, and the whole is refused for it, though the argument before it is that of
an entry. -/
theorem access_list_read_as_spelled_odd :
    let text := "0xdededededededededededededededededededede: 0x1"
    let args : FieldArgs := { access := ["DEDEDEDEDEDEDEDEDEDEDEDEDEDEDEDEDEDEDEDE:0x01,,", text] }
    text ∈ args.access ∧ ¬SpellsEntry text.toList ∧ ∃ e, args.toTransaction {} = .error e := by
  intro text args
  have htext : text ∈ args.access := List.mem_cons_of_mem _ List.mem_cons_self
  have hbad : ¬SpellsEntry text.toList := by
    rintro ⟨account, parts, ⟨before, behind, hcut, -, -, hsplit⟩, hparts⟩
    obtain ⟨-, rfl⟩ := Text.isCut_iff.mp hcut
    obtain rfl := Text.splitAt_eq_iff.mpr hsplit
    have hpart : " 0x1".toList ∈ Text.splitAt ',' ((Text.cutAt ':' text.toList).2.getD []) := by
      decide +kernel
    obtain hblank | ⟨digits, hmarked, heven, -⟩ := hparts _ hpart
    · exact absurd hblank (by decide)
    · obtain ⟨rfl, -⟩ := Hex.isMarked_iff.mp hmarked
      exact absurd heven (by decide)
  exact ⟨htext, hbad, (access_list_read_as_spelled.2.2 args {}).2 text htext hbad⟩

end HybridTx
