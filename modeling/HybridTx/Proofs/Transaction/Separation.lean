import HybridTx.Proofs.Rlp.Extent
import HybridTx.Proofs.Transaction.Digest
import HybridTx.Proofs.Transaction.Wire

/-! The bytes that are hashed and the bytes that are sent, side by side. Each says where it ends and
how many fields it has, so that none of them is read as another one, or as the start of one. -/

namespace HybridTx

open Rlp Keccak

theorem decodeTagged_append {items : List Item} (hdepth : Item.depthAll items ≤ maxDepth)
    (hlength : (encodeTagged items).length < lengthBound) {extra : Bytes} (hextra : extra ≠ []) :
    decodeTagged (encodeTagged items ++ extra) = .error (.malformed .trailingBytes) := by
  rw [length_encodeTagged] at hlength
  rw [encodeTagged, List.cons_append, decodeTagged, if_pos rfl,
    decodeExact_encode_append (.list items) (by omega) hdepth hextra]
  rfl

/-- The tag alone is missing a field list; anything longer has one that is cut off. -/
theorem decodeTagged_cut {items : List Item} (hlength : (encodeTagged items).length < lengthBound)
    {cut rest : Bytes} (h : cut ++ rest = encodeTagged items) (hrest : rest ≠ []) :
    decodeTagged cut =
      .error (.malformed (if cut.length ≤ 1 then .emptyInput else .unexpectedEnd)) := by
  rw [length_encodeTagged] at hlength
  cases cut with
  | nil => rfl
  | cons tag cut =>
    obtain ⟨rfl, hcut⟩ := List.cons.inj h
    rw [decodeTagged, if_pos rfl, decodeExact_cut (by omega) hcut hrest]
    cases cut <;> rfl

/-- What is written as bytes that start with the tag: the fields to be signed, or a transaction to
be sent. -/
inductive Message
  | unsigned (tx : Transaction)
  | signed (tx : SignedTransaction)

namespace Message

/-- The two kinds of messages. -/
inductive Form
  | unsigned
  | signed
deriving DecidableEq

def form : Message → Form
  | unsigned _ => .unsigned
  | signed _ => .signed

/-- The number of fields of a message. -/
def Form.fieldCount : Form → Nat
  | unsigned => unsignedFieldCount
  | signed => signedFieldCount

theorem Form.fieldCount_inj {form other : Form} (h : form.fieldCount = other.fieldCount) :
    form = other := by
  revert h
  cases form <;> cases other <;> decide

/-- The bytes of a message. -/
def encode : Message → Bytes
  | unsigned tx => tx.signingPayload
  | signed tx => tx.encode

/-- Reads a message of this form. -/
def Form.decode : Form → Bytes → Except TransactionError Message
  | unsigned, bytes => (Transaction.decode bytes).map .unsigned
  | signed, bytes => (SignedTransaction.decode bytes).map .signed

def toItems : Message → List Item
  | unsigned tx => tx.toItems
  | signed tx => tx.toItems

theorem encode_eq (message : Message) : message.encode = encodeTagged message.toItems := by
  cases message <;> rfl

theorem length_toItems (message : Message) : message.toItems.length = message.form.fieldCount := by
  cases message <;> rfl

theorem depth_toItems (message : Message) : Item.depthAll message.toItems ≤ maxDepth := by
  have hdepth : 4 ≤ maxDepth := by decide
  cases message with
  | unsigned tx => exact le_trans tx.depth_toItems hdepth
  | signed tx => exact le_trans tx.depth_toItems hdepth

theorem toItems_inj {message other : Message} (h : message.toItems = other.toItems) :
    message = other := by
  have hform : message.form = other.form :=
    Form.fieldCount_inj (by rw [← length_toItems, h, length_toItems])
  cases message with
  | unsigned tx =>
    cases other with
    | unsigned other => rw [Transaction.toItems_inj h]
    | signed other => cases hform
  | signed tx =>
    cases other with
    | unsigned other => cases hform
    | signed other => rw [SignedTransaction.toItems_inj h]

theorem decodeTagged_encode {message : Message} (hlength : message.encode.length < lengthBound) :
    decodeTagged message.encode = .ok message.toItems :=
  decodeTagged_eq_ok.mpr ⟨message.depth_toItems, hlength.le, message.encode_eq⟩

theorem encode_append_inj (message other : Message)
    (hlength : message.encode.length < lengthBound) (hother : other.encode.length < lengthBound)
    {u v : Bytes} (h : message.encode ++ u = other.encode ++ v) : message = other ∧ u = v := by
  simp only [encode_eq] at hlength hother h
  obtain ⟨hitems, hrest⟩ :=
    encodeTagged_append_inj message.depth_toItems other.depth_toItems hlength.le hother.le h
  exact ⟨toItems_inj hitems, hrest⟩

namespace Form

/-- Bytes that hold no item list are refused as such. -/
theorem decode_of_error (form : Form) {bytes : Bytes} {e : TransactionError}
    (h : decodeTagged bytes = .error e) : form.decode bytes = .error e := by
  cases form with
  | unsigned => rw [decode, Transaction.decode, h]; rfl
  | signed => rw [decode, SignedTransaction.decode_of_error h]; rfl

/-- An item list of any other length is refused for its length. -/
theorem decode_of_length {form : Form} {bytes : Bytes} {items : List Item}
    (h : decodeTagged bytes = .ok items) (hcount : items.length ≠ form.fieldCount) :
    form.decode bytes = .error (.fieldCount form.fieldCount items.length) := by
  cases form with
  | unsigned =>
    rw [decode, Transaction.decode, h]
    simp only [bind, Except.bind]
    split
    · exact absurd rfl hcount
    · rfl
  | signed => rw [decode, SignedTransaction.decode_of_length h hcount]; rfl

/-- The reader of the other form finds the wrong number of fields. -/
theorem decode_encode_of_ne {form : Form} {message : Message}
    (hlength : message.encode.length < lengthBound) (hform : form ≠ message.form) :
    form.decode message.encode = .error (.fieldCount form.fieldCount message.form.fieldCount) := by
  rw [← message.length_toItems]
  apply decode_of_length (decodeTagged_encode hlength)
  rw [message.length_toItems]
  exact fun hcount => hform (fieldCount_inj hcount.symm)

end Form

end Message

/-- Of two messages, with anything behind them, the bytes are the same only if the messages are, and
what is behind them. The reader of the other form finds the wrong number of fields, and the own one
misses bytes that are cut off and refuses bytes that are added. -/
theorem messages_unambiguous (message : Message) (hlength : message.encode.length < lengthBound) :
    (∀ (other : Message) (u v : Bytes), other.encode.length < lengthBound →
      message.encode ++ u = other.encode ++ v → message = other ∧ u = v) ∧
    (∀ tx : Transaction, message = .unsigned tx →
      tx.hash = ⟨keccak256 tx.signingPayload⟩ ∧
      (∀ signed : SignedTransaction, signed.encode.length < lengthBound →
        ¬tx.signingPayload <+: signed.encode) ∧
      ∀ other : Transaction, other.signingPayload.length < lengthBound → tx ≠ other →
        tx.hash = other.hash → tx.signingPayload ≠ other.signingPayload ∧
          keccak256 tx.signingPayload = keccak256 other.signingPayload) ∧
    (∀ form : Message.Form, form ≠ message.form →
      form.decode message.encode =
        .error (.fieldCount form.fieldCount message.form.fieldCount)) ∧
    (∀ cut rest : Bytes, cut ++ rest = message.encode → rest ≠ [] →
      message.form.decode cut =
        .error (.malformed (if cut.length ≤ 1 then .emptyInput else .unexpectedEnd))) ∧
    ∀ extra : Bytes, extra ≠ [] →
      message.form.decode (message.encode ++ extra) = .error (.malformed .trailingBytes) := by
  refine ⟨?_, ?_, ?_, ?_, ?_⟩
  · intro other u v hother h
    exact Message.encode_append_inj message other hlength hother h
  · rintro tx rfl
    refine ⟨tx.hash_eq, ?_, ?_⟩
    · rintro signed hsigned ⟨rest, hprefix⟩
      have h : (Message.unsigned tx).encode ++ rest = (Message.signed signed).encode ++ [] := by
        rw [List.append_nil]
        exact hprefix
      cases (Message.encode_append_inj _ (.signed signed) hlength hsigned h).1
    · intro other hother hne hhash
      rw [tx.hash_eq, other.hash_eq] at hhash
      refine ⟨fun hbytes => hne ?_, congrArg TxHash.toFixedBytes hhash⟩
      have h : (Message.unsigned tx).encode ++ [] = (Message.unsigned other).encode ++ [] :=
        congrArg (· ++ []) hbytes
      have hsame := (Message.encode_append_inj _ (.unsigned other) hlength hother h).1
      exact Message.unsigned.inj hsame
  · intro form hform
    exact Message.Form.decode_encode_of_ne hlength hform
  · intro cut rest h hrest
    rw [Message.encode_eq] at h hlength
    exact message.form.decode_of_error (decodeTagged_cut hlength h hrest)
  · intro extra hextra
    rw [Message.encode_eq] at hlength ⊢
    exact message.form.decode_of_error (decodeTagged_append message.depth_toItems hlength hextra)

/-- The empty transaction is not the start of itself with signatures, nor read as a signed one. It
is not read without its last byte, nor with one more. -/
theorem messages_unambiguous_empty :
    let message := Message.unsigned {}
    let start : Bytes := [0x05, 0xc9] ++ List.replicate 8 0x80
    let signed : SignedTransaction := ⟨{}, ⟨1, 7, 9⟩, [], []⟩
    message.encode = start ++ [0xc0] ∧ message.encode.length < lengthBound ∧
      signed.encode.length < lengthBound ∧ ¬start ++ [0xc0] <+: signed.encode ∧
      Message.Form.signed.decode (start ++ [0xc0]) = .error (.fieldCount 14 9) ∧
      Message.Form.unsigned.decode start = .error (.malformed .unexpectedEnd) ∧
      Message.Form.unsigned.decode (start ++ [0xc0] ++ [0x00]) =
        .error (.malformed .trailingBytes) := by
  intro message start signed
  have hencode : message.encode = start ++ [0xc0] := by decide
  have hlength : message.encode.length < lengthBound := by decide
  have hsigned : signed.encode.length < lengthBound := by decide
  obtain ⟨-, hunsigned, hother, hcut, hadded⟩ := messages_unambiguous message hlength
  refine ⟨hencode, hlength, hsigned, ?_, ?_, ?_, ?_⟩
  · rw [← hencode]
    exact (hunsigned {} rfl).2.1 signed hsigned
  · rw [← hencode]
    exact hother .signed (by decide)
  · exact hcut start [0xc0] hencode.symm (by decide)
  · rw [← hencode]
    exact hadded [0x00] (by decide)

end HybridTx
