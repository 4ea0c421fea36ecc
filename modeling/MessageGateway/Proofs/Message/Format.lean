import MessageGateway.Proofs.Message.Decoding

/-!
# The format of messages

The messages of the gateway written out kind by kind (`Message`): which fields they have, with
values that are in range by their types, how these fields lie on the wire one behind the other
(`Message.fields`), and what a record shows of them under which names (`Message.members`). None of
this mentions layouts. Decoding the tag of a kind and the fields of a message, whatever follows
them, gives a record that shows just these members.

## Main definitions

* `MessageGateway.Unsigned`, `MessageGateway.Counted`, `MessageGateway.Sized`.
* `MessageGateway.CrossChainFields`, `MessageGateway.RegistryFields`, `MessageGateway.Message`.
* `MessageGateway.Message.kind`, `MessageGateway.Message.fields`, `MessageGateway.Message.members`.

## Main results

* `MessageGateway.Message.spells_values`, `MessageGateway.Message.members_ofValues`.
* `MessageGateway.Message.decode_body`.
-/

namespace MessageGateway

/-! ### Values in range -/

/-- The numbers of so many bytes. -/
abbrev Unsigned (width : Nat) := Fin (256 ^ width)

/-- The lists whose length fits into a count of four bytes. -/
abbrev Counted (α : Type) := {items : List α // items.length < 2 ^ 32}

/-- The byte strings of the given size. -/
abbrev Sized (size : Nat) := {bs : Bytes // bs.length = size}

/-- The fields of the two cross-chain messages. -/
structure CrossChainFields where
  txId : Unsigned 16
  sourceChain : Unsigned 8
  destChain : Unsigned 8
  sender : Counted UInt8
  recipient : Counted UInt8
  onChainData : Counted UInt8
  offChainData : Counted UInt8
  signatures : Counted (Sized 64 × Sized 32)

/-- The fields that every message about a signer registry starts with. -/
structure RegistryFields where
  registryType : Unsigned 1
  chain : Unsigned 8

/-- The messages of the gateway with their fields. A flag is given by its byte. -/
inductive Message where
  | initializeGateway (chain : Unsigned 8)
  | sendMessage (txId : Unsigned 16) (recipient : Counted UInt8) (destChain : Unsigned 8)
      (chainData : Counted UInt8) (confirmations : Unsigned 2)
  | createTxPda (message : CrossChainFields)
  | processMessage (message : CrossChainFields)
  | setSystemEnabled (enabled : UInt8)
  | initializeSignerRegistry (registry : RegistryFields) (signers : Counted (Sized 32))
      (required : Unsigned 1)
  | updateSigners (registry : RegistryFields) (signers : Counted (Sized 32))
      (required : Unsigned 1)
  | addSigner (registry : RegistryFields) (signer : Sized 32)
  | removeSigner (registry : RegistryFields) (signer : Sized 32)
  | updateThreshold (registry : RegistryFields) (threshold : Unsigned 1)
  | setRegistryEnabled (registry : RegistryFields) (enabled : UInt8)
  | sendRequested (txId : Unsigned 16) (sender : Sized 32) (recipient : Counted UInt8)
      (destChain : Unsigned 8) (chainData : Counted UInt8) (confirmations : Unsigned 2)
  | txPdaCreated (txId : Unsigned 16) (sourceChain : Unsigned 8)
  | messageProcessed (txId : Unsigned 16) (sourceChain : Unsigned 8) (relayer : Sized 32)
  | systemStatusChanged (enabled : UInt8)

/-! ### Bytes -/

/-- The bytes of a number, least significant first. -/
def Unsigned.bytes {width : Nat} (n : Unsigned width) : Bytes :=
  Bytes.ofNatLE width n.val

namespace Counted

/-- A byte string behind its length. -/
def blobBytes (bs : Counted UInt8) : Bytes :=
  Bytes.ofNatLE 4 bs.val.length ++ bs.val

/-- Public keys behind their count. -/
def keyBytes (keys : Counted (Sized 32)) : Bytes :=
  Bytes.ofNatLE 4 keys.val.length ++ keys.val.flatMap fun k => k.val

/-- Signatures, each with its signer's public key, behind their count. -/
def signatureBytes (entries : Counted (Sized 64 × Sized 32)) : Bytes :=
  Bytes.ofNatLE 4 entries.val.length ++ entries.val.flatMap fun e => e.1.val ++ e.2.val

end Counted

/-- The fields of a cross-chain message in the order of the wire. -/
def CrossChainFields.fields (m : CrossChainFields) : List Bytes :=
  [m.txId.bytes, m.sourceChain.bytes, m.destChain.bytes, m.sender.blobBytes,
    m.recipient.blobBytes, m.onChainData.blobBytes, m.offChainData.blobBytes,
    m.signatures.signatureBytes]

namespace Message

/-- The kind of a message. -/
def kind : Message → Kind
  | .initializeGateway .. => .initializeGateway
  | .sendMessage .. => .sendMessage
  | .createTxPda .. => .createTxPda
  | .processMessage .. => .processMessage
  | .setSystemEnabled .. => .setSystemEnabled
  | .initializeSignerRegistry .. => .initializeSignerRegistry
  | .updateSigners .. => .updateSigners
  | .addSigner .. => .addSigner
  | .removeSigner .. => .removeSigner
  | .updateThreshold .. => .updateThreshold
  | .setRegistryEnabled .. => .setRegistryEnabled
  | .sendRequested .. => .sendRequested
  | .txPdaCreated .. => .txPdaCreated
  | .messageProcessed .. => .messageProcessed
  | .systemStatusChanged .. => .systemStatusChanged

/-- The fields of a message in the order of the wire. -/
def fields : Message → List Bytes
  | .initializeGateway chain => [chain.bytes]
  | .sendMessage txId recipient destChain chainData confirmations =>
    [txId.bytes, recipient.blobBytes, destChain.bytes, chainData.blobBytes, confirmations.bytes]
  | .createTxPda m | .processMessage m => m.fields
  | .setSystemEnabled enabled => [[enabled]]
  | .initializeSignerRegistry r signers required | .updateSigners r signers required =>
    [r.registryType.bytes, r.chain.bytes, signers.keyBytes, required.bytes]
  | .addSigner r signer | .removeSigner r signer =>
    [r.registryType.bytes, r.chain.bytes, signer.val]
  | .updateThreshold r threshold => [r.registryType.bytes, r.chain.bytes, threshold.bytes]
  | .setRegistryEnabled r enabled => [r.registryType.bytes, r.chain.bytes, [enabled]]
  | .sendRequested txId sender recipient destChain chainData confirmations =>
    [txId.bytes, sender.val, recipient.blobBytes, destChain.bytes, chainData.blobBytes,
      confirmations.bytes]
  | .txPdaCreated txId sourceChain => [txId.bytes, sourceChain.bytes]
  | .messageProcessed txId sourceChain relayer => [txId.bytes, sourceChain.bytes, relayer.val]
  | .systemStatusChanged enabled => [[enabled]]

/-- What lies behind the tag of a message: its fields, one behind the other. -/
def body (m : Message) : Bytes :=
  m.fields.flatten

end Message

/-! ### What is shown -/

namespace Unsigned

variable {width : Nat}

/-- A number as it is. -/
def number (n : Unsigned width) : Json := .number n.val

/-- A number in decimal. -/
def decimal (n : Unsigned width) : Json := .text (toString n.val)

/-- The name of the chain with a number, or the number. -/
def chainName (n : Unsigned width) : Json :=
  .text ((ChainId.named.lookup (n.val : Int)).getD ("Chain " ++ toString n.val))

/-- The name of the kind of signer registries with a number, or the number. -/
def registryName (n : Unsigned width) : Json :=
  .text ((namedRegistries.lookup (n.val : Int)).getD ("Unknown(" ++ toString n.val ++ ")"))

end Unsigned

/-- A public key in base 58. -/
def Sized.key (bs : Sized 32) : Json := .text (Base58.encode bs.val)

namespace Counted

/-- The length of a list. -/
def size {α : Type} (items : Counted α) : Json := .number items.val.length

/-- A byte string in hexadecimal. -/
def hex (bs : Counted UInt8) : Json := .text (Hex.encode bs.val)

/-- A byte string as the text that it encodes. -/
def utf8 (bs : Counted UInt8) : Json := .text (Utf8.decode bs.val)

/-- An address: in base 58 where it has the size of a public key, else in hexadecimal. -/
def address (bs : Counted UInt8) : Json :=
  .text (if bs.val.length = 32 then Base58.encode bs.val else Hex.encode bs.val)

/-- Public keys in base 58. -/
def keys (ks : Counted (Sized 32)) : Json := .array (ks.val.map Sized.key)

/-- A signature in hexadecimal, with its signer's public key. -/
def signature (e : Sized 64 × Sized 32) : Json :=
  .object [("signature", .text (Hex.encode e.1.val)), ("signer", e.2.key)]

/-- Signatures, each with its signer's public key. -/
def signatures (entries : Counted (Sized 64 × Sized 32)) : Json :=
  .array (entries.val.map signature)

end Counted

/-- What a record shows of the fields of a cross-chain message. -/
def CrossChainFields.members (m : CrossChainFields) : List (String × Json) :=
  [("tx_id", m.txId.decimal), ("source_chain_id", m.sourceChain.decimal),
    ("source_chain_name", m.sourceChain.chainName), ("dest_chain_id", m.destChain.decimal),
    ("dest_chain_name", m.destChain.chainName), ("sender", m.sender.address),
    ("sender_length", m.sender.size), ("recipient", m.recipient.address),
    ("recipient_length", m.recipient.size), ("on_chain_data", m.onChainData.utf8),
    ("on_chain_data_hex", m.onChainData.hex), ("off_chain_data", m.offChainData.utf8),
    ("off_chain_data_hex", m.offChainData.hex), ("signatures", m.signatures.signatures),
    ("signature_count", m.signatures.size)]

/-- What a record shows of the fields that a message about a signer registry starts with. -/
def RegistryFields.members (r : RegistryFields) : List (String × Json) :=
  [("registry_type", r.registryType.registryName), ("registry_type_value", r.registryType.number),
    ("chain_id", r.chain.decimal), ("chain_name", r.chain.chainName)]

/-- What a record shows of a message, its label included. -/
def Message.members : Message → List (String × Json)
  | .initializeGateway chain =>
    [("chain_id", chain.decimal), ("chain_name", chain.chainName),
      ("instruction", .text "initialize_gateway")]
  | .sendMessage txId recipient destChain chainData confirmations =>
    [("tx_id", txId.decimal), ("recipient", recipient.address),
      ("recipient_length", recipient.size), ("dest_chain_id", destChain.decimal),
      ("dest_chain_name", destChain.chainName), ("chain_data", chainData.utf8),
      ("chain_data_hex", chainData.hex), ("confirmations", confirmations.number),
      ("instruction", .text "send_message")]
  | .createTxPda m => ("instruction", .text "create_tx_pda") :: m.members
  | .processMessage m => ("instruction", .text "process_message") :: m.members
  | .setSystemEnabled enabled =>
    [("enabled", .flag (enabled != 0)), ("instruction", .text "set_system_enabled")]
  | .initializeSignerRegistry r signers required =>
    r.members ++ [("signers", signers.keys), ("signer_count", signers.size),
      ("required_signatures", required.number), ("instruction", .text "initialize_signer_registry")]
  | .updateSigners r signers required =>
    r.members ++ [("new_signers", signers.keys), ("signer_count", signers.size),
      ("new_required_signatures", required.number), ("instruction", .text "update_signers")]
  | .addSigner r signer =>
    r.members ++ [("new_signer", signer.key), ("instruction", .text "add_signer")]
  | .removeSigner r signer =>
    r.members ++ [("signer_to_remove", signer.key), ("instruction", .text "remove_signer")]
  | .updateThreshold r threshold =>
    r.members ++ [("new_threshold", threshold.number), ("instruction", .text "update_threshold")]
  | .setRegistryEnabled r enabled =>
    r.members ++ [("enabled", .flag (enabled != 0)), ("instruction", .text "set_registry_enabled")]
  | .sendRequested txId sender recipient destChain chainData confirmations =>
    [("tx_id", txId.decimal), ("sender", sender.key), ("recipient", recipient.address),
      ("recipient_length", recipient.size), ("dest_chain_id", destChain.decimal),
      ("dest_chain_name", destChain.chainName), ("chain_data", chainData.utf8),
      ("chain_data_hex", chainData.hex), ("confirmations", confirmations.number),
      ("event", .text "send_requested")]
  | .txPdaCreated txId sourceChain =>
    [("tx_id", txId.decimal), ("source_chain_id", sourceChain.decimal),
      ("source_chain_name", sourceChain.chainName), ("event", .text "tx_pda_created")]
  | .messageProcessed txId sourceChain relayer =>
    [("tx_id", txId.decimal), ("source_chain_id", sourceChain.decimal),
      ("source_chain_name", sourceChain.chainName), ("relayer", relayer.key),
      ("event", .text "message_processed")]
  | .systemStatusChanged enabled =>
    [("enabled", .flag (enabled != 0)), ("event", .text "system_status_changed")]

/-! ### Values of layouts -/

/-- The values that the keys of a list have on the wire. -/
def Counted.keyValues (ks : Counted (Sized 32)) : List Bytes :=
  ks.val.map fun k => k.val

/-- The values that the signatures of a list have on the wire. -/
def Counted.signatureValues (entries : Counted (Sized 64 × Sized 32)) : List (Bytes × Bytes) :=
  entries.val.map fun e => (e.1.val, e.2.val)

/-- The fields of a cross-chain message as values of its layout. -/
def CrossChainFields.values (m : CrossChainFields) : Kind.crossChainLayout.Values :=
  (m.txId.val, m.sourceChain.val, m.destChain.val, m.sender.val, m.recipient.val,
    m.onChainData.val, m.offChainData.val, m.signatures.signatureValues, ())

/-- The fields of a message as values of the layout of its kind. -/
def Message.values : (m : Message) → m.kind.layout.Values
  | .initializeGateway chain => (chain.val, ())
  | .sendMessage txId recipient destChain chainData confirmations =>
    (txId.val, recipient.val, destChain.val, chainData.val, confirmations.val, ())
  | .createTxPda m => m.values
  | .processMessage m => m.values
  | .setSystemEnabled enabled => (enabled != 0, ())
  | .initializeSignerRegistry r signers required =>
    (r.registryType.val, r.chain.val, signers.keyValues, required.val, ())
  | .updateSigners r signers required =>
    (r.registryType.val, r.chain.val, signers.keyValues, required.val, ())
  | .addSigner r signer => (r.registryType.val, r.chain.val, signer.val, ())
  | .removeSigner r signer => (r.registryType.val, r.chain.val, signer.val, ())
  | .updateThreshold r threshold => (r.registryType.val, r.chain.val, threshold.val, ())
  | .setRegistryEnabled r enabled => (r.registryType.val, r.chain.val, enabled != 0, ())
  | .sendRequested txId sender recipient destChain chainData confirmations =>
    (txId.val, sender.val, recipient.val, destChain.val, chainData.val, confirmations.val, ())
  | .txPdaCreated txId sourceChain => (txId.val, sourceChain.val, ())
  | .messageProcessed txId sourceChain relayer => (txId.val, sourceChain.val, relayer.val, ())
  | .systemStatusChanged enabled => (enabled != 0, ())

/-! ### Spellings -/

theorem Unsigned.spells_bytes {width : Nat} (n : Unsigned width) :
    (Shape.number width).Spells n.bytes n.val :=
  ⟨n.isLt, rfl⟩

theorem spells_flag (b : UInt8) : Shape.flag.Spells [b] (b != 0) :=
  ⟨b, rfl, rfl⟩

theorem Sized.spells_key (k : Sized 32) : Shape.key.Spells k.val k.val :=
  ⟨k.property, rfl⟩

namespace Counted

theorem spells_blobBytes (bs : Counted UInt8) : Shape.blob.Spells bs.blobBytes bs.val :=
  ⟨bs.property, rfl⟩

theorem spells_keyBytes (ks : Counted (Sized 32)) : Shape.keys.Spells ks.keyBytes ks.keyValues := by
  refine ⟨⟨?_, ?_⟩, ?_⟩
  · rw [keyValues, List.length_map]
    exact ks.property
  · intro k hk
    obtain ⟨k, -, rfl⟩ := List.mem_map.mp hk
    exact k.property
  · rw [Shape.encode, keyBytes, keyValues, List.length_map, List.flatMap_def]

theorem spells_signatureBytes (entries : Counted (Sized 64 × Sized 32)) :
    Shape.signatures.Spells entries.signatureBytes entries.signatureValues := by
  refine ⟨⟨?_, ?_⟩, ?_⟩
  · rw [signatureValues, List.length_map]
    exact entries.property
  · intro e he
    obtain ⟨e, -, rfl⟩ := List.mem_map.mp he
    exact ⟨e.1.property, e.2.property⟩
  · rw [Shape.encode, signatureBytes, signatureValues, List.length_map, List.flatMap_map]

end Counted

namespace Layout

variable {f : Field} {l : Layout} {bs : Bytes} {rest : List Bytes} {value : f.shape.Value}
  {values : l.Values}

/-- One field in front of others. -/
theorem spells_cons (hvalue : f.shape.Spells bs value) (hvalues : l.Spells rest.flatten values) :
    Layout.Spells (f :: l) (bs :: rest).flatten (value, values) :=
  ⟨bs, rest.flatten, hvalue, hvalues, rfl⟩

theorem spells_singleton (hvalue : f.shape.Spells bs value) :
    Layout.Spells [f] [bs].flatten (value, ()) :=
  spells_cons hvalue rfl

end Layout

open Layout

theorem CrossChainFields.spells_values (m : CrossChainFields) :
    Kind.crossChainLayout.Spells m.fields.flatten m.values :=
  spells_cons m.txId.spells_bytes <| spells_cons m.sourceChain.spells_bytes <|
    spells_cons m.destChain.spells_bytes <| spells_cons m.sender.spells_blobBytes <|
      spells_cons m.recipient.spells_blobBytes <| spells_cons m.onChainData.spells_blobBytes <|
        spells_cons m.offChainData.spells_blobBytes <|
          spells_singleton m.signatures.spells_signatureBytes

theorem RegistryFields.spells_cons (r : RegistryFields) {l : Layout} {rest : List Bytes}
    {values : l.Values} (h : l.Spells rest.flatten values) :
    (Kind.registryLayout l).Spells (r.registryType.bytes :: r.chain.bytes :: rest).flatten
      (r.registryType.val, r.chain.val, values) :=
  Layout.spells_cons r.registryType.spells_bytes (Layout.spells_cons r.chain.spells_bytes h)

/-- The body of a message spells its values. -/
theorem Message.spells_values : (m : Message) → m.kind.layout.Spells m.body m.values
  | .initializeGateway chain => spells_singleton chain.spells_bytes
  | .sendMessage txId recipient destChain chainData confirmations =>
    spells_cons txId.spells_bytes <| spells_cons recipient.spells_blobBytes <|
      spells_cons destChain.spells_bytes <| spells_cons chainData.spells_blobBytes <|
        spells_singleton confirmations.spells_bytes
  | .createTxPda m => m.spells_values
  | .processMessage m => m.spells_values
  | .setSystemEnabled enabled => spells_singleton (spells_flag enabled)
  | .initializeSignerRegistry r signers required =>
    r.spells_cons (spells_cons signers.spells_keyBytes (spells_singleton required.spells_bytes))
  | .updateSigners r signers required =>
    r.spells_cons (spells_cons signers.spells_keyBytes (spells_singleton required.spells_bytes))
  | .addSigner r signer => r.spells_cons (spells_singleton signer.spells_key)
  | .removeSigner r signer => r.spells_cons (spells_singleton signer.spells_key)
  | .updateThreshold r threshold => r.spells_cons (spells_singleton threshold.spells_bytes)
  | .setRegistryEnabled r enabled => r.spells_cons (spells_singleton (spells_flag enabled))
  | .sendRequested txId sender recipient destChain chainData confirmations =>
    spells_cons txId.spells_bytes <| spells_cons sender.spells_key <|
      spells_cons recipient.spells_blobBytes <| spells_cons destChain.spells_bytes <|
        spells_cons chainData.spells_blobBytes (spells_singleton confirmations.spells_bytes)
  | .txPdaCreated txId sourceChain =>
    spells_cons txId.spells_bytes (spells_singleton sourceChain.spells_bytes)
  | .messageProcessed txId sourceChain relayer =>
    spells_cons txId.spells_bytes <| spells_cons sourceChain.spells_bytes <|
      spells_singleton relayer.spells_key
  | .systemStatusChanged enabled => spells_singleton (spells_flag enabled)

/-! ### Records -/

/-- Values that are written with a proof about each are shown as those that they were taken from. -/
theorem map_pmap_map_eq {α β γ δ : Type} {p : α → Prop} {write : ∀ a, p a → γ} {shown : γ → δ}
    {value : β → α} {item : β → δ} (h : ∀ b hb, shown (write (value b) hb) = item b) (l : List β)
    (hl : ∀ a ∈ l.map value, p a) : ((l.map value).pmap write hl).map shown = l.map item := by
  rw [List.map_pmap, List.pmap_map]
  exact (List.pmap_congr_left l fun b _ hb _ => h b hb).trans (List.pmap_eq_map fun _ _ => trivial)

/-- What a record shows of a list of public keys. -/
theorem Counted.members_signers (ks : Counted (Sized 32)) (h : Shape.keys.Fits ks.keyValues)
    (name shownName : String) :
    (Field.signers name shownName).members ((Field.signers name shownName).render ks.keyValues h) =
      [(shownName, ks.keys), ("signer_count", ks.size)] := by
  have hkeys : (ks.keyValues.pmap (fun k hk => Key.render ⟨k, hk⟩) h.2).map Json.text =
      ks.val.map Sized.key :=
    map_pmap_map_eq (fun _ _ => rfl) _ h.2
  have hcount : ks.keyValues.length = ks.val.length := List.length_map _
  simp only [Field.render, Field.members, hkeys, hcount]
  rfl

/-- What a record shows of a list of signatures. -/
theorem Counted.members_signatures (entries : Counted (Sized 64 × Sized 32))
    (h : Shape.signatures.Fits entries.signatureValues) :
    Field.signatures.members (Field.signatures.render entries.signatureValues h) =
      [("signatures", entries.signatures), ("signature_count", entries.size)] := by
  have hentries : (entries.signatureValues.pmap
      (fun e he => SignatureText.mk (Hex.encode e.1) (Key.render ⟨e.2, he.2⟩)) h.2).map
        Field.signatureObject = entries.val.map signature :=
    map_pmap_map_eq (fun _ _ => rfl) _ h.2
  have hcount : entries.signatureValues.length = entries.val.length := List.length_map _
  simp only [Field.render, Field.members, hentries, hcount]
  rfl

theorem CrossChainFields.members_render (m : CrossChainFields)
    (h : Kind.crossChainLayout.Fits m.values) :
    Kind.crossChainLayout.members (Kind.crossChainLayout.render m.values h) = m.members := by
  simp only [Layout.render, Layout.members, values, m.signatures.members_signatures]
  rfl

/-- The record of the values of a message shows its members. Lists aside, this is how layouts and
members are written down. -/
theorem Message.members_ofValues (m : Message) (h : m.kind.layout.Fits m.values) :
    (Record.ofValues m.kind m.values h).members = m.members := by
  cases m with
  | createTxPda m => exact congrArg (_ :: ·) (m.members_render h)
  | processMessage m => exact congrArg (_ :: ·) (m.members_render h)
  | initializeSignerRegistry r signers required =>
    simp only [Record.members, Record.ofValues, Layout.render, Layout.members, values, kind,
      Kind.layout, signers.members_signers]
    rfl
  | updateSigners r signers required =>
    simp only [Record.members, Record.ofValues, Layout.render, Layout.members, values, kind,
      Kind.layout, signers.members_signers]
    rfl
  | _ => rfl

/-- **Decoding undoes encoding.** The tag of a message and its fields, one behind the other, are
decoded to one record whatever follows them: that of the kind of the message, which shows exactly
what the message has. -/
theorem Message.decode_body (m : Message) (mode : TagMode) :
    ∃ r : Record, r.kind = m.kind ∧ r.members = m.members ∧
      ∀ rest, (m.kind.scope.decode mode (m.kind.tag mode ++ m.body ++ rest)).value =
        .ok (.decoded r) :=
  ⟨Record.ofValues m.kind m.values _, rfl, m.members_ofValues _, fun rest =>
    Scope.decode_of_spells mode m.kind.mem_kinds_scope m.spells_values rest⟩

end MessageGateway
