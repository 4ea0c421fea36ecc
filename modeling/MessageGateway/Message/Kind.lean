import MessageGateway.Message.Layout

/-!
# Kinds of messages

The messages of the gateway are of eleven kinds of instructions and four kinds of events. Every kind
has a name and a layout. The two kinds of cross-chain messages, which announce a message on its
destination chain and carry it out there, share their layout.

## Main definitions

* `MessageGateway.Scope` — instructions and events.
* `MessageGateway.Kind`, `MessageGateway.Kind.name`, `MessageGateway.Kind.layout`.
* `MessageGateway.Scope.kinds` — the kinds in the order of their tables.
-/

namespace MessageGateway

/-- The two tables of kinds. -/
inductive Scope where
  | instruction
  | event
  deriving DecidableEq

namespace Scope

/-- The name of a table. -/
def label : Scope → String
  | .instruction => "instruction"
  | .event => "event"

/-- The other table. -/
def other : Scope → Scope
  | .instruction => .event
  | .event => .instruction

end Scope

/-- The kinds of messages. -/
inductive Kind where
  | initializeGateway
  | sendMessage
  | createTxPda
  | processMessage
  | setSystemEnabled
  | initializeSignerRegistry
  | updateSigners
  | addSigner
  | removeSigner
  | updateThreshold
  | setRegistryEnabled
  | sendRequested
  | txPdaCreated
  | messageProcessed
  | systemStatusChanged
  deriving DecidableEq

namespace Kind

/-- The name of a kind. -/
def name : Kind → String
  | .initializeGateway => "initialize_gateway"
  | .sendMessage => "send_message"
  | .createTxPda => "create_tx_pda"
  | .processMessage => "process_message"
  | .setSystemEnabled => "set_system_enabled"
  | .initializeSignerRegistry => "initialize_signer_registry"
  | .updateSigners => "update_signers"
  | .addSigner => "add_signer"
  | .removeSigner => "remove_signer"
  | .updateThreshold => "update_threshold"
  | .setRegistryEnabled => "set_registry_enabled"
  | .sendRequested => "send_requested"
  | .txPdaCreated => "tx_pda_created"
  | .messageProcessed => "message_processed"
  | .systemStatusChanged => "system_status_changed"

/-- The table that a kind belongs to. -/
def scope : Kind → Scope
  | .sendRequested | .txPdaCreated | .messageProcessed | .systemStatusChanged => .event
  | _ => .instruction

/-- The fields of a cross-chain message. -/
@[reducible] def crossChainLayout : Layout :=
  [.messageId "tx_id", .chain "source_chain", .chain "dest_chain", .address "sender",
    .address "recipient", .data "on_chain_data", .data "off_chain_data", .signatures]

/-- The fields of a message about a signer registry, before those of its kind. -/
@[reducible] def registryLayout (rest : Layout) : Layout :=
  .registry "registry_type" :: .chain "chain" :: rest

/-- The fields of a kind. -/
@[reducible] def layout : Kind → Layout
  | .initializeGateway => [.chain "chain"]
  | .sendMessage =>
    [.messageId "tx_id", .address "recipient", .chain "dest_chain", .data "chain_data",
      .count "confirmations" 2]
  | .createTxPda | .processMessage => crossChainLayout
  | .setSystemEnabled => [.flag "enabled"]
  | .initializeSignerRegistry =>
    registryLayout [.signers "initial_signers" "signers", .count "required_signatures" 1]
  | .updateSigners =>
    registryLayout [.signers "new_signers" "new_signers", .count "new_required_signatures" 1]
  | .addSigner => registryLayout [.key "new_signer"]
  | .removeSigner => registryLayout [.key "signer_to_remove"]
  | .updateThreshold => registryLayout [.count "new_threshold" 1]
  | .setRegistryEnabled => registryLayout [.flag "enabled"]
  | .sendRequested =>
    [.messageId "tx_id", .key "sender", .address "recipient", .chain "dest_chain",
      .data "chain_data", .count "confirmations" 2]
  | .txPdaCreated => [.messageId "tx_id", .chain "source_chain"]
  | .messageProcessed => [.messageId "tx_id", .chain "source_chain", .key "relayer"]
  | .systemStatusChanged => [.flag "enabled"]

end Kind

/-- The kinds of a table in its order. -/
def Scope.kinds : Scope → List Kind
  | .instruction =>
    [.initializeGateway, .sendMessage, .createTxPda, .processMessage, .setSystemEnabled,
      .initializeSignerRegistry, .updateSigners, .addSigner, .removeSigner, .updateThreshold,
      .setRegistryEnabled]
  | .event => [.sendRequested, .txPdaCreated, .messageProcessed, .systemStatusChanged]

/-- The kind of a table with the given name. -/
def Scope.kindNamed? (scope : Scope) (name : String) : Option Kind :=
  scope.kinds.find? fun kind => kind.name == name

end MessageGateway
