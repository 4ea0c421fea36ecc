import MessageGateway.Bytes.Hex
import MessageGateway.Hashing.Digest
import MessageGateway.Text.Integer

/-!
# The message that the gateway checks

The gateway checks the signatures under a cross-chain message against the Keccak-256 digest of a
byte string of its own: the identifier in sixteen bytes, the numbers of the two chains in eight
bytes each, and then sender, recipient and the data on and off the chain, each behind a count of
four bytes and none longer than its limit.

## Main definitions

* `MessageGateway.CrossChainMessage`, `MessageGateway.CrossChainMessage.encode`.
* `MessageGateway.CrossChainMessage.digest`.
-/

namespace MessageGateway

/-- The fields of a cross-chain message as the gateway sees it. -/
structure CrossChainMessage where
  txId : Int
  sourceChainId : Int
  destChainId : Int
  sender : Bytes
  recipient : Bytes
  onChainData : Bytes
  offChainData : Bytes

namespace CrossChainMessage

/-- The largest size of an address. -/
def maxAddressSize : Nat := 64

/-- The largest size of data. -/
def maxDataSize : Nat := 1024

/-- The field of a number in `width` bytes; another number is refused. -/
def bounded (width : Nat) (e : HashInputError) (n : Int) : Except HashInputError Bytes :=
  if 0 ≤ n ∧ n < 256 ^ width then .ok (Bytes.ofNatLE width n.toNat) else .error e

/-- A part of a message behind its count of four bytes; a part over its limit is refused. -/
def limited (part : String) (limit : Nat) (bs : Bytes) : Except HashInputError Bytes :=
  if limit < bs.length then .error (.overLimit part bs.length limit)
  else .ok (Bytes.ofNatLE 4 bs.length ++ bs)

/-- The byte string that is hashed. -/
def encode (m : CrossChainMessage) : Except HashInputError Bytes := do
  let txId ← bounded 16 .idOutOfRange m.txId
  let source ← bounded 8 (.chainOutOfRange "source_chain_id") m.sourceChainId
  let dest ← bounded 8 (.chainOutOfRange "dest_chain_id") m.destChainId
  let sender ← limited "sender" maxAddressSize m.sender
  let recipient ← limited "recipient" maxAddressSize m.recipient
  let onChain ← limited "on_chain_data" maxDataSize m.onChainData
  let offChain ← limited "off_chain_data" maxDataSize m.offChainData
  return txId ++ source ++ dest ++ sender ++ recipient ++ onChain ++ offChain

/-- What is logged about a digest, unless a number is too long to be written. -/
def report? (m : CrossChainMessage) (digest : Bytes) : Option LogEntry := do
  let id ← Integer.render? m.txId
  let source ← Integer.render? m.sourceChainId
  let dest ← Integer.render? m.destChainId
  let hex := Hex.encode digest
  return ⟨.debug, s!"[HASH] cross-chain tx_id={id} source={source} dest={dest} hash={hex}"⟩

/-- The digest that signatures are checked against. -/
def digest (m : CrossChainMessage) : Logged (Except DigestError Bytes) :=
  hashed m.encode fun _ digest => m.report? digest

end CrossChainMessage

end MessageGateway
