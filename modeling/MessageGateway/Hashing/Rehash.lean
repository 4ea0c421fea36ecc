import MessageGateway.Hashing.CrossChainMessage
import MessageGateway.Message.Record

/-!
# Hashing a record again

A record of a cross-chain message shows everything that its digest covers, so the digest can be had
from the record alone. The texts of the record (`CrossChainText`) are read back into the fields of
a message, which is then hashed. A record of another kind has no such digest, and texts that a
record would not show may be unreadable or out of range.

## Main definitions

* `MessageGateway.CrossChainText`, `MessageGateway.CrossChainText.message?`.
* `MessageGateway.CrossChainText.digest`, `MessageGateway.Outcome.digest`.
-/

namespace MessageGateway

/-- The texts of a cross-chain message that its digest depends on. -/
structure CrossChainText where
  txId : String
  sourceChainId : String
  destChainId : String
  sender : String
  senderLength : Int
  recipient : String
  recipientLength : Int
  onChainDataHex : String
  offChainDataHex : String

/-- Why a record has no digest. -/
inductive RehashError where
  /-- It is no record of a cross-chain message. -/
  | notCrossChain
  /-- A text stands for no value of its field. -/
  | unreadable
  /-- A value does not fit into its field. -/
  | refused (e : HashInputError)
  /-- A number has too many digits to be logged. -/
  | unwritable
  deriving DecidableEq

/-- A message without a digest has a record without one. -/
def RehashError.ofDigestError : DigestError → RehashError
  | .refused e => .refused e
  | .unwritable => .unwritable

namespace CrossChainText

/-- The message that the texts stand for, if all of them can be read. -/
def message? (t : CrossChainText) : Option CrossChainMessage := do
  return {
    txId := ← Integer.parse? t.txId
    sourceChainId := ← Integer.parse? t.sourceChainId
    destChainId := ← Integer.parse? t.destChainId
    sender := ← Address.parse? t.sender t.senderLength
    recipient := ← Address.parse? t.recipient t.recipientLength
    onChainData := ← Hex.decode? t.onChainDataHex
    offChainData := ← Hex.decode? t.offChainDataHex }

/-- The digest of the message that the texts stand for. -/
def digest (t : CrossChainText) : Logged (Except RehashError Bytes) :=
  match t.message? with
  | none => .silent (.error .unreadable)
  | some m => m.digest.map fun d => d.mapError .ofDigestError

end CrossChainText

/-- The texts of a record of a cross-chain message that its digest depends on. -/
def crossChainText (shown : Kind.crossChainLayout.Shown) : CrossChainText :=
  let (txId, source, dest, sender, recipient, onChain, offChain, _) := shown
  { txId
    sourceChainId := source.id
    destChainId := dest.id
    sender := sender.text
    senderLength := sender.length
    recipient := recipient.text
    recipientLength := recipient.length
    onChainDataHex := onChain.hex
    offChainDataHex := offChain.hex }

/-- The texts of a record, if it is of a cross-chain message. -/
def Record.crossChainText? : Record → Option CrossChainText
  | ⟨.createTxPda, shown⟩ => some (crossChainText shown)
  | ⟨.processMessage, shown⟩ => some (crossChainText shown)
  | _ => none

/-- The digest of a decoded cross-chain message. -/
def Outcome.digest : Outcome → Logged (Except RehashError Bytes)
  | .decoded r =>
    match r.crossChainText? with
    | some texts => texts.digest
    | none => .silent (.error .notCrossChain)
  | _ => .silent (.error .notCrossChain)

end MessageGateway
