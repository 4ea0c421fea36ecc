import MessageGateway.Bytes.Hex
import MessageGateway.Hashing.Digest
import MessageGateway.Text.Integer

/-!
# The message that signers sign

The signers of a cross-chain message sign the Keccak-256 digest of a byte string in which its
fields lie one behind the other: the low eight bytes of its identifier, the two chain labels as they
are, sender and recipient behind a count of one byte, and the data behind a count of two bytes. The
chain labels carry no count, so only labels of agreed sizes make the byte string unambiguous.

The identifier, of which the byte string has the low bytes only, is logged in full, so a message has
no digest when it is too long to be written.

## Main definitions

* `MessageGateway.SignerMessage`, `MessageGateway.SignerMessage.encode`.
* `MessageGateway.SignerMessage.digest`.
* `MessageGateway.isUsableDigest`, `MessageGateway.SignerMessage.verify`.
-/

namespace MessageGateway

/-- The fields of a cross-chain message as its signers see it. -/
structure SignerMessage where
  txId : Int
  sourceChain : Bytes
  destChain : Bytes
  sender : Bytes
  recipient : Bytes
  data : Bytes

/-- The number of bytes in a digest. -/
def digestSize : Nat := 32

/-- A digest is usable when it has the right size and is not all zeros. -/
def isUsableDigest (digest : Bytes) : Bool :=
  digest.length == digestSize && digest.any (· != 0)

namespace SignerMessage

/-- A part of a message behind its count of `width` bytes; a longer part is refused. -/
def counted (width : Nat) (part : String) (bs : Bytes) : Except HashInputError Bytes :=
  let limit := 256 ^ width - 1
  if limit < bs.length then .error (.overCount part bs.length limit)
  else .ok (Bytes.ofNatLE width bs.length ++ bs)

/-- The byte string that is hashed. -/
def encode (m : SignerMessage) : Except HashInputError Bytes :=
  if m.txId < 0 then .error .negativeId
  else do
    let sender ← counted 1 "sender" m.sender
    let recipient ← counted 1 "recipient" m.recipient
    let data ← counted 2 "data" m.data
    return Bytes.ofNatLE 8 m.txId.toNat ++ m.sourceChain ++ m.destChain ++ sender ++ recipient ++
      data

/-- What is logged about a digest, unless the identifier is too long to be written. -/
def report? (m : SignerMessage) (encoded digest : Bytes) : Option LogEntry :=
  (Integer.render? m.txId).map fun id =>
    let size := encoded.length
    let hex := Hex.encode digest
    ⟨.debug, s!"[HASH] tx_id={id} len={size} hash={hex}"⟩

/-- The digest that is signed. -/
def digest (m : SignerMessage) : Logged (Except DigestError Bytes) :=
  hashed m.encode m.report?

/-- Whether a digest is that of the message. An unusable digest is no message's, whatever the
message is. -/
def verify (m : SignerMessage) (expected : Bytes) : Logged (Except DigestError Bool) :=
  if isUsableDigest expected then m.digest.map fun d => d.map (· == expected)
  else .silent (.ok false)

end SignerMessage

end MessageGateway
