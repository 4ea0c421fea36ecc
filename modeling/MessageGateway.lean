import MessageGateway.Bytes.Base58
import MessageGateway.Bytes.Base64
import MessageGateway.Bytes.Basic
import MessageGateway.Bytes.Hex
import MessageGateway.Bytes.Radix
import MessageGateway.Digest.Keccak256
import MessageGateway.Digest.Sha256
import MessageGateway.Hashing.ChainLabel
import MessageGateway.Hashing.CrossChainMessage
import MessageGateway.Hashing.Digest
import MessageGateway.Hashing.Rehash
import MessageGateway.Hashing.SignerMessage
import MessageGateway.Json.Basic
import MessageGateway.Log
import MessageGateway.LogLevel
import MessageGateway.LogLevel.Name
import MessageGateway.Message.Address
import MessageGateway.Message.Chain
import MessageGateway.Message.Decoding
import MessageGateway.Message.Field
import MessageGateway.Message.Kind
import MessageGateway.Message.Layout
import MessageGateway.Message.Record
import MessageGateway.Message.Tag
import MessageGateway.Payload
import MessageGateway.ProgramLog
import MessageGateway.Settings
import MessageGateway.Text.Blank
import MessageGateway.Text.CharRange
import MessageGateway.Text.DecimalDigit
import MessageGateway.Text.Integer
import MessageGateway.Text.LetterCase
import MessageGateway.Text.LetterCase.Table
import MessageGateway.Text.Printable
import MessageGateway.Text.Quoted
import MessageGateway.Text.Utf8
import MessageGateway.Wire.Bounds
import MessageGateway.Wire.Read
import MessageGateway.Wire.Shape
import MessageGateway.Proofs.Bytes.Base58
import MessageGateway.Proofs.Message.Layout
import MessageGateway.Proofs.Text.Integer
import MessageGateway.Proofs.Message.Decoding
import MessageGateway.Proofs.Message.Threshold
import MessageGateway.Proofs.Message.Address
import MessageGateway.Proofs.Message.Recovery
import MessageGateway.Proofs.Hashing.Preimage
import MessageGateway.Proofs.Hashing.Rehash
import MessageGateway.Proofs.Message.Format
import MessageGateway.Proofs.Bytes.Parts
import MessageGateway.Proofs.Hashing.ChainLabel
import MessageGateway.Proofs.Hashing.Unambiguous
import MessageGateway.Proofs.Message.Outcome
import MessageGateway.Proofs.Payload.BothTables
import MessageGateway.Proofs.Payload.Order
import MessageGateway.Proofs.Bytes.Base58.Canonical
import MessageGateway.Proofs.Bytes.Base64
import MessageGateway.Proofs.Payload.Spelling
import MessageGateway.Proofs.Payload.Attempts
import MessageGateway.Proofs.Payload.Evidence
import MessageGateway.Proofs.Payload.Containment
import MessageGateway.Proofs.Bytes.Base64.Accepted
import MessageGateway.Proofs.Payload.Accepted
import MessageGateway.Proofs.Wire.Refusal
import MessageGateway.Proofs.Message.Failure
import MessageGateway.Proofs.Payload.Misreading
import MessageGateway.Proofs.Message.Agreement
import MessageGateway.Proofs.Payload.Label
import MessageGateway.Proofs.Message.CrossChain
import MessageGateway.Proofs.ProgramLog
import MessageGateway.Proofs.Hashing.Verification
import MessageGateway.Proofs.Wire.Run
import MessageGateway.Proofs.Lookup
import MessageGateway.Proofs.Text.LetterCase
import MessageGateway.Proofs.Settings
import MessageGateway.Proofs.LogLevel
import MessageGateway.Proofs.Text.Utf8
import MessageGateway.Proofs.Json.Reader
import MessageGateway.Proofs.Json.RoundTrip
import MessageGateway.Proofs.Json.Sameness
import MessageGateway.Proofs.Payload.JsonText
import MessageGateway.Proofs.Wire.Lists
import MessageGateway.Proofs.Wire.Truthful
