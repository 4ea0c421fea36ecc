import MessageGateway.Bytes.Base64
import MessageGateway.Message.Decoding
import MessageGateway.Text.Blank

/-!
# Payloads

A *payload* is a message in base 64, as transactions and logs carry it; what is no text or no base
64 is a payload without bytes. A payload is decoded by one of the gateway's tables (`decodeAs`), or
by the first of the two that reads it (`decode`). Neither ever fails: a payload that is too short or
has no bytes is an unknown payload marked as invalid.

The order of the two tables is the caller's or a guess by the tag. When neither reads the payload,
a failure is preferred to an unknown payload, and the first of two failures to the second. Should an
attempt break down, which the gateway's own decoders never do, the payload is unknown and a warning
is logged; for that, `decodeWith` takes the attempts as an argument.

## Main definitions

* `MessageGateway.Payload.bytes?`.
* `MessageGateway.Payload.decodeAs`, `MessageGateway.Payload.decode`.
* `MessageGateway.DecodeResult`.
-/

namespace MessageGateway

/-- The outcome for a payload and the table that it is from, if any. -/
structure DecodeResult where
  scope : Option Scope
  outcome : Outcome

namespace DecodeResult

/-- The name of the table, or that it is unknown. -/
def label (r : DecodeResult) : String :=
  (r.scope.map Scope.label).getD "unknown"

/-- A result as an object. -/
def toJson (r : DecodeResult) : Json :=
  .object [("type", .text r.label), ("data", r.outcome.toJson)]

end DecodeResult

namespace Payload

/-! ### Bytes -/

/-- The bytes of a text in base 64; blanks around it are passed over, and padding that it lacks is
added. -/
def textBytes? (text : String) : Option Bytes :=
  Base64.decodeChars? (Base64.complete (strip text.toList))

/-- The bytes of a payload, which need not be a text. -/
def bytes? (payload : Option String) : Option Bytes :=
  payload.bind textBytes?

/-- What becomes of a payload that is too short for a tag. -/
def invalid (scope : String) (raw : Bytes) : UnknownPayload :=
  ⟨"invalid", Hex.encode raw, scope⟩

/-- What becomes of a message that no table could read. -/
def unknown (raw : Bytes) : UnknownPayload :=
  ⟨tagOf raw, Hex.encode raw, "unknown"⟩

/-! ### One table -/

/-- What becomes of a payload by one of the gateway's tables. -/
def decodeAs (mode : TagMode) (scope : Scope) (payload : Option String) : Logged Outcome :=
  match bytes? payload with
  | none => .silent (.unknown (invalid scope.label []))
  | some raw =>
    (scope.decode mode raw).map fun
      | .ok outcome => outcome
      | .error _ => .unknown (invalid scope.label raw)

/-! ### Both tables -/

/-- An attempt to decode a message by one of the tables. -/
abbrev Attempt := Scope → Bytes → Logged (Except Interruption Outcome)

/-- The table that is tried first. -/
def firstScope (mode : TagMode) (prefer : Option Scope) (raw : Bytes) : Scope :=
  prefer.getD (if isLikelyEvent mode raw then .event else .instruction)

/-- The result for a message when an attempt breaks down. -/
def interrupted (raw : Bytes) (reason : Interruption) (log : List LogEntry) :
    Logged DecodeResult :=
  ⟨⟨none, .unknown (unknown raw)⟩,
    log ++ [⟨.warning, s!"[DECODER] Unexpected decode error: {reason.message}"⟩]⟩

/-- The result for a message that neither table reads: the first failure, if there is one. -/
def unread (raw : Bytes) (first : Scope) : Outcome → Outcome → DecodeResult
  | .failure f, _ => ⟨some first, .failure f⟩
  | _, .failure f => ⟨some first.other, .failure f⟩
  | _, _ => ⟨none, .unknown (unknown raw)⟩

/-- The result for a message that is long enough for a tag. -/
def decodeMessage (attempt : Attempt) (first : Scope) (raw : Bytes) : Logged DecodeResult :=
  let one := attempt first raw
  match one.value with
  | .error reason => interrupted raw reason one.log
  | .ok x =>
    if x.isDecoded then ⟨⟨some first, x⟩, one.log⟩
    else
      let two := attempt first.other raw
      match two.value with
      | .error reason => interrupted raw reason (one.log ++ two.log)
      | .ok y =>
        if y.isDecoded then ⟨⟨some first.other, y⟩, one.log ++ two.log⟩
        else ⟨unread raw first x y, one.log ++ two.log⟩

/-- The result for a payload by the given attempts. -/
def decodeWith (attempt : Attempt) (mode : TagMode) (prefer : Option Scope)
    (payload : Option String) : Logged DecodeResult :=
  match bytes? payload with
  | none => .silent ⟨none, .unknown (invalid "unknown" [])⟩
  | some raw =>
    if raw.length < tagSize then .silent ⟨none, .unknown (invalid "unknown" raw)⟩
    else decodeMessage attempt (firstScope mode prefer raw) raw

/-- The result for a payload by the gateway's tables. -/
def decode (mode : TagMode) (prefer : Option Scope) (payload : Option String) :
    Logged DecodeResult :=
  decodeWith (fun scope raw => scope.decode mode raw) mode prefer payload

/-- The gateway's attempts, of which those by one table break down. -/
def faulty (mode : TagMode) (broken : Scope) (reason : String) : Attempt := fun scope raw =>
  if scope = broken then .silent (.error (.unexpected reason)) else scope.decode mode raw

/-! ### Examples -/

example : (decode .static none (some "Tn18a1s7PBoB")).value.toJson.render =
    "\x7b\x22type\x22: \x22instruction\x22, \x22data\x22: \x7b\x22enabled\x22: true, " ++
      "\x22instruction\x22: \x22set_system_enabled\x22\x7d\x7d" := by decide +kernel

example : (decode .static (some .event) (some " AAECAw")).value.toJson.render =
    "\x7b\x22type\x22: \x22unknown\x22, \x22data\x22: \x7b\x22discriminator\x22: " ++
      "\x22invalid\x22, \x22raw_hex\x22: \x2200010203\x22, " ++
      "\x22namespace\x22: \x22unknown\x22\x7d\x7d" := by decide +kernel

end Payload

end MessageGateway
