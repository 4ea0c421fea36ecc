import MessageGateway.Log
import MessageGateway.Message.Record
import MessageGateway.Message.Tag

/-!
# Decoding messages

A message is looked up by its tag in one table and read by the decoder of its kind
(`Dispatcher.run`). What a decoder refuses becomes a failure, and an unknown tag an unknown payload;
only a message too short for a tag, or a decoder that breaks down, leaves no outcome. The tables of
the gateway with their decoders are the dispatchers `Scope.dispatcher`.

## Main definitions

* `MessageGateway.Kind.decode` — reads the message of a kind.
* `MessageGateway.Dispatcher`, `MessageGateway.Dispatcher.run`.
* `MessageGateway.Scope.decode` — decodes by one of the gateway's tables.
-/

namespace MessageGateway

/-- The record of a message of the given kind, whose fields lie behind its tag. -/
def Kind.decode (kind : Kind) (raw : Bytes) : Except OutOfBounds Record :=
  match h : kind.layout.read raw tagSize with
  | .error e => .error e
  | .ok (values, _) => .ok (Record.ofValues kind values (kind.layout.fits_of_read h))

/-! ### Dispatchers -/

/-- How a decoder ends without a record. -/
inductive Fault where
  /-- It refuses the message. -/
  | decode (e : DecodeError)
  /-- It breaks down. -/
  | unexpected (reason : String)
  deriving DecidableEq

/-- A decoder of messages of one kind. -/
abbrev Decoder := Bytes → Except Fault Record

/-- Why a message has no outcome. -/
inductive Interruption where
  /-- It is too short for a tag. -/
  | bufferTooSmall (length : Nat)
  /-- Its decoder broke down. -/
  | unexpected (reason : String)
  deriving DecidableEq

/-- The words in which an interruption is reported. -/
def Interruption.message : Interruption → String
  | .bufferTooSmall length =>
    s!"Buffer too small for discriminator: {length} < {tagSize} bytes"
  | .unexpected reason => reason

/-- A table of tags and the decoders of its kinds. -/
structure Dispatcher where
  /-- The name of the table. -/
  scope : String
  /-- The name of the kind with a tag. -/
  kindOf? : String → Option String
  /-- The decoder of the kind with a name. -/
  decoder? : String → Option Decoder

namespace Dispatcher

/-- The record of a message of the given kind. -/
def decode (d : Dispatcher) (kind : String) (raw : Bytes) : Except Fault Record :=
  match d.decoder? kind with
  | none => .error (.decode (.noDecoder kind))
  | some decoder => decoder raw

/-- What becomes of a message, and what is logged about it. -/
def run (d : Dispatcher) (raw : Bytes) : Logged (Except Interruption Outcome) :=
  if raw.length < tagSize then .silent (.error (.bufferTooSmall raw.length))
  else
    let tag := tagOf raw
    match d.kindOf? tag with
    | none =>
      ⟨.ok (.unknown ⟨tag, Hex.encode raw, d.scope⟩),
        [⟨.debug, s!"[DECODER] Unknown {d.scope} discriminator {tag}"⟩]⟩
    | some kind =>
      match d.decode kind raw with
      | .ok record => .silent (.ok (.decoded record))
      | .error (.unexpected reason) => .silent (.error (.unexpected reason))
      | .error (.decode e) =>
        ⟨.ok (.failure ⟨d.scope, kind, e, tag, Hex.encode raw⟩),
          [⟨.debug, s!"[DECODER] {d.scope} {kind} failed: {e.message}"⟩]⟩

end Dispatcher

/-! ### The gateway's own tables -/

/-- The decoder of a kind. -/
def Kind.decoder (kind : Kind) : Decoder := fun raw =>
  (kind.decode raw).mapError fun e => .decode (.outOfBounds e)

namespace Scope

/-- A table of the gateway with the decoders of its kinds. -/
def dispatcher (mode : TagMode) (scope : Scope) : Dispatcher where
  scope := scope.label
  kindOf? tag := (scope.kindTagged? mode tag).map Kind.name
  decoder? name := (scope.kindNamed? name).map Kind.decoder

/-- What becomes of a message by one of the gateway's tables. -/
def decode (mode : TagMode) (scope : Scope) (raw : Bytes) :
    Logged (Except Interruption Outcome) :=
  (scope.dispatcher mode).run raw

end Scope

end MessageGateway
