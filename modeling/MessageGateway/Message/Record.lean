import MessageGateway.Message.Kind

/-!
# Records and other outcomes

A message that can be read is shown as a *record*: what its fields show, labelled with the name of
its kind. A message whose tag is not in the table is an *unknown payload*, and one whose tag is
known and whose fields cannot be read is a *failure*, which keeps the cause. Each of the three is
laid out as an object with its members in a fixed order.

## Main definitions

* `MessageGateway.Record`, `MessageGateway.UnknownPayload`, `MessageGateway.DecodeFailure`.
* `MessageGateway.Outcome`, `MessageGateway.Outcome.toJson`.
-/

namespace MessageGateway

/-! ### Records -/

/-- A message that was read. -/
structure Record where
  kind : Kind
  shown : kind.layout.Shown

namespace Record

/-- The record of a kind that shows the given values, which its fields can hold. -/
def ofValues (kind : Kind) (values : kind.layout.Values) (h : kind.layout.Fits values) : Record :=
  ⟨kind, kind.layout.render values h⟩

/-- The member that names the kind, under the name of its table. -/
def label (r : Record) : String × Json :=
  (r.kind.scope.label, .text r.kind.name)

/-- The members of the record: its fields and its label, which comes first in cross-chain messages
and last in all others. -/
def members (r : Record) : List (String × Json) :=
  match r.kind with
  | .createTxPda | .processMessage => r.label :: r.kind.layout.members r.shown
  | _ => r.kind.layout.members r.shown ++ [r.label]

end Record

/-! ### Unknown payloads -/

/-- A payload whose tag is in no table that was looked at, or that has no tag. -/
structure UnknownPayload where
  discriminator : String
  rawHex : String
  scope : String
  deriving DecidableEq

/-- The members of an unknown payload. -/
def UnknownPayload.members (u : UnknownPayload) : List (String × Json) :=
  [("discriminator", .text u.discriminator), ("raw_hex", .text u.rawHex),
    ("namespace", .text u.scope)]

/-! ### Failures -/

/-- Why a message of a known kind cannot be read. -/
inductive DecodeError where
  /-- A field does not fit. -/
  | outOfBounds (e : OutOfBounds)
  /-- The kind has no decoder. -/
  | noDecoder (kind : String)
  /-- The decoder refuses the message for a reason of its own. -/
  | refused (reason : String)
  deriving DecidableEq

/-- The words in which a failure is reported. -/
def DecodeError.message : DecodeError → String
  | .outOfBounds e => e.message
  | .noDecoder kind => "Decoder not implemented for " ++ kind
  | .refused reason => reason

/-- A message of a known kind that cannot be read. -/
structure DecodeFailure where
  scope : String
  kind : String
  error : DecodeError
  discriminator : String
  rawHex : String
  deriving DecidableEq

namespace DecodeFailure

/-- The members of every failure. -/
def ownMembers (f : DecodeFailure) : List (String × Json) :=
  [("namespace", .text f.scope), ("kind", .text f.kind), ("error", .text f.error.message),
    ("discriminator", .text f.discriminator), ("raw_hex", .text f.rawHex)]

/-- The members of a failure: first the label that a record would have, then its own. Where the
label has the name of one of these, that one takes its place. -/
def members (f : DecodeFailure) : List (String × Json) :=
  match f.ownMembers.lookup f.scope with
  | some value => (f.scope, value) :: f.ownMembers.filter (·.1 != f.scope)
  | none => (f.scope, .text f.kind) :: f.ownMembers

/-- The kind of the failure, if it arose in the given table. -/
def kindIn? (f : DecodeFailure) (scope : Scope) : Option String :=
  if f.scope = scope.label then some f.kind else none

end DecodeFailure

/-! ### Outcomes -/

/-- What becomes of a payload. -/
inductive Outcome where
  | decoded (r : Record)
  | unknown (u : UnknownPayload)
  | failure (f : DecodeFailure)

namespace Outcome

/-- Whether the payload was read. -/
def isDecoded : Outcome → Bool
  | .decoded _ => true
  | _ => false

/-- The members of an outcome. -/
def members : Outcome → List (String × Json)
  | .decoded r => r.members
  | .unknown u => u.members
  | .failure f => f.members

/-- An outcome as an object. -/
def toJson (x : Outcome) : Json :=
  .object x.members

end Outcome

end MessageGateway
