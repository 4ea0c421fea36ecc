import MessageGateway.Digest.Sha256
import MessageGateway.Message.Kind
import MessageGateway.Text.LetterCase

/-!
# Tags of messages

A message starts with the *tag* of its kind, eight bytes, which are shown in hexadecimal. The tags
of events are fixed. Those of instructions are fixed as well in one mode, and in the other mode
derived from the name of the kind: the first bytes of a SHA-256 digest. An instruction and an event
may have the same tag, so a tag is always looked up in one of the two tables.

## Main definitions

* `MessageGateway.TagMode`, `MessageGateway.Kind.tag`, `MessageGateway.Kind.tagText`.
* `MessageGateway.Scope.table`, `MessageGateway.Scope.kindTagged?`.
* `MessageGateway.isLikelyEvent`.
-/

namespace MessageGateway

/-- Where the tags of instructions come from. -/
inductive TagMode where
  /-- A fixed table. -/
  | static
  /-- The digests of their names. -/
  | anchor
  deriving DecidableEq

/-- The mode of the given name, which is written in small letters. -/
def TagMode.named? (name : String) : Option TagMode :=
  if name = "static" then some .static
  else if name = "anchor" then some .anchor
  else none

/-- The mode of the given name; a name that is no mode's stands for the fixed table. -/
def TagMode.ofName (name : String) : TagMode :=
  (TagMode.named? name).getD .static

/-- The name of a mode. -/
def TagMode.label : TagMode → String
  | .static => "static"
  | .anchor => "anchor"

/-- The size of a tag. -/
def tagSize : Nat := 8

/-- The tag of a message, in hexadecimal. -/
def tagOf (raw : Bytes) : String :=
  Hex.encode (raw.take tagSize)

/-- The tag derived from a name within a namespace. -/
def anchorTag (space name : String) : Bytes :=
  (Sha256.digest (Utf8.encode (space ++ ":" ++ name))).take tagSize

/-- The namespace of the names that tags of instructions are derived from. -/
def instructionSpace : String := "global"

namespace Kind

/-- The fixed tag of a kind. -/
def staticTag : Kind → Bytes
  | .initializeGateway => [0x17, 0x51, 0x75, 0xa0, 0xc5, 0xc8, 0x7c, 0x47]
  | .sendMessage => [0xd9, 0x18, 0x84, 0x9a, 0x04, 0x6c, 0x77, 0x7a]
  | .createTxPda => [0xa4, 0x2b, 0xa5, 0xe4, 0xb0, 0xd1, 0x7a, 0xf1]
  | .processMessage => [0x93, 0xa6, 0x4b, 0x5d, 0x1d, 0x5d, 0x8b, 0x77]
  | .setSystemEnabled => [0x4e, 0x7d, 0x7c, 0x6b, 0x5b, 0x3b, 0x3c, 0x1a]
  | .initializeSignerRegistry => [0x8d, 0x5d, 0x8b, 0x77, 0x1d, 0x5d, 0x8b, 0x77]
  | .updateSigners => [0x9b, 0x3b, 0x3c, 0x1a, 0x7c, 0x6b, 0x5b, 0x3b]
  | .addSigner => [0xb0, 0xd1, 0x7a, 0xf1, 0xa4, 0x2b, 0xa5, 0xe4]
  | .removeSigner => [0x5d, 0x8b, 0x77, 0x7c, 0x6b, 0x5b, 0x3b, 0x3c]
  | .updateThreshold => [0x1d, 0x5d, 0x8b, 0x77, 0x5d, 0x8b, 0x77, 0x7c]
  | .setRegistryEnabled => [0x7c, 0x6b, 0x5b, 0x3b, 0xb0, 0xd1, 0x7a, 0xf1]
  | .sendRequested => [0xd9, 0x18, 0x84, 0x9a, 0x04, 0x6c, 0x77, 0x7a]
  | .txPdaCreated => [0x0d, 0x38, 0x77, 0xa9, 0x9c, 0xb1, 0x3e, 0x78]
  | .messageProcessed => [0x02, 0x82, 0x86, 0x2e, 0xf0, 0xe6, 0x54, 0xa7]
  | .systemStatusChanged => [0x12, 0x83, 0x29, 0x18, 0x10, 0x74, 0x29, 0x76]

/-- The tag of a kind in a mode; the mode matters to instructions only. -/
def tag (mode : TagMode) (kind : Kind) : Bytes :=
  match mode, kind.scope with
  | .anchor, .instruction => anchorTag instructionSpace kind.name
  | _, _ => kind.staticTag

/-- The tag of a kind in hexadecimal. -/
def tagText (mode : TagMode) (kind : Kind) : String :=
  Hex.encode (kind.tag mode)

end Kind

namespace Scope

/-- The names of the kinds of a table and their tags, in order. -/
def table (mode : TagMode) (scope : Scope) : List (String × String) :=
  scope.kinds.map fun kind => (kind.name, kind.tagText mode)

/-- The kind with the given tag in hexadecimal. -/
def kindTagged? (mode : TagMode) (scope : Scope) (tag : String) : Option Kind :=
  scope.kinds.find? fun kind => kind.tagText mode == tag

/-- The name of the kind with the given tag, which may be written in capital letters. -/
def nameOfTag? (mode : TagMode) (scope : Scope) (tag : String) : Option String :=
  (scope.kindTagged? mode (LetterCase.lower tag)).map Kind.name

end Scope

/-- Whether the tag of a message is known for events only. -/
def isLikelyEvent (mode : TagMode) (raw : Bytes) : Bool :=
  (Scope.event.nameOfTag? mode (tagOf raw)).isSome &&
    (Scope.instruction.nameOfTag? mode (tagOf raw)).isNone

end MessageGateway
