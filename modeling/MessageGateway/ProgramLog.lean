import MessageGateway.Payload

/-!
# Payloads in program logs

A program reports an event as a line of its log that holds the marker `Program data: ` and, behind
it, a payload. The payloads of a log (`ProgramLog.payloads`) are what follows the first marker of
each line that has one, without the blanks around it; empty ones and entries that are no text are
passed over. Every payload is decoded as an event.

## Main definitions

* `MessageGateway.ProgramLog.payloads`, `MessageGateway.ProgramLog.decode`.
-/

namespace MessageGateway

namespace ProgramLog

/-- What stands before a payload. -/
def marker : List Char :=
  "Program data: ".toList

/-- What follows the first marker. -/
def afterMarker? : List Char → Option (List Char)
  | [] => none
  | c :: cs =>
    if marker.isPrefixOf (c :: cs) then some ((c :: cs).drop marker.length) else afterMarker? cs

/-- The payload of an entry, if it has one. -/
def payload? (entry : Option String) : Option String :=
  match entry.bind fun line => afterMarker? line.toList with
  | none => none
  | some rest => if (strip rest).isEmpty then none else some (String.ofList (strip rest))

/-- The payloads of a log in order. -/
def payloads (entries : List (Option String)) : List String :=
  entries.filterMap payload?

/-- What becomes of the payloads of a log, decoded as events. -/
def decode (mode : TagMode) (entries : List (Option String)) : Logged (List Outcome) :=
  .sequence ((payloads entries).map fun payload => Payload.decodeAs mode .event (some payload))

end ProgramLog

end MessageGateway
