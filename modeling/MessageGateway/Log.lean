/-!
# Logged results

What a computation reports beside its result: entries of a level and a message, in the order in
which they arise. `Logged` pairs the two.

## Main definitions

* `MessageGateway.LogEntry`, `MessageGateway.Logged`.
-/

namespace MessageGateway

/-- How serious an entry of the log is. -/
inductive Severity where
  | debug
  | warning
  deriving DecidableEq

/-- The name of a severity. -/
def Severity.label : Severity → String
  | .debug => "DEBUG"
  | .warning => "WARNING"

/-- An entry of the log. -/
structure LogEntry where
  severity : Severity
  message : String
  deriving DecidableEq

/-- A result and the entries that were logged on the way to it. -/
structure Logged (α : Type) where
  value : α
  log : List LogEntry

namespace Logged

/-- A result that nothing was logged for. -/
def silent {α : Type} (value : α) : Logged α :=
  ⟨value, []⟩

/-- The log is kept and the result is taken further. -/
def map {α β : Type} (f : α → β) (x : Logged α) : Logged β :=
  ⟨f x.value, x.log⟩

/-- The entries of a list of results, one behind the other. -/
def sequence {α : Type} (xs : List (Logged α)) : Logged (List α) :=
  ⟨xs.map (·.value), xs.flatMap (·.log)⟩

end Logged

end MessageGateway
