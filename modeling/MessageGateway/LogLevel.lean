import MessageGateway.LogLevel.Name
import MessageGateway.Settings

/-!
# Levels of the log

The log has a level, a number below which entries are dropped. It is set by name, either the one of
the settings in force or the one of an environment. A name without a meaning stands for the level
of warnings; one that stands for something other than a level cannot be used, except that a switch
ranks as the number one.

Level zero is no level of the log's own: the level of the program around the library holds then,
which is that of warnings until the first change sets it and stays as that change left it.

## Main definitions

* `MessageGateway.LogLevel.ofName` — the level of a name.
* `MessageGateway.LogLevels` — the levels that are set, and the one in force.
* `MessageGateway.LogLevel.configureAll` — the level after each of several changes.
-/

namespace MessageGateway

/-- A level of the log. -/
inductive LogLevel where
  /-- A number. -/
  | number (n : Nat)
  /-- A switch that is on. -/
  | switch
  deriving DecidableEq

/-- Why a name cannot be used as a level. -/
inductive UnusableLevel where
  /-- It stands for a text. -/
  | text
  /-- It stands for a part of the logging facility. -/
  | part
  deriving DecidableEq

/-- The number of a severity among the levels. -/
def Severity.level : Severity → Nat
  | .debug => 10
  | .warning => 30

namespace LogLevel

/-- The number that a level ranks as. -/
def rank : LogLevel → Nat
  | .number n => n
  | .switch => 1

/-- The level of a severity. -/
def ofSeverity (s : Severity) : LogLevel :=
  .number s.level

/-- The level of a name. -/
def ofName (name : String) : Except UnusableLevel LogLevel :=
  match meaning? name with
  | some (.level n) => .ok (.number n)
  | some .switch => .ok .switch
  | some .text => .error .text
  | some .part => .error .part
  | none => .ok (ofSeverity .warning)

end LogLevel

/-! ### The level in force -/

/-- The levels that are set. -/
structure LogLevels where
  /-- The level of the library's own log. -/
  own : LogLevel
  /-- The level of the program around it, once it is set. -/
  outer : Option LogLevel

namespace LogLevels

/-- The number below which entries are dropped. -/
def inForce (levels : LogLevels) : Nat :=
  if levels.own.rank = 0 then (levels.outer.getD (.ofSeverity .warning)).rank
  else levels.own.rank

/-- The levels after a change. -/
def change (levels : LogLevels) (level : LogLevel) : LogLevels :=
  ⟨level, some (levels.outer.getD level)⟩

/-- The entries that the log keeps. -/
def keep (levels : LogLevels) (entries : List LogEntry) : List LogEntry :=
  entries.filter fun e => levels.inForce ≤ e.severity.level

end LogLevels

/-! ### Changing the level -/

namespace LogLevel

/-- Where the name of a level comes from. -/
inductive Source where
  | name (level : String)
  | environment (env : Environment)

/-- The name of a level, and what is logged when it is read. -/
def Source.load : Source → Logged String
  | .name level => .silent level
  | .environment env => (Settings.load env).map Settings.logLevel

/-- The level of the log after each of several changes, from the levels before them. A name that
cannot be used ends it. -/
def configureAll (levels : LogLevels) :
    List Source → Logged (Except UnusableLevel (List LogLevel))
  | [] => .silent (.ok [])
  | source :: rest =>
    let name := source.load
    match ofName name.value with
    | .error e => ⟨.error e, levels.keep name.log⟩
    | .ok level =>
      let others := configureAll (levels.change level) rest
      ⟨others.value.map (level :: ·), levels.keep name.log ++ others.log⟩

end LogLevel

end MessageGateway
