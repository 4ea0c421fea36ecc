/-!
# Names of the logging facility

The level of a log is chosen by a name, and the logging facility has names not only for its levels.
Some stand for switches that are on, some for texts, and the others for the facility's parts and
what these are made of. Small and capital letters make different names: `INFO` is a level, `info`
is a part that writes an entry of that level.

## Main definitions

* `MessageGateway.LogLevel.Meaning` — what a name stands for.
* `MessageGateway.LogLevel.meaning?` — the meaning of a name, if it has one.
-/

namespace MessageGateway

namespace LogLevel

/-- What a name stands for. -/
inductive Meaning where
  /-- The level with the given number. -/
  | level (number : Nat)
  /-- A switch that is on. -/
  | switch
  /-- A text. -/
  | text
  /-- A part of the facility. -/
  | part
  deriving DecidableEq

/-! ### The names -/

/-- The levels with their numbers. -/
def levels : List (String × Nat) :=
  [("NOTSET", 0), ("DEBUG", 10), ("INFO", 20), ("WARNING", 30), ("WARN", 30), ("ERROR", 40),
    ("CRITICAL", 50), ("FATAL", 50)]

/-- The switches that are on. -/
def switches : List String :=
  ["logMultiprocessing", "logProcesses", "logThreads", "raiseExceptions"]

/-- The texts. -/
def texts : List String :=
  ["BASIC_FORMAT", "__author__", "__cached__", "__date__", "__doc__", "__file__", "__name__",
    "__package__", "__status__", "__version__", "_srcfile"]

/-- The parts that are open to everyone. -/
def openParts : List String :=
  ["BufferingFormatter", "FileHandler", "Filter", "Filterer", "Formatter", "GenericAlias",
    "Handler", "LogRecord", "Logger", "LoggerAdapter", "Manager", "NullHandler", "PercentStyle",
    "PlaceHolder", "RootLogger", "StrFormatStyle", "StreamHandler", "StringTemplateStyle",
    "Template", "addLevelName", "atexit", "basicConfig", "captureWarnings", "collections",
    "critical", "currentframe", "debug", "disable", "error", "exception", "fatal",
    "getLevelName", "getLevelNamesMapping", "getLogRecordFactory", "getLogger", "getLoggerClass",
    "info", "io", "lastResort", "log", "makeLogRecord", "os", "re", "root",
    "setLogRecordFactory", "setLoggerClass", "shutdown", "sys", "threading", "time", "traceback",
    "warn", "warning", "warnings", "weakref"]

/-- The parts that the facility keeps to itself. -/
def innerParts : List String :=
  ["_STYLES", "_StderrHandler", "_acquireLock", "_addHandlerRef",
    "_after_at_fork_child_reinit_locks", "_at_fork_reinit_lock_weakset", "_checkLevel",
    "_defaultFormatter", "_defaultLastResort", "_handlerList", "_handlers", "_is_internal_frame",
    "_levelToName", "_lock", "_logRecordFactory", "_loggerClass", "_nameToLevel",
    "_register_at_fork_reinit_lock", "_releaseLock", "_removeHandlerRef", "_showwarning",
    "_startTime", "_str_formatter", "_warnings_showwarning"]

/-- The parts that the facility has in common with everything that has named parts. -/
def commonParts : List String :=
  ["__all__", "__annotations__", "__builtins__", "__class__", "__delattr__", "__dict__",
    "__dir__", "__eq__", "__format__", "__ge__", "__getattribute__", "__getstate__", "__gt__",
    "__hash__", "__init__", "__init_subclass__", "__le__", "__loader__", "__lt__", "__ne__",
    "__new__", "__path__", "__reduce__", "__reduce_ex__", "__repr__", "__setattr__",
    "__sizeof__", "__spec__", "__str__", "__subclasshook__"]

/-- The parts of the facility. -/
def parts : List String :=
  openParts ++ innerParts ++ commonParts

/-! ### Looking a name up -/

/-- The meaning of a name, if it has one. -/
def meaning? (name : String) : Option Meaning :=
  match levels.lookup name with
  | some number => some (.level number)
  | none =>
    if name ∈ switches then some .switch
    else if name ∈ texts then some .text
    else if name ∈ parts then some .part
    else none

example : meaning? "INFO" = some (.level 20) := by decide +kernel

example : meaning? "info" = some .part := by decide +kernel

example : meaning? "Info" = none := by decide +kernel

end LogLevel

end MessageGateway
