import EditScript.Failure

/-!
# Names of the log

The level of the log is looked up by name among all names that the log keeps something
under. A number is a level, and so is a text that names one. Any other text, and any other
thing that is kept, is refused. What is kept under which name is the log's own affair; a
table of it is given here.
-/

namespace EditScript

/-- What the log keeps under a name. -/
inductive LogEntry where
  /-- A number. A switch that is on counts as one. -/
  | rank (rank : Nat)
  | text (text : Text)
  /-- Nothing is kept; the level is left as it is. -/
  | nothing
  /-- A class, a function or anything else, as it is shown inside a message. -/
  | other (shown : Text)
  deriving DecidableEq, Repr

abbrev LogNames := Text → Option LogEntry

namespace LogNames

def levels : List (String × Nat) :=
  [("NOTSET", 0), ("DEBUG", 10), ("INFO", 20), ("WARNING", 30), ("WARN", 30), ("ERROR", 40),
    ("CRITICAL", 50), ("FATAL", 50)]

/-- The rank of a level, as long as none is set. -/
def unsetRank : Nat := 30

end LogNames

/-- The rank that an entry stands for as a level. -/
def LogEntry.level : LogEntry → Except ValueFault Nat
  | rank number => .ok number
  | text name =>
    match LogNames.levels.find? fun level => level.1.toList == name with
    | some (_, number) => .ok number
    | none => .error (.unknownLevel name)
  | nothing => .ok LogNames.unsetRank
  | other shown => .error (.notLevel shown)

namespace LogNames

def switches : List String :=
  ["raiseExceptions", "logThreads", "logMultiprocessing", "logProcesses"]

/-- A text that depends on the system, or is long, is stood for by a word. -/
def texts : List (String × String) :=
  [("BASIC_FORMAT", "%(levelname)s:%(name)s:%(message)s"), ("__name__", "logging"),
    ("__package__", "logging"), ("__status__", "production"), ("__version__", "0.5.1.2"),
    ("__date__", "07 February 2010"), ("__author__", "author"), ("__doc__", "documentation"),
    ("__file__", "file"), ("__cached__", "file"), ("_srcfile", "file")]

def classes : List String :=
  ["BufferingFormatter", "FileHandler", "Filter", "Filterer", "Formatter", "Handler", "LogRecord",
    "Logger", "LoggerAdapter", "Manager", "NullHandler", "PercentStyle", "PlaceHolder",
    "RootLogger", "StrFormatStyle", "StreamHandler", "StringTemplateStyle", "_StderrHandler"]

def functions : List String :=
  ["_acquireLock", "_addHandlerRef", "_after_at_fork_child_reinit_locks", "_checkLevel",
    "_is_internal_frame", "_register_at_fork_reinit_lock", "_releaseLock", "_removeHandlerRef",
    "_showwarning", "addLevelName", "basicConfig", "captureWarnings", "critical", "currentframe",
    "debug", "disable", "error", "exception", "fatal", "getLevelName", "getLevelNamesMapping",
    "getLogRecordFactory", "getLogger", "getLoggerClass", "info", "log", "makeLogRecord",
    "setLogRecordFactory", "setLoggerClass", "shutdown", "warn", "warning"]

def modules : List String :=
  ["atexit", "collections", "io", "os", "re", "sys", "threading", "time", "traceback", "warnings",
    "weakref"]

/-- What a module has besides what it defines. -/
def attributes : List String :=
  ["__all__", "__annotations__", "__builtins__", "__class__", "__delattr__", "__dict__", "__dir__",
    "__eq__", "__format__", "__ge__", "__getattribute__", "__getstate__", "__gt__", "__hash__",
    "__init__", "__init_subclass__", "__le__", "__loader__", "__lt__", "__ne__", "__new__",
    "__path__", "__reduce__", "__reduce_ex__", "__repr__", "__setattr__", "__sizeof__", "__spec__",
    "__str__", "__subclasshook__"]

def objects : List (String × String) :=
  [("GenericAlias", "<class 'types.GenericAlias'>"), ("Template", "<class 'string.Template'>"),
    ("_STYLES", "<styles>"), ("_at_fork_reinit_lock_weakset", "<locks>"),
    ("_defaultFormatter", "<logging.Formatter object>"),
    ("_defaultLastResort", "<_StderrHandler <stderr> (WARNING)>"), ("_handlerList", "<handlers>"),
    ("_handlers", "<WeakValueDictionary>"), ("_levelToName", "<levels>"),
    ("_lock", "<unlocked _thread.RLock object>"),
    ("_logRecordFactory", "<class 'logging.LogRecord'>"),
    ("_loggerClass", "<class 'logging.Logger'>"), ("_nameToLevel", "<levels>"),
    ("_startTime", "<time>"), ("_str_formatter", "<string.Formatter object>"),
    ("lastResort", "<_StderrHandler <stderr> (WARNING)>"), ("root", "<RootLogger root (WARNING)>")]

def entries : List (String × LogEntry) :=
  levels.map (fun (name, rank) => (name, .rank rank)) ++
    switches.map (fun name => (name, .rank 1)) ++
    texts.map (fun (name, text) => (name, .text text.toList)) ++
    [("_warnings_showwarning", .nothing)] ++
    classes.map (fun name => (name, .other ("<class 'logging." ++ name ++ "'>").toList)) ++
    functions.map (fun name => (name, .other ("<function " ++ name ++ ">").toList)) ++
    modules.map (fun name => (name, .other ("<module '" ++ name ++ "'>").toList)) ++
    attributes.map (fun name => (name, .other ("<" ++ name ++ ">").toList)) ++
    objects.map fun (name, shown) => (name, .other shown.toList)

/-- The names of the standard log. Where a thing is shown with its place in the system, that is
left out. -/
def standard : LogNames := fun name =>
  (entries.find? fun entry => entry.1.toList == name).map (·.2)

end LogNames

end EditScript
