/-!
# Log

Each record of the log has a level, and records below a threshold are not kept.
-/

namespace SourceTidy

inductive Level where
  | debug
  /-- Reports on single lines, between the debugging and the informational ones. -/
  | verbose
  | info
  | warning
  | error
  | critical
  deriving DecidableEq, Repr

namespace Level

def number : Level → Nat
  | debug => 10
  | verbose => 19
  | info => 20
  | warning => 30
  | error => 40
  | critical => 50

def name : Level → String
  | debug => "DEBUG"
  | verbose => "VERBOSE"
  | info => "INFO"
  | warning => "WARNING"
  | error => "ERROR"
  | critical => "CRITICAL"

def all : List Level := [debug, verbose, info, warning, error, critical]

/-- The threshold with a given name. The level between debugging and information has one only if it is
registered. -/
def threshold? (verboseNamed : Bool) (name : String) : Option Nat :=
  if name == "VERBOSE" && !verboseNamed then none
  else [("CRITICAL", 50), ("FATAL", 50), ("ERROR", 40), ("WARN", 30), ("WARNING", 30),
    ("INFO", 20), ("VERBOSE", 19), ("DEBUG", 10), ("NOTSET", 0)].lookup name

end Level

structure LogRecord where
  level : Level
  message : String
  deriving DecidableEq, Repr

end SourceTidy
