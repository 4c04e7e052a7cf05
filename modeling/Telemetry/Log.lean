/-!
Log lines.
-/
namespace Telemetry

/-- The levels of a log, the gravest first. -/
inductive Level where
  | error
  | warn
  | info
  | debug
  | trace
  deriving DecidableEq, Repr

namespace Level

def name : Level → String
  | .error => "error"
  | .warn => "warn"
  | .info => "info"
  | .debug => "debug"
  | .trace => "trace"

/-- How much a log shows: a line is shown if its rank is at most that of the log. -/
def rank : Level → Nat
  | .error => 1
  | .warn => 2
  | .info => 3
  | .debug => 4
  | .trace => 5

end Level

/-- A line of a log. -/
structure LogLine where
  level : Level
  text : String
  deriving DecidableEq, Repr

namespace LogLine

def error (text : String) : LogLine := ⟨.error, text⟩

/-- A line about something unexpected. -/
def warn (text : String) : LogLine := ⟨.warn, text⟩

def info (text : String) : LogLine := ⟨.info, text⟩

/-- A line for those who look for faults. -/
def debug (text : String) : LogLine := ⟨.debug, text⟩

end LogLine

end Telemetry
