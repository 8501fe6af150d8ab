import PhaseSplit.Text.Glyph

/-!
# Log records

What the program says while it works: a list of records, each with a severity.

* `LogRecord` — a record;
* `Log.atLeastInfo` — the records that are shown unless debugging is on.
-/

namespace PhaseSplit

/-- How much a record matters, least first. -/
inductive Severity
  | debug
  | info
  | warning
  | error
  deriving DecidableEq

/-- The word for a severity. -/
def Severity.name : Severity → Text
  | .debug => Text.lit "DEBUG"
  | .info => Text.lit "INFO"
  | .warning => Text.lit "WARNING"
  | .error => Text.lit "ERROR"

/-- A record of the log. -/
structure LogRecord where
  severity : Severity
  message : Text
  deriving DecidableEq

/-- The records, in order. -/
abbrev Log := List LogRecord

/-- The records that are shown unless debugging is on. -/
def Log.atLeastInfo (log : Log) : Log := log.filter (·.severity ≠ .debug)

/-- A record for debugging. -/
def debug (message : Text) : LogRecord := ⟨.debug, message⟩

/-- A record of the normal course of work. -/
def info (message : Text) : LogRecord := ⟨.info, message⟩

/-- A record of something out of the ordinary that does not stop the work. -/
def warning (message : Text) : LogRecord := ⟨.warning, message⟩

end PhaseSplit
