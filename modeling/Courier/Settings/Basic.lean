import Courier.Text.Escaped
import Courier.Text.Pieces

/-!
# Settings

The options of the engine, their defaults, and the checks that go beyond the type of an option.
-/

namespace Courier

/-- How log lines are stamped. -/
inductive TimeFormat where
  | localTime
  | utc
  | rfc3339
deriving DecidableEq, Inhabited

namespace TimeFormat

def text : TimeFormat → String
  | localTime => "local"
  | utc => "utc"
  | rfc3339 => "rfc3339"

def all : List TimeFormat := [localTime, utc, rfc3339]

/-- The format of this name; ASCII letters count the same in both cases. -/
def ofString? (s : String) : Option TimeFormat :=
  all.find? fun format => format.text.toList == s.toList.map Char.toLower

end TimeFormat

structure Settings where
  traceLevel : String
  timeFormat : TimeFormat
  /-- Seconds after which a cached listing is too old. -/
  cacheTtl : UInt64
  /-- How many steps in a row an operation may take without waiting. -/
  maxContinue : UInt32
  /-- How often a failed connection attempt is repeated. -/
  connectRetries : UInt32
  /-- Seconds between attempts. -/
  retryDelay : UInt64
deriving DecidableEq

namespace Settings

def default : Settings :=
  { traceLevel := "info", timeFormat := .localTime, cacheTtl := 600, maxContinue := 64
    connectRetries := 2, retryDelay := 5 }

instance : Inhabited Settings := ⟨default⟩

def traceLevels : List String := ["trace", "debug", "info", "warn", "error"]

/-- Why settings are refused. -/
inductive Fault where
  | unknownTraceLevel (level : String)
  | noSteps
deriving DecidableEq

def Fault.message : Fault → String
  | unknownTraceLevel level =>
    "trace_level " ++ Text.quoted level ++ " is not one of " ++ Text.join ", " traceLevels
  | noSteps => "max_continue must be at least 1"

/-- The trace level must be a known one, in either case, and an operation must be allowed at least
one step in a row; of two faults the level is reported. -/
def validate (settings : Settings) : Except Fault Unit :=
  if String.ofList (settings.traceLevel.toList.map Char.toLower) ∉ traceLevels then
    .error (.unknownTraceLevel settings.traceLevel)
  else if settings.maxContinue = 0 then .error .noSteps
  else .ok ()

end Settings

end Courier
