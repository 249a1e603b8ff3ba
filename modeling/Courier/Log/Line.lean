import Courier.Log.Filter
import Courier.Settings.Basic

/-!
# Log lines

A shown event makes one line: a time stamp, the level, the target if targets are shown, and the
message. The filter comes from the environment or, without one there, from the trace level of the
settings; targets are only shown in the first case, when others may log too.
-/

namespace Courier.Log

/-! ## Time stamps -/

/-- A moment on the clock of a place, which is `offset` minutes ahead of universal time. -/
structure Moment where
  year : Nat
  month : Nat
  day : Nat
  hour : Nat
  minute : Nat
  second : Nat
  nanosecond : Nat
  offset : Int := 0

namespace Moment

/-- A number with zeros in front, so that it has so many digits. -/
def padded (width n : Nat) : String :=
  let digits := toString n
  String.ofList (List.replicate (width - digits.toList.length) '0') ++ digits

def date (moment : Moment) : String :=
  padded 4 moment.year ++ "-" ++ padded 2 moment.month ++ "-" ++ padded 2 moment.day

def time (moment : Moment) : String :=
  padded 2 moment.hour ++ ":" ++ padded 2 moment.minute ++ ":" ++ padded 2 moment.second

def milliseconds (moment : Moment) : String := "." ++ padded 3 (moment.nanosecond / 1000000)

/-- The fraction of the second in three, six or nine digits, or left out if it is zero. -/
def fraction (moment : Moment) : String :=
  if moment.nanosecond = 0 then ""
  else if moment.nanosecond % 1000000 = 0 then moment.milliseconds
  else if moment.nanosecond % 1000 = 0 then "." ++ padded 6 (moment.nanosecond / 1000)
  else "." ++ padded 9 moment.nanosecond

def zone (moment : Moment) : String :=
  let minutes := moment.offset.natAbs
  (if moment.offset < 0 then "-" else "+") ++ padded 2 (minutes / 60) ++ ":" ++
    padded 2 (minutes % 60)

end Moment

/-- A moment in this format. For the format in universal time it is a moment there. -/
def stamp (format : TimeFormat) (moment : Moment) : String :=
  match format with
  | .localTime => moment.date ++ " " ++ moment.time ++ moment.milliseconds
  | .utc => moment.date ++ " " ++ moment.time ++ moment.milliseconds ++ "Z"
  | .rfc3339 => moment.date ++ "T" ++ moment.time ++ moment.fraction ++ moment.zone

/-! ## Loggers -/

/-- The target of everything this engine logs. -/
def ownTarget : String := "xfer_engine"

structure Logger where
  filter : Filter
  showsTargets : Bool
  timeFormat : TimeFormat

/-- Why there is no logger. -/
inductive Fault where
  | directives (text : String)
  | level (text : String)
deriving DecidableEq

def Fault.message : Fault → String
  | directives text => "RUST_LOG=" ++ text ++ " was not understood"
  | level text => "invalid log level " ++ text

namespace Logger

/-- The logger for a trace level, or for the directives of the environment if there are any. -/
def make (level : String) (timeFormat : TimeFormat) (directives : Option String) :
    Except Fault Logger :=
  match directives with
  | some text =>
    match Filter.ofString? text with
    | some filter => .ok { filter, showsTargets := true, timeFormat }
    | none => .error (.directives text)
  | none =>
    match Filter.ofString? (ownTarget ++ "=" ++ level) with
    | some filter => .ok { filter, showsTargets := false, timeFormat }
    | none => .error (.level level)

/-- The level in a column of five. -/
def levelColumn (level : LogLevel) : String :=
  let name := level.text
  String.ofList (List.replicate (5 - name.toList.length) ' ') ++ name

/-- The line of an event, if it is shown. -/
def line? (logger : Logger) (moment : Moment) (event : Event) : Option String :=
  if logger.filter.shows event then
    some (stamp logger.timeFormat moment ++ " " ++ levelColumn event.level ++ " " ++
      (if logger.showsTargets then event.target ++ ": " else "") ++ event.message)
  else none

end Logger

end Courier.Log
