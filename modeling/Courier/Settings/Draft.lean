import Courier.Settings.Layers

/-!
# Reading settings from gathered options

Options are read in the order of their names, and the first that does not fit is reported. Only
then are missing options looked for, and last the settings as a whole are checked.
-/

namespace Courier.Settings

/-- Why gathered options do not make settings. -/
inductive Misfit where
  | unreadable (cause : Unreadable)
  | unknownOption (name : String)
  | missingOption (name : String)
  | wrongType (name : String)
  /-- An integer that is negative or too large. -/
  | outOfRange (name : String)
  /-- A text that names no time format. -/
  | unknownFormat (name : String)
deriving DecidableEq

/-- The fields read so far. -/
structure Draft where
  traceLevel : Option String := none
  timeFormat : Option TimeFormat := none
  cacheTtl : Option UInt64 := none
  maxContinue : Option UInt32 := none
  connectRetries : Option UInt32 := none
  retryDelay : Option UInt64 := none

namespace Draft

def textOf (name : String) : Value → Except Misfit String
  | .text s => .ok s
  | _ => .error (.wrongType name)

/-- A natural number below a size. -/
def natOf (size : Nat) (name : String) : Value → Except Misfit Nat
  | .int n =>
    if 0 ≤ n ∧ n < size then .ok n.toNat
    else .error (.outOfRange name)
  | _ => .error (.wrongType name)

def formatOf (name : String) (value : Value) : Except Misfit TimeFormat := do
  match TimeFormat.ofString? (← textOf name value) with
  | some format => return format
  | none => throw (.unknownFormat name)

/-- Reads one option. -/
def read (draft : Draft) (field : String × Value) : Except Misfit Draft := do
  let (name, value) := field
  if name = "trace_level" then
    return { draft with traceLevel := some (← textOf name value) }
  else if name = "time_format" then
    return { draft with timeFormat := some (← formatOf name value) }
  else if name = "cache_ttl" then
    return { draft with cacheTtl := some (.ofNat (← natOf UInt64.size name value)) }
  else if name = "max_continue" then
    return { draft with maxContinue := some (.ofNat (← natOf UInt32.size name value)) }
  else if name = "connect_retries" then
    return { draft with connectRetries := some (.ofNat (← natOf UInt32.size name value)) }
  else if name = "retry_delay" then
    return { draft with retryDelay := some (.ofNat (← natOf UInt64.size name value)) }
  else throw (.unknownOption name)

def need {α : Type} (name : String) : Option α → Except Misfit α
  | some a => .ok a
  | none => .error (.missingOption name)

/-- Settings, if every field was read. -/
def complete (draft : Draft) : Except Misfit Settings := do
  let traceLevel ← need "trace_level" draft.traceLevel
  let timeFormat ← need "time_format" draft.timeFormat
  let cacheTtl ← need "cache_ttl" draft.cacheTtl
  let maxContinue ← need "max_continue" draft.maxContinue
  let connectRetries ← need "connect_retries" draft.connectRetries
  let retryDelay ← need "retry_delay" draft.retryDelay
  return { traceLevel, timeFormat, cacheTtl, maxContinue, connectRetries, retryDelay }

end Draft

/-- Why settings cannot be had from gathered options. -/
inductive LoadFault where
  | misfit (misfit : Misfit)
  | invalid (fault : Fault)
deriving DecidableEq

/-- The wording, where it is this program's own. -/
def LoadFault.message? : LoadFault → Option String
  | misfit _ => none
  | invalid fault => some ("invalid configuration: " ++ fault.message)

namespace Layers

/-- The options gathered, if they are not spoilt. -/
def gathered (layers : Layers) : Except Misfit Options := layers.mapError .unreadable

/-- Valid settings made of all gathered options. -/
def settings (layers : Layers) : Except LoadFault Settings := do
  let read : Except Misfit Settings := do
    let options ← layers.gathered
    (← options.entries.foldlM Draft.read {}).complete
  let settings ← read.mapError .misfit
  settings.validate.mapError .invalid
  return settings

/-- The age limit of cached listings alone; other options need not fit. -/
def cacheTtl (layers : Layers) : Except Misfit UInt64 := do
  let options ← layers.gathered
  let value ← Draft.need "cache_ttl" (options.get? "cache_ttl")
  return .ofNat (← Draft.natOf UInt64.size "cache_ttl" value)

end Layers

example :
    (Layers.gather [.record (.dict [("cache_ttl", .int 30)]), .defaults]).settings.toOption =
      some { Settings.default with cacheTtl := 30 } := by decide

end Courier.Settings
