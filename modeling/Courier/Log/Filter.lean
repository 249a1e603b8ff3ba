import Courier.Journal
import Courier.Text.Blank
import Courier.Text.Hex
import Courier.Text.Pieces
import Courier.Text.Scan

/-!
# Log filters

A filter is a list of directives, separated by commas: a level, a target with or without a level,
or a span in brackets with fields in braces, as in `net=debug` or `net[task{id}]=trace`. Of the
directives that fit an event the most specific one says from which level on it is shown, and an
event that none fits is not shown.
-/

namespace Courier

/-- How grave a note of this level is. -/
def LogLevel.gravity : LogLevel → Nat
  | trace => 0
  | debug => 1
  | info => 2
  | warn => 3
  | error => 4

namespace Log

open Text (Scan)

/-- What is logged: where it comes from, how grave it is, and the names of its fields. -/
structure Event where
  target : String
  level : LogLevel
  fields : List String := ["message"]
  message : String

/-- From which level on events are shown; `none` shows nothing. -/
abbrev Threshold := Option LogLevel

def Threshold.shows (threshold : Threshold) (level : LogLevel) : Bool :=
  threshold.any fun least => least.gravity ≤ level.gravity

namespace Threshold

/-- Thresholds by number, from nothing to everything. -/
def all : List Threshold :=
  [none, some .error, some .warn, some .info, some .debug, some .trace]

def name : Threshold → String
  | none => "OFF"
  | some level => level.text

/-- A threshold by number, or by name in either case. -/
def ofText? (cs : List Char) : Option Threshold :=
  let digits := if cs.head? = some '+' then cs.drop 1 else cs
  if !digits.isEmpty && digits.all Char.isDigit then all[Text.numeral 10 digits]?
  else all.find? fun threshold => threshold.name.toList == cs.map Char.toUpper

end Threshold

/-! ## Directives -/

/-- A field that a directive asks for, with or without a value. -/
structure FieldPattern where
  name : String
  value : Option String

/-- Which events a directive is for, and from which level on it shows them. -/
structure Directive where
  target : Option String := none
  span : Option String := none
  fields : List FieldPattern := []
  threshold : Threshold := some .trace

namespace Directive

/-- May begin a target. Beyond ASCII every character but a blank counts as a letter. -/
def isTargetStart (c : Char) : Bool :=
  c.isAlphanum || "-:_".toList.contains c || (128 ≤ c.toNat && !Text.isBlank c)

def targetPart : Scan String := do
  let first ← Scan.one isTargetStart
  let rest ← Scan.span fun c => !"=[".toList.contains c
  return String.ofList (first :: rest)

def fieldPart : Scan FieldPattern := do
  let cs ← Scan.span fun c => c != '\x7d'
  match Text.pieces '=' cs with
  | [] => failure
  | name :: values =>
    if cs.isEmpty then failure
    else return { name := String.ofList name, value := values.head?.map String.ofList }

/-- A span in brackets, with a field in braces or without. -/
def spanPart : Scan (Option String × List FieldPattern) := do
  Scan.exactly "["
  let name := String.ofList (← Scan.span fun c => !"]\x7b".toList.contains c)
  let braced : Scan (Option String × List FieldPattern) := do
    Scan.exactly "\x7b"
    let pattern ← fieldPart
    Scan.exactly "\x7d]"
    return (if name = "" then none else some name, [pattern])
  braced <|> (do Scan.exactly "]"; return (some name, []))

/-- An equals sign and a threshold; everything is shown where the threshold is left out. -/
def levelPart : Scan Threshold := do
  Scan.exactly "="
  let cs ← Scan.span fun _ => true
  if cs.isEmpty then return some .trace
  else
    match Threshold.ofText? cs with
    | some threshold => return threshold
    | none => failure

/-- A directive with a span or a level. -/
def structured : Scan Directive := do
  let target ← optional targetPart
  let span ← optional spanPart
  let level ← optional levelPart
  if span.isNone && level.isNone || target.isNone && span.isNone then failure
  else
    let (name, fields) := span.getD (none, [])
    return { target, span := name, fields, threshold := level.getD (some .trace) }

/-- A directive that is a single word: a level, or else a target that is shown at every level. -/
def ofWord? (word : String) : Option Directive :=
  match targetPart.whole? word with
  | none => none
  | some _ =>
    match Threshold.ofText? word.toList with
    | some threshold => some { threshold }
    | none => some { target := some word }

/-- Reads a directive. Blanks around it are part of its words: a word with blanks is a target that
no event has, and no level has blanks. -/
def ofString? (text : String) : Option Directive :=
  let inner := String.ofList (Text.trimmed text.toList)
  match ofWord? inner with
  | some directive => some (if inner = text then directive else { target := some text })
  | none =>
    if inner = text ∨ '=' ∉ text.toList then structured.whole? inner else none

/-- Asks for no span and no field value. A directive that does decides about nothing outside of
spans, where all events here happen. -/
def isStatic (directive : Directive) : Bool :=
  directive.span.isNone && directive.fields.all fun pattern => pattern.value.isNone

/-- Does the directive fit this event? Its target is compared with the beginning of the event's. -/
def fits (directive : Directive) (event : Event) : Bool :=
  (directive.target.all fun target => target.toList.isPrefixOf event.target.toList) &&
    directive.fields.all fun pattern => event.fields.contains pattern.name

/-- How specific a directive is: by its target first, then by its fields. -/
def isAtLeastAs (a b : Directive) : Bool :=
  let length (directive : Directive) : Nat :=
    match directive.target with
    | none => 0
    | some target => target.utf8ByteSize + 1
  length b < length a || (length a == length b && b.fields.length ≤ a.fields.length)

end Directive

/-! ## Filters -/

structure Filter where
  directives : List Directive

namespace Filter

/-- Errors only; this stands where no directive is given. -/
def errorsOnly : Filter := ⟨[{ threshold := some .error }]⟩

/-- Reads directives with commas between them; empty ones are skipped. -/
def ofString? (text : String) : Option Filter :=
  let parts := (Text.pieces ',' text.toList).filter fun part => !part.isEmpty
  if parts.isEmpty then some errorsOnly
  else (parts.mapM fun part => Directive.ofString? (String.ofList part)).map Filter.mk

/-- The directive that decides about an event; of equally specific ones the later. -/
def deciding? (filter : Filter) (event : Event) : Option Directive :=
  let candidates := filter.directives.filter fun directive =>
    directive.isStatic && directive.fits event
  candidates.foldl (fun best directive =>
    match best with
    | none => some directive
    | some other => if directive.isAtLeastAs other then some directive else some other) none

def shows (filter : Filter) (event : Event) : Bool :=
  (filter.deciding? event).any fun directive => directive.threshold.shows event.level

end Filter

end Log

end Courier
