import Courier.Text.Backslash
import Courier.Text.Blank
import Courier.Text.Pieces
import Courier.Value

/-!
# Settings in environment variables

A variable whose name begins with `XFER_`, in either case, sets the option named by the rest. Its
value is read as a number, a truth value, a quoted text, an array in brackets or a dictionary in
braces where it has that form as a whole, and is a plain text otherwise.
-/

namespace Courier.Settings

open Text (Scan)

namespace Variable

/-- The beginning of the names that count. -/
def mark : String := "XFER_"

def lowered (cs : List Char) : List Char := cs.map Char.toLower

/-- The option that a variable of this name sets, and the keys on the way into it; dots in the
name make the way, and a name with an empty part sets nothing. -/
def keys? (name : String) : Option (List String) :=
  let cs := Text.trimmed name.toList
  let size := mark.toList.length
  if lowered (cs.take size) = lowered mark.toList then
    let parts := Text.pieces '.' (lowered (Text.trimmed (cs.drop size)))
    if [] ∈ parts then none else some (parts.map String.ofList)
  else none

/-! ## Values -/

/-- A blank of ASCII. -/
def isGap (c : Char) : Bool := c == ' ' || c == '\t' || c == '\n' || c == '\r' || c == '\x0c'

/-- Characters that give arrays and dictionaries their form. -/
def isMark (c : Char) : Bool := ",\x7b\x7d[]".toList.contains c

def isDecimal (cs : List Char) : Bool := !cs.isEmpty && cs.all Char.isDigit

def unsigned (cs : List Char) : List Char :=
  match cs with
  | '+' :: rest => rest
  | '-' :: rest => rest
  | _ => cs

/-- Digits with a point before, between or after them, and maybe an exponent. -/
def isReal (cs : List Char) : Bool :=
  let isPower (c : Char) : Bool := c == 'e' || c == 'E'
  let cs := unsigned cs
  let digits := cs.takeWhile fun c => !isPower c
  let exponent := cs.dropWhile fun c => !isPower c
  digits.count '.' = 1 && isDecimal (digits.filter fun c => c != '.') &&
    (exponent.isEmpty || isDecimal (unsigned (exponent.drop 1)))

/-- An integer that fits into 64 bits, with or without a sign. -/
def integer? (cs : List Char) : Option Int :=
  let n : Int := Text.numeral 10 (unsigned cs)
  let n := if cs.head? = some '-' then -n else n
  if isDecimal (unsigned cs) ∧ -9223372036854775808 ≤ n ∧ n < UInt64.size then some n else none

/-- A value that is not marked as anything else. -/
def plain : Scan Value := do
  let cs := Text.trimmed (← Scan.span fun c => !isMark c)
  if isReal cs then return .real
  else
    match integer? cs with
    | some n => return .int n
    | none => return .text (String.ofList cs)

/-- A text between double quotes. -/
def quotedText : Scan String := do
  Scan.exactly "\""
  let cs ← Scan.many (Scan.one (fun c => c != '"' && c != '\\') <|> Scan.backslashed)
  Scan.exactly "\""
  return String.ofList cs

/-- A single character between single quotes. -/
def quotedChar : Scan String := do
  Scan.exactly "'"
  let c ← Scan.one fun _ => true
  Scan.exactly "'"
  return String.singleton c

/-- Items between two marks, with commas between them; a comma may follow the last. -/
def enclosed {α : Type} (opening closing : String) (item : Scan α) : Scan (List α) := do
  let items : Scan (List α) := do
    let items ← Scan.separated item (Scan.exactly ",")
    discard (optional (Scan.exactly ","))
    Scan.exactly closing
    return items
  Scan.exactly opening
  (do Scan.exactly closing; return []) <|> items

def spaced {α : Type} (item : Scan α) : Scan α := do
  discard (Scan.span isGap)
  let a ← item
  discard (Scan.span isGap)
  return a

/-- A key of a dictionary and its value. -/
def keyed (item : Scan Value) : Scan (String × Value) := do
  let isWord (c : Char) : Bool := c.isAlphanum || c == '_' || c == '-'
  let word : Scan String := do
    let cs ← Scan.span isWord
    if cs.isEmpty then failure else return String.ofList cs
  let key ← spaced (quotedText <|> word)
  Scan.exactly "="
  return (key, ← spaced item)

/-- A value with so many levels of arrays and dictionaries in it. Its first characters decide what
it is. -/
def value (depth : Nat) : Scan Value := spaced fun cs =>
  if "true".toList.isPrefixOf cs then (do Scan.exactly "true"; return .bool true : Scan Value) cs
  else if "false".toList.isPrefixOf cs then
    (do Scan.exactly "false"; return .bool false : Scan Value) cs
  else
    match depth, cs.head? with
    | _, some '"' => (Value.text <$> quotedText) cs
    | _, some '\'' => (Value.text <$> quotedChar) cs
    | depth + 1, some '[' => (Value.list <$> enclosed "[" "]" (value depth)) cs
    | depth + 1, some '\x7b' => (Value.dict <$> enclosed "\x7b" "\x7d" (keyed (value depth))) cs
    | _, _ => plain cs

/-- The value of a variable. No text has more levels in it than characters. -/
def read (text : String) : Value :=
  ((value text.toList.length).whole? text).getD (.text text)

/-- The option that a variable sets, and its value. -/
def field? (name text : String) : Option (String × Value) :=
  match keys? name with
  | some (key :: way) => some (key, way.foldr (fun key v => .dict [(key, v)]) (read text))
  | _ => none

end Variable

/-- What the variables of an environment set. -/
def fieldsOfEnvironment (vars : List (String × String)) : List (String × Value) :=
  vars.filterMap fun (name, text) => Variable.field? name text

end Courier.Settings
