import Courier.Text.Hex
import Courier.Text.Scan

/-!
# Numbers and moments in a settings file

Integers have 64 bits and are written in base ten, or after a mark in base sixteen, eight or two.
Digits may have single underscores between them, and a decimal integer has no leading zero. Reals
and moments are only checked: no option takes one.
-/

namespace Courier.Toml

open Text (Scan)

/-! ## Integers -/

/-- Is the number negative? -/
def sign : Scan Bool := do
  match ← optional (Scan.one fun c => c == '+' || c == '-') with
  | some c => return c == '-'
  | none => return false

def isDigitBelow (base : Nat) (c : Char) : Bool :=
  match Text.hexValue? c with
  | some n => n < base
  | none => false

/-- Digits with single underscores between them. -/
def digitRun (base : Nat) : Scan (List Char) := do
  let digit := Scan.one (isDigitBelow base)
  let first ← digit
  return first :: (← Scan.many (digit <|> Scan.exactly "_" *> digit))

/-- Decimal digits without a leading zero. -/
def wholePart : Scan (List Char) :=
  (do Scan.exactly "0"; return ['0']) <|> digitRun 10

def markedInteger (mark : String) (base : Nat) : Scan Int := do
  Scan.exactly mark
  return Text.numeral base (← digitRun base)

def decimalInteger : Scan Int := do
  let negative ← sign
  let n := Text.numeral 10 (← wholePart)
  return if negative then -n else n

def integer : Scan Int := do
  let n ← markedInteger "0x" 16 <|> markedInteger "0o" 8 <|> markedInteger "0b" 2 <|>
    decimalInteger
  if -9223372036854775808 ≤ n ∧ n < 9223372036854775808 then return n else failure

/-! ## Reals -/

def fraction : Scan (List Char) := Scan.exactly "." *> digitRun 10

def exponent : Scan Int := do
  discard (Scan.one fun c => c == 'e' || c == 'E')
  let negative ← sign
  let n := Text.numeral 10 (← digitRun 10)
  return if negative then -n else n

/-- Is `m · 10 ^ e` nearer to infinity than to the largest double? -/
def isTooLarge (m : Nat) (e : Int) : Bool :=
  let bound := Nat.pow 2 1024 - Nat.pow 2 970
  let magnitude := (Nat.toDigits 10 m).length + e
  if m = 0 ∨ magnitude < 300 then false
  else if 400 < magnitude then true
  else bound * Nat.pow 10 (-e).toNat ≤ m * Nat.pow 10 e.toNat

/-- A real; a positive one must not be too large. -/
def real : Scan Unit := do
  let negative ← sign
  Scan.exactly "inf" <|> Scan.exactly "nan" <|> do
    let whole ← wholePart
    let places ← optional fraction
    let scale ← optional exponent
    let m := Text.numeral 10 (whole ++ places.getD [])
    if places.isNone ∧ scale.isNone then failure
    else if !negative && isTooLarge m (scale.getD 0 - (places.getD []).length) then failure
    else return ()

/-! ## Moments -/

/-- A number of so many digits between two bounds. -/
def bounded (count low high : Nat) : Scan Nat := do
  let n := Text.numeral 10 (← Scan.times count (Scan.one Char.isDigit))
  if low ≤ n ∧ n ≤ high then return n else failure

def daysIn (year month : Nat) : Nat :=
  if month = 2 then
    if year % 4 = 0 ∧ (year % 100 ≠ 0 ∨ year % 400 = 0) then 29 else 28
  else if month ∈ [4, 6, 9, 11] then 30
  else 31

def date : Scan Unit := do
  let year ← bounded 4 0 9999
  Scan.exactly "-"
  let month ← bounded 2 1 12
  Scan.exactly "-"
  discard (bounded 2 1 (daysIn year month))

def clockTime : Scan Unit := do
  discard (bounded 2 0 23)
  Scan.exactly ":"
  discard (bounded 2 0 59)
  Scan.exactly ":"
  discard (bounded 2 0 60)
  discard (optional (do
    Scan.exactly "."
    discard (Scan.one Char.isDigit)
    discard (Scan.span Char.isDigit)))

def zone : Scan Unit :=
  discard (Scan.one fun c => c == 'Z' || c == 'z') <|> do
    discard (Scan.one fun c => c == '+' || c == '-')
    discard (bounded 2 0 23)
    Scan.exactly ":"
    discard (bounded 2 0 59)

/-- A date, a time of day, or both with or without a zone. -/
def moment : Scan Unit :=
  (do
    date
    discard (optional (do
      discard (Scan.one fun c => c == 'T' || c == 't' || c == ' ')
      clockTime
      discard (optional zone)))) <|> clockTime

example : integer.whole? "1_000" = some 1000 := by cbv
example : integer.whole? "007" = none := by cbv
example : integer.whole? "0xff" = some 255 := by cbv
example : moment.whole? "1979-02-29" = none := by cbv

end Courier.Toml
