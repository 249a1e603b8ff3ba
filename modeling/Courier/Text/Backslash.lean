import Courier.Text.Hex
import Courier.Text.Scan

/-!
# Characters written with a backslash

A backslash and a letter stand for a character that is hard to write, and a backslash, `u` or `U`,
and four or eight hexadecimal digits for the character of that number.
-/

namespace Courier.Text

/-- What a character after a backslash stands for. -/
def shortEscape? : Char → Option Char
  | 'b' => some '\x08'
  | 't' => some '\t'
  | 'n' => some '\n'
  | 'f' => some '\x0c'
  | 'r' => some '\r'
  | '"' => some '"'
  | '\\' => some '\\'
  | _ => none

namespace Scan

/-- The character whose number these many hexadecimal digits write. -/
def numbered (count : Nat) : Scan Char := do
  let digits ← times count (one fun c => (hexValue? c).isSome)
  let n := numeral 16 digits
  if n.isValidChar then return Char.ofNat n else failure

/-- A character written with a backslash. -/
def backslashed : Scan Char := do
  exactly "\\"
  let c ← one fun _ => true
  if c = 'u' then numbered 4
  else if c = 'U' then numbered 8
  else
    match shortEscape? c with
    | some meant => return meant
    | none => failure

end Scan

end Courier.Text
