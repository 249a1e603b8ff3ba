import Courier.Text.Hex
import Courier.Text.Hidden

/-!
# Text in quotes

A text is shown between double quotes. The quote and the backslash get a backslash, tab, line
end, carriage return and null have letters of their own, and any other character without a
visible form is shown by its number.
-/

namespace Courier.Text

/-- A character number without leading zeros. -/
def scalarText (c : Char) : List Char := '\\' :: 'u' :: '\x7b' :: hexNumeral 6 c.toNat ++ ['\x7d']

/-- One character inside quotes; `isQuote` says which quotes get a backslash. -/
def escapeChar (isQuote : Char → Bool) (c : Char) : List Char :=
  if c = '\x00' then ['\\', '0']
  else if c = '\t' then ['\\', 't']
  else if c = '\r' then ['\\', 'r']
  else if c = '\n' then ['\\', 'n']
  else if c = '\\' || isQuote c then ['\\', c]
  else if isHidden c then scalarText c
  else [c]

/-- A text between double quotes, double quotes inside marked. -/
def quoted (text : String) : String :=
  "\"" ++ String.ofList (text.toList.flatMap (escapeChar (· == '"'))) ++ "\""

/-- A local file name between double quotes, single and double quotes inside marked. -/
def quotedFileName (name : String) : String :=
  "\"" ++ String.ofList (name.toList.flatMap (escapeChar fun c => c == '"' || c == '\'')) ++ "\""

/-- One byte inside quotes: visible ASCII as it is, anything else by name or number. -/
def escapeByte (byte : UInt8) : List Char :=
  if byte = 0 then ['\\', '0']
  else if byte = 9 then ['\\', 't']
  else if byte = 10 then ['\\', 'n']
  else if byte = 13 then ['\\', 'r']
  else if byte = 34 || byte = 92 then ['\\', Char.ofNat byte.toNat]
  else if 0x20 ≤ byte && byte < 0x7f then [Char.ofNat byte.toNat]
  else '\\' :: 'x' :: hexDigits 2 byte.toNat

/-- Bytes between double quotes, marked as bytes by a letter in front. -/
def quotedBytes (bytes : List UInt8) : String :=
  "b\"" ++ String.ofList (bytes.flatMap escapeByte) ++ "\""

example : quoted "a\"b\\\n" = "\"a\\\"b\\\\\\n\"" := by decide
example : quotedBytes [0x61, 0x22, 0xff] = "b\"a\\\"\\xff\"" := by decide

end Courier.Text
