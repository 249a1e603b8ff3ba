import Courier.Text.Backslash

/-!
# Texts and keys in a settings file

A basic text stands between double quotes and knows escapes; a literal text stands between single
quotes and is taken as it is. Three quotes open a text that may run over several lines. A key is a
bare word or a text on one line, and dots make a path of keys.
-/

namespace Courier.Toml

open Text (Scan)

def isBlank (c : Char) : Bool := c == ' ' || c == '\t'

/-- A tab, or any character that is not a control character of ASCII. -/
def isWritable (c : Char) : Bool := c == '\t' || (' ' ≤ c && c != '\x7f')

def blanks : Scan Unit := discard (Scan.span isBlank)

def lineEnd : Scan Unit := Scan.exactly "\n" <|> Scan.exactly "\r\n"

/-! ## Texts on one line -/

def basicChar : Scan Char :=
  Scan.one (fun c => isWritable c && c != '"' && c != '\\') <|> Scan.backslashed

def isLiteralChar (c : Char) : Bool := isWritable c && c != '\''

def basicText : Scan String := do
  Scan.exactly "\""
  let cs ← Scan.many basicChar
  Scan.exactly "\""
  return String.ofList cs

def literalText : Scan String := do
  Scan.exactly "'"
  let cs ← Scan.span isLiteralChar
  Scan.exactly "'"
  return String.ofList cs

/-! ## Texts on several lines -/

/-- One or two quotes, too few to close a text on several lines. -/
def fewQuotes (quote : Char) : Scan (List Char) := do
  let run ← Scan.span (· == quote)
  if run.length = 1 ∨ run.length = 2 then return run else failure

/-- The quotes that close a text on several lines; up to two before the last three belong to the
text. -/
def closingQuotes (quote : Char) : Scan (List Char) := do
  let run ← Scan.span (· == quote)
  if 3 ≤ run.length ∧ run.length ≤ 5 then return run.drop 3 else failure

/-- A text on several lines made of pieces. A line end right after the opening quotes is dropped,
and every other counts as one line feed. -/
def onSeveralLines (quote : Char) (piece : Scan (List Char)) : Scan String := do
  discard (Scan.times 3 (Scan.one (· == quote)))
  discard (optional lineEnd)
  let feed : Scan (List Char) := do
    lineEnd
    return ['\n']
  let body ← Scan.many (piece <|> feed <|> fewQuotes quote)
  let last ← closingQuotes quote
  return String.ofList (body.flatten ++ last)

/-- A backslash at the end of a line takes all blanks and line ends that follow it away. -/
def continuation : Scan (List Char) := do
  Scan.exactly "\\"
  blanks
  lineEnd
  discard (Scan.many (discard (Scan.one isBlank) <|> lineEnd))
  return []

def basicLines : Scan String :=
  onSeveralLines '"' (continuation <|> (fun c => [c]) <$> basicChar)

def literalLines : Scan String :=
  onSeveralLines '\'' ((fun c => [c]) <$> Scan.one isLiteralChar)

def text : Scan String := basicLines <|> basicText <|> literalLines <|> literalText

/-! ## Keys -/

def isBareChar (c : Char) : Bool := c.isAlphanum || c == '_' || c == '-'

def bareKey : Scan String := do
  let cs ← Scan.span isBareChar
  if cs.isEmpty then failure else return String.ofList cs

def key : Scan String := do
  blanks
  let name ← basicText <|> literalText <|> bareKey
  blanks
  return name

/-- Keys and values nest less than this deep. -/
def depthLimit : Nat := 80

/-- Keys with dots between them: the tables on the way, and the last key. -/
def keyPath : Scan (List String × String) := do
  let keys ← Scan.separated key (Scan.exactly ".")
  match keys.getLast? with
  | some last => if keys.length < depthLimit then return (keys.dropLast, last) else failure
  | none => failure

example : basicText.whole? "\"a\\tb\\u00e9\"" = some "a\tbé" := by cbv
example : literalText.whole? "'a\\tb'" = some "a\\tb" := by cbv

end Courier.Toml
