import Courier.Toml.Number
import Courier.Toml.Table
import Courier.Toml.Text

/-!
# Settings files

A file in the TOML format is a row of lines; each may hold a header or an entry, and end in a
comment. `Document.read?` gives the fields of the whole file, or nothing if any line is malformed
or defines something twice.
-/

namespace Courier.Toml

open Text (Scan)

/-! ## Values -/

def comment : Scan Unit := do
  Scan.exactly "#"
  discard (Scan.span isWritable)

/-- What may stand between the items of an array: blanks, comments and line ends. -/
def gap : Scan Unit :=
  discard (Scan.many (discard (Scan.one isBlank) <|> lineEnd <|> comment))

/-- A value that holds no other. A moment counts as a dictionary: there is no better place for it
among values, and no option takes one. -/
def scalar : Scan Value :=
  Value.text <$> text <|>
  (do Scan.exactly "true"; return .bool true) <|>
  (do Scan.exactly "false"; return .bool false) <|>
  (do moment; return .dict []) <|>
  (do real; return .real) <|>
  Value.int <$> integer

/-- Items in square brackets; a comma may follow the last. -/
def array (item : Scan Value) : Scan Value := do
  Scan.exactly "["
  let spaced : Scan Value := do
    gap
    let v ← item
    gap
    return v
  let items ← optional (Scan.separated spaced (Scan.exactly ","))
  if items.isSome then discard (optional (Scan.exactly ","))
  gap
  Scan.exactly "]"
  return .list (items.getD [])

/-- A key path and its value. -/
def keyed (item : Scan Value) : Scan (List String × String × Value) := do
  let (dots, name) ← keyPath
  Scan.exactly "="
  blanks
  let v ← item
  blanks
  return (dots, name, v)

/-- Entries in braces, all on one line. -/
def inlineTable (item : Scan Value) : Scan Value := do
  Scan.exactly "\x7b"
  let pairs ← optional (Scan.separated (keyed item) (Scan.exactly ","))
  blanks
  Scan.exactly "\x7d"
  let define (entries : Entries) : List String × String × Value → Option Entries
    | (dots, name, v) => Entries.define dots name v entries
  match (pairs.getD []).foldlM define [] with
  | some entries => return .dict (fieldsOf entries)
  | none => failure

/-- A value with so many levels of arrays and tables in it. -/
def value : (depth : Nat) → Scan Value
  | 0 => scalar
  | depth + 1 => scalar <|> array (value depth) <|> inlineTable (value depth)

/-! ## Lines -/

inductive Line where
  | empty
  /-- The table that the following entries belong to. -/
  | header (path : List String) (name : String)
  /-- A new table at the end of a row, which the following entries belong to. -/
  | element (path : List String) (name : String)
  | entry (dots : List String) (name : String) (value : Value)

namespace Line

def scanElement : Scan Line := do
  Scan.exactly "[["
  let (path, name) ← keyPath
  Scan.exactly "]]"
  return .element path name

def scanHeader : Scan Line := do
  Scan.exactly "["
  let (path, name) ← keyPath
  Scan.exactly "]"
  return .header path name

def scanEntry : Scan Line := do
  let (dots, name, v) ← keyed (value (depthLimit - 1))
  return .entry dots name v

def scan : Scan Line := do
  blanks
  let line ← scanElement <|> scanHeader <|> scanEntry <|> pure .empty
  blanks
  discard (optional comment)
  return line

end Line

/-! ## Documents -/

/-- What the lines read so far define, and the path of the table that entries belong to. -/
structure Document where
  root : Entries := []
  here : List String := []

namespace Document

def add (document : Document) : Line → Option Document
  | .empty => some document
  | .header path name => do
    let root ← document.root.alter .passed (fun _ => Entries.openTable name) path .header
    return { root, here := path ++ [name] }
  | .element path name => do
    let root ← document.root.alter .passed (fun _ => Entries.openElement name) path .header
    return { root, here := path ++ [name] }
  | .entry dots name v => do
    let root ←
      document.root.alter .passed (fun _ => Entries.define dots name v) document.here .header
    return { document with root }

/-- All lines of a file, which may begin with a byte order mark. -/
def lines : Scan (List Line) := do
  discard (optional (Scan.exactly "\ufeff"))
  Scan.separated Line.scan lineEnd

/-- The fields that a file defines. -/
def read? (text : String) : Option (List (String × Value)) := do
  let lines ← lines.whole? text
  let document ← lines.foldlM add {}
  return fieldsOf document.root

end Document

end Courier.Toml
