import Courier.Text.Outline
import Courier.Text.Pieces

/-!
# Credentials

How to log on to a server. The password never appears in an outline.
-/

namespace Courier

/-- The way of logging on. -/
inductive Logon where
  | anonymous
  | normal
  /-- The server asks, the user answers. -/
  | interactive
  | key
deriving DecidableEq, Inhabited

def Logon.title : Logon → String
  | anonymous => "Anonymous"
  | normal => "Normal"
  | interactive => "Interactive"
  | key => "Key"

structure Credentials where
  logon : Logon := .anonymous
  password : String := ""
  keyFile : Option String := none
deriving DecidableEq, Inhabited

namespace Credentials

def ofPassword (password : String) : Credentials := { logon := .normal, password }

def ofKey (keyFile : String) : Credentials := { logon := .key, keyFile := some keyFile }

/-- Nothing the logon needs is missing. -/
def valid (credentials : Credentials) : Bool :=
  credentials.logon != .key || credentials.keyFile.isSome

/-- The parts of a local file name that matter: whether it starts at the root, and its levels
without the empty ones and without the dots after the first level. -/
def fileNameParts (name : String) : Bool × List (List Char) :=
  let levels := Text.pieces '/' name.toList
  let first := levels.take 1
  let rest := (levels.drop 1).filter (· ≠ ['.'])
  (name.toList.head? = some '/', (first ++ rest).filter (· ≠ []))

/-- The names lead to the same file by the same way. -/
def sameFileName (a b : String) : Bool := fileNameParts a == fileNameParts b

/-- The same logon; key files are compared as file names. -/
def same (a b : Credentials) : Bool :=
  a.logon == b.logon && a.password == b.password &&
    match a.keyFile, b.keyFile with
    | some a, some b => sameFileName a b
    | none, none => true
    | _, _ => false

def outline (credentials : Credentials) : Text.Outline :=
  .record "Credentials"
    [("logon_type", .leaf credentials.logon.title), ("password", .leaf "<redacted>"),
     ("key_file", .option (fun name => .leaf (Text.quotedFileName name)) credentials.keyFile)]
    false

end Credentials

end Courier
