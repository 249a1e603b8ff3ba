/-!
# Kinds of commands and operations

Some kinds are internal: they stand for work the engine does on its own account and never for a
command of a caller.
-/

namespace Courier

inductive CommandKind where
  | none
  | connect
  | disconnect
  | list
  | transfer
  | delete
  | removeDir
  | makeDir
  | rename
  | chmod
  | raw
  | httpRequest
  /-- Wait for a while. -/
  | sleep
  /-- Resolve a name. -/
  | lookup
  /-- Change the remote working directory. -/
  | changeDir
  | commonPrivate1
  | commonPrivate2
  | private1
  | private2
  | private3
  | private4
  | private5
  | private6
deriving DecidableEq, Inhabited

namespace CommandKind

/-- The name in capitals with words set apart, used in messages. -/
def text : CommandKind → String
  | none => "NONE"
  | connect => "CONNECT"
  | disconnect => "DISCONNECT"
  | list => "LIST"
  | transfer => "TRANSFER"
  | delete => "DELETE"
  | removeDir => "REMOVE_DIR"
  | makeDir => "MKDIR"
  | rename => "RENAME"
  | chmod => "CHMOD"
  | raw => "RAW"
  | httpRequest => "HTTP_REQUEST"
  | sleep => "SLEEP"
  | lookup => "LOOKUP"
  | changeDir => "CWD"
  | commonPrivate1 => "COMMON_PRIVATE1"
  | commonPrivate2 => "COMMON_PRIVATE2"
  | private1 => "PRIVATE1"
  | private2 => "PRIVATE2"
  | private3 => "PRIVATE3"
  | private4 => "PRIVATE4"
  | private5 => "PRIVATE5"
  | private6 => "PRIVATE6"

/-- The name as one word, used in outlines. -/
def title : CommandKind → String
  | none => "None"
  | connect => "Connect"
  | disconnect => "Disconnect"
  | list => "List"
  | transfer => "Transfer"
  | delete => "Delete"
  | removeDir => "RemoveDir"
  | makeDir => "Mkdir"
  | rename => "Rename"
  | chmod => "Chmod"
  | raw => "Raw"
  | httpRequest => "HttpRequest"
  | sleep => "Sleep"
  | lookup => "Lookup"
  | changeDir => "Cwd"
  | commonPrivate1 => "CommonPrivate1"
  | commonPrivate2 => "CommonPrivate2"
  | private1 => "Private1"
  | private2 => "Private2"
  | private3 => "Private3"
  | private4 => "Private4"
  | private5 => "Private5"
  | private6 => "Private6"

def all : List CommandKind :=
  [none, connect, disconnect, list, transfer, delete, removeDir, makeDir, rename, chmod, raw,
   httpRequest, sleep, lookup, changeDir, commonPrivate1, commonPrivate2, private1, private2,
   private3, private4, private5, private6]

/-- The kind of this title. -/
def ofTitle? (s : String) : Option CommandKind := all.find? fun kind => kind.title == s

/-- Reserved for the engine. -/
def isInternal : CommandKind → Bool
  | none | connect | disconnect | list | transfer | delete | removeDir | makeDir | rename
  | chmod | raw | httpRequest => false
  | _ => true

instance : ToString CommandKind := ⟨text⟩

end CommandKind

end Courier
