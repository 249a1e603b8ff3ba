import Courier.Command.Kind
import Courier.Credentials
import Courier.Flags
import Courier.Local.Data
import Courier.RemotePath.Basic
import Courier.Server

/-!
# Commands

A command describes one remote operation and its parameters and holds no state of execution.
A command is valid if it could ever become a well-formed request.
-/

namespace Courier

structure ConnectRequest where
  server : Server
  /-- The identity under which the session is kept. -/
  handle : Server
  credentials : Credentials
  /-- Try again if an attempt fails. -/
  retry : Bool

/-- A request under the server's own identity, with retries. -/
def ConnectRequest.ofServer (server : Server) (credentials : Credentials) : ConnectRequest :=
  { server, handle := server, credentials, retry := true }

/-- Lists `path`, or the directory `subDir` seen from it. -/
structure ListRequest where
  path : RemotePath := .unspecified
  subDir : String := ""
  flags : ListFlags := .none

/-- The local end of a transfer. -/
inductive TransferEnd where
  | upload (source : Local.Source)
  | download (sink : Local.Sink)

structure TransferRequest where
  localEnd : TransferEnd
  path : RemotePath
  file : String
  flags : TransferFlags
  /-- Free text for the protocol. -/
  extra : String := ""
  /-- What the protocol needs to resume, as it stored it. -/
  resume : Local.Bytes := []

def TransferRequest.isDownload (request : TransferRequest) : Bool := request.flags.isDownload

structure DeleteRequest where
  path : RemotePath
  files : List String

structure RemoveDirRequest where
  path : RemotePath
  subDir : String

structure MakeDirRequest where
  path : RemotePath

structure RenameRequest where
  fromPath : RemotePath
  fromFile : String
  toPath : RemotePath
  toFile : String

structure ChmodRequest where
  path : RemotePath
  file : String
  /-- In the notation of the server. -/
  permission : String

structure HttpRequest where
  uri : String
  verb : String
  body : Option Local.Source := none
  response : Option Local.Sink := none
  /-- The query of the address holds secrets. -/
  confidential : Bool := false

inductive Command where
  | connect (request : ConnectRequest)
  | disconnect
  | list (request : ListRequest)
  | transfer (request : TransferRequest)
  | delete (request : DeleteRequest)
  | removeDir (request : RemoveDirRequest)
  | makeDir (request : MakeDirRequest)
  | rename (request : RenameRequest)
  | chmod (request : ChmodRequest)
  | raw (line : String)
  | http (request : HttpRequest)

def Command.kind : Command → CommandKind
  | connect _ => .connect
  | disconnect => .disconnect
  | list _ => .list
  | transfer _ => .transfer
  | delete _ => .delete
  | removeDir _ => .removeDir
  | makeDir _ => .makeDir
  | rename _ => .rename
  | chmod _ => .chmod
  | raw _ => .raw
  | http _ => .httpRequest

/-! ## Validity -/

def ConnectRequest.valid (request : ConnectRequest) : Bool :=
  request.server.valid && request.credentials.valid && request.handle == request.server

/-- A directory below needs a directory above, and a link needs a name. -/
def ListRequest.valid (request : ListRequest) : Bool :=
  !(request.path.isUnspecified && request.subDir != "") &&
    !(request.flags.contains .link && request.subDir == "")

/-- The local end fits the direction. -/
def TransferEnd.fits (isDownload : Bool) : TransferEnd → Bool
  | upload _ => !isDownload
  | download _ => isDownload

def TransferRequest.valid (request : TransferRequest) : Bool :=
  !request.path.isUnspecified && request.file != "" && request.localEnd.fits request.isDownload

def DeleteRequest.valid (request : DeleteRequest) : Bool :=
  !request.path.isUnspecified && !request.files.isEmpty

def RemoveDirRequest.valid (request : RemoveDirRequest) : Bool :=
  !request.path.isUnspecified && request.subDir != ""

/-- The root cannot be made. -/
def MakeDirRequest.valid (request : MakeDirRequest) : Bool := request.path.hasParent

def RenameRequest.valid (request : RenameRequest) : Bool :=
  !request.fromPath.isUnspecified && request.fromFile != "" &&
    !request.toPath.isUnspecified && request.toFile != ""

def ChmodRequest.valid (request : ChmodRequest) : Bool :=
  !request.path.isUnspecified && request.file != "" && request.permission != ""

/-- What follows a text that `cs` starts with. -/
def HttpRequest.after? (start cs : List Char) : Option (List Char) :=
  if start.isPrefixOf cs then some (cs.drop start.length) else none

/-- The part of an address between its scheme and the first of `/`, `?` and `#`. -/
def HttpRequest.host? (uri : String) : Option (List Char) :=
  (after? "https://".toList uri.toList <|> after? "http://".toList uri.toList).map
    fun rest => rest.takeWhile fun c => c != '/' && c != '?' && c != '#'

/-- The address has a host, and there is a verb. -/
def HttpRequest.valid (request : HttpRequest) : Bool :=
  match host? request.uri with
  | some host => !host.isEmpty && request.verb != ""
  | none => false

def Command.valid : Command → Bool
  | connect request => request.valid
  | disconnect => true
  | list request => request.valid
  | transfer request => request.valid
  | delete request => request.valid
  | removeDir request => request.valid
  | makeDir request => request.valid
  | rename request => request.valid
  | chmod request => request.valid
  | raw line => line != ""
  | http request => request.valid

/-! ## The main argument -/

/-- The address as it may be shown: a confidential query is left out. -/
def HttpRequest.shownUri (request : HttpRequest) : String :=
  let cs := request.uri.toList
  if request.confidential && cs.contains '?' then
    String.ofList (cs.takeWhile (· != '?')) ++ "?<redacted>"
  else request.uri

/-- A short text for what the command is about. -/
def Command.mainArgument : Command → String
  | connect request => request.server.text
  | disconnect => ""
  | list request =>
    if request.subDir = "" then request.path.text
    else request.path.nameOf .full request.subDir
  | transfer request => request.path.nameOf .full request.file
  | delete request => request.path.text
  | removeDir request => request.path.nameOf .full request.subDir
  | makeDir request => request.path.text
  | rename request => request.fromPath.nameOf .full request.fromFile
  | chmod request => request.path.nameOf .full request.file
  | raw line => line
  | http request => request.shownUri

/-- The name of the command as one word. -/
def Command.title (command : Command) : String := command.kind.title

/-- The short word by which a span of log lines names the command. -/
def Command.spanName : Command → String
  | connect _ => "CONNECT"
  | disconnect => "DISCONNECT"
  | list _ => "LIST"
  | transfer request => if request.isDownload then "GET" else "PUT"
  | delete _ => "DELETE"
  | removeDir _ => "RMDIR"
  | makeDir _ => "MKDIR"
  | rename _ => "RENAME"
  | chmod _ => "CHMOD"
  | raw _ => "RAW"
  | http _ => "HTTP"

/-- What a listing request is about: a named directory, or the current one. -/
def ListRequest.target? (request : ListRequest) (current : Option RemotePath) :
    Option RemotePath :=
  if request.path.isUnspecified then current else some (request.path.join request.subDir)

end Courier
