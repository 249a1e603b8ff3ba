import Courier.Command.Basic
import Courier.Text.Outline

/-!
# Outlines of commands

The full text form of a command. It shows every parameter except passwords and confidential
queries. A sink on a shared buffer shows what is in the buffer, hence the store.
-/

namespace Courier

open Text (Outline)

def RemotePath.outline : RemotePath → Outline
  | unspecified => .record "ServerPath" [("segments", .leaf "None")] false
  | absolute segments =>
    .record "ServerPath"
      [("segments", .wrapped "Some" [.list (segments.map fun s => .text s.name)])] false

def ConnectRequest.outline (request : ConnectRequest) : Outline :=
  .record "ConnectArgs"
    [("server", request.server.outline), ("handle", request.handle.handleOutline),
     ("credentials", request.credentials.outline),
     ("retry_connecting", .bool request.retry)] false

def ListRequest.outline (request : ListRequest) : Outline :=
  .record "ListArgs"
    [("path", request.path.outline), ("sub_dir", .text request.subDir),
     ("flags", .leaf request.flags.describe)] false

def TransferEnd.outline (store : Local.Store) : TransferEnd → Outline
  | upload source => .wrapped "Upload" [source.outline]
  | download sink => .wrapped "Download" [sink.outline store]

def TransferRequest.outline (store : Local.Store) (request : TransferRequest) : Outline :=
  .record "TransferArgs"
    [("data", request.localEnd.outline store), ("remote_path", request.path.outline),
     ("remote_file", .text request.file), ("flags", .leaf request.flags.describe),
     ("extra_flags", .text request.extra),
     ("persistent_state", .list (request.resume.map fun byte => .nat byte.toNat))] false

def DeleteRequest.outline (request : DeleteRequest) : Outline :=
  .record "DeleteArgs"
    [("path", request.path.outline), ("files", .list (request.files.map .text))] false

def RemoveDirRequest.outline (request : RemoveDirRequest) : Outline :=
  .record "RemoveDirArgs"
    [("path", request.path.outline), ("sub_dir", .text request.subDir)] false

def MakeDirRequest.outline (request : MakeDirRequest) : Outline :=
  .record "MkdirArgs" [("path", request.path.outline)] false

def RenameRequest.outline (request : RenameRequest) : Outline :=
  .record "RenameArgs"
    [("from_path", request.fromPath.outline), ("from_file", .text request.fromFile),
     ("to_path", request.toPath.outline), ("to_file", .text request.toFile)] false

def ChmodRequest.outline (request : ChmodRequest) : Outline :=
  .record "ChmodArgs"
    [("path", request.path.outline), ("file", .text request.file),
     ("permission", .text request.permission)] false

def HttpRequest.outline (store : Local.Store) (request : HttpRequest) : Outline :=
  .record "HttpRequestArgs"
    [("uri", .text request.shownUri), ("verb", .text request.verb),
     ("body", .option Local.Source.outline request.body),
     ("response", .option (Local.Sink.outline store) request.response),
     ("confidential_qs", .bool request.confidential)] false

def Command.outline (store : Local.Store) (command : Command) : Outline :=
  match command with
  | .connect request => .wrapped command.title [request.outline]
  | .disconnect => .leaf command.title
  | .list request => .wrapped command.title [request.outline]
  | .transfer request => .wrapped command.title [request.outline store]
  | .delete request => .wrapped command.title [request.outline]
  | .removeDir request => .wrapped command.title [request.outline]
  | .makeDir request => .wrapped command.title [request.outline]
  | .rename request => .wrapped command.title [request.outline]
  | .chmod request => .wrapped command.title [request.outline]
  | .raw line => .wrapped command.title [.record "RawArgs" [("command", .text line)] false]
  | .http request => .wrapped command.title [request.outline store]

/-- The full text form. -/
def Command.describe (store : Local.Store) (command : Command) : String :=
  (command.outline store).render

end Courier
