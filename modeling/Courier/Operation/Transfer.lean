import Courier.Operation.Basic

/-!
# Transferring a file

The local end is opened just before the line is sent, and given up as soon as the line completes
or the operation is cancelled. An upload changes the remote directory, a download does not.
-/

namespace Courier.TransferTask

variable {τ : Type} [Transport τ]

def direction (task : TransferTask) : String :=
  if task.request.isDownload then "download" else "upload"

/-- Opens the local end; what cannot be opened is a critical failure, of writing for a sink. -/
def openChannel (task : TransferTask) (desk : Desk τ Operation) :
    Except (Reply × Desk τ Operation) (Local.Channel × Desk τ Operation) :=
  match task.request.localEnd with
  | .upload source =>
    match source.openReader desk.store with
    | .ok reader => .ok (.upload reader, desk)
    | .error e =>
      .error (.critical, desk.note .warn ("Could not open '" ++ source.name ++ "': " ++ e.text))
  | .download sink =>
    match sink.openWriter desk.store with
    | .ok (writer, store) =>
      .ok (.download writer (task.request.flags.contains .fsync), { desk with store })
    | .error e =>
      .error (.critical ||| .writeFailed,
        desk.note .warn ("Could not open '" ++ sink.name ++ "': " ++ e.text))

/-- What the transport is told before the line is sent. -/
def announcement (store : Local.Store) (request : TransferRequest) (remote : String) :
    Announcement :=
  let (localName, size) := match request.localEnd with
    | .upload source => (source.name, source.size? store)
    | .download sink => (sink.name, none)
  { isDownload := request.isDownload, remote, localName, size
    extra := request.extra, resume := request.resume }

/-- Records what becomes of the remote file, which only an upload changes. -/
def mark (task : TransferTask) (freshness : Freshness) (desk : Desk τ Operation) :
    Desk τ Operation :=
  if task.request.isDownload then desk
  else desk.mark task.request.path task.request.file false freshness

def send (task : TransferTask) (desk : Desk τ Operation) : Step τ Operation TransferTask :=
  let request := task.request
  match task.progress with
  | .start =>
    let desk := if request.flags.protocolBits.contains .ascii then
        desk.note .debug "ASCII mode has no meaning over SFTP, ignoring"
      else desk
    let desk := desk.note .info
      ("Starting " ++ task.direction ++ " of '" ++ request.path.nameOf .full request.file ++ "'")
    (desk.enter request.path).answer .again { task with progress := .entering }
  | .ready naming =>
    match task.openChannel desk with
    | .error (reply, desk) => desk.answer reply task
    | .ok (channel, desk) =>
      let desk := task.mark .unknown desk
      let object : ObjectName := ⟨request.path, naming, request.file⟩
      let desk := desk.announce (announcement desk.store request object.text)
      desk.send (if request.isDownload then .get object else .put object)
        { task with progress := .waiting naming, channel := some channel }
  | .entering | .waiting _ => desk.unexpected .transfer task.stage "send" task

def completed (task : TransferTask) (desk : Desk τ Operation) : Step τ Operation TransferTask :=
  match task.progress with
  | .waiting _ =>
    let result := desk.result
    let desk := if result.isError then
        desk.note .debug (task.direction ++ " failed: " ++ result.text)
      else desk
    desk.answer result { task with channel := none }
  | .start | .entering | .ready _ => desk.unexpected .transfer task.stage "response" task

def returned (entered : Reply) (task : TransferTask) (desk : Desk τ Operation) :
    Step τ Operation TransferTask :=
  match task.progress with
  | .entering =>
    (desk.noteEntered entered "using absolute path").answer .again
      { task with progress := .ready (.after entered) }
  | .start | .ready _ | .waiting _ =>
    desk.unexpected .transfer task.stage "subcommand result" task

/-- Gives up the local end; of an upload under way the outcome is unknown. -/
def cancel (task : TransferTask) (desk : Desk τ Operation) : TransferTask × Desk τ Operation :=
  let desk := match task.progress with
    | .waiting _ => task.mark .unsure desk
    | _ => desk
  ({ task with channel := none }, desk)

end Courier.TransferTask
