import Courier.Operation.Basic

/-!
# Removing files and directories

Files are removed one by one. One that cannot be removed does not stop the others and makes the
whole fail at the end; a critical failure or a timeout ends the operation at once. The cache is
told before each line is sent, so that nobody trusts an entry that is about to go.
-/

namespace Courier

variable {τ : Type} [Transport τ]

namespace DeleteTask

/-- A task for all files of a request. -/
def ofRequest (request : DeleteRequest) : DeleteTask :=
  { path := request.path, total := request.files.length, rest := request.files }

def send (task : DeleteTask) (desk : Desk τ Operation) : Step τ Operation DeleteTask :=
  match task.progress with
  | .start =>
    let desk := desk.note .info
      ("Deleting " ++ toString task.total ++ " file(s) from '" ++ task.path.text ++ "'")
    (desk.enter task.path).answer .again { task with progress := .entering }
  | .ready naming =>
    match task.rest with
    | [] =>
      if task.failed = 0 then desk.answer .ok task
      else
        (desk.note .warn
          (toString task.failed ++ " of " ++ toString task.total ++
            " file(s) could not be deleted")).answer .error task
    | file :: _ =>
      (desk.tellCache (.removeEntry · task.path file)).send (.remove ⟨task.path, naming, file⟩)
        { task with progress := .waiting naming }
  | .entering | .waiting _ => desk.unexpected .delete task.stage "send" task

/-- A failure that ends the whole operation. -/
def isFatal (result : Reply) : Bool := result.isCritical || result.contains .timeout

def completed (task : DeleteTask) (desk : Desk τ Operation) : Step τ Operation DeleteTask :=
  match task.progress with
  | .waiting naming =>
    let result := desk.result
    let task := { task with progress := .ready naming }
    if result.isError then
      if isFatal result then desk.answer result task
      else
        let file := task.rest.head?.getD ""
        (desk.note .debug ("could not delete '" ++ file ++ "': " ++ result.text)).answer .again
          { task with rest := task.rest.tail, failed := task.failed + 1 }
    else desk.answer .again { task with rest := task.rest.tail }
  | .start | .entering | .ready _ => desk.unexpected .delete task.stage "response" task

def returned (entered : Reply) (task : DeleteTask) (desk : Desk τ Operation) :
    Step τ Operation DeleteTask :=
  match task.progress with
  | .entering => desk.answer .again { task with progress := .ready (.after entered) }
  | .start | .ready _ | .waiting _ =>
    desk.unexpected .delete task.stage "subcommand result" task

/-- Whether the file in question is gone is unknown. -/
def cancel (task : DeleteTask) (desk : Desk τ Operation) : Desk τ Operation :=
  match task.progress, task.rest with
  | .waiting _, file :: _ => desk.mark task.path file false .unsure
  | _, _ => desk

end DeleteTask

namespace RemoveDirTask

def send (task : RemoveDirTask) (desk : Desk τ Operation) : Step τ Operation RemoveDirTask :=
  let request := task.request
  match task.progress with
  | .start =>
    let desk := desk.note .info
      ("Removing directory '" ++ request.path.nameOf .full request.subDir ++ "'")
    (desk.enter request.path).answer .again { task with progress := .entering }
  | .ready naming =>
    (desk.tellCache (.removeDir · request.path request.subDir)).send
      (.removeDir ⟨request.path, naming, request.subDir⟩)
      { task with progress := .waiting naming }
  | .entering | .waiting _ => desk.unexpected .removeDir task.stage "send" task

def completed (task : RemoveDirTask) (desk : Desk τ Operation) :
    Step τ Operation RemoveDirTask :=
  match task.progress with
  | .waiting _ => desk.answer desk.result task
  | .start | .entering | .ready _ => desk.unexpected .removeDir task.stage "response" task

def returned (entered : Reply) (task : RemoveDirTask) (desk : Desk τ Operation) :
    Step τ Operation RemoveDirTask :=
  match task.progress with
  | .entering =>
    (desk.noteEntered entered "using absolute path").answer .again
      { task with progress := .ready (.after entered) }
  | .start | .ready _ | .waiting _ =>
    desk.unexpected .removeDir task.stage "subcommand result" task

/-- Whether the directory is gone is unknown. -/
def cancel (task : RemoveDirTask) (desk : Desk τ Operation) : Desk τ Operation :=
  match task.progress with
  | .waiting _ => desk.mark task.request.path task.request.subDir true .unsure
  | _ => desk

end RemoveDirTask

end Courier
