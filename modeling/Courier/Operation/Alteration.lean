import Courier.Operation.Basic

/-!
# Altering the remote tree

Making a directory, renaming, changing permissions, and lines of the caller. The cache is told
before the line is sent; a line of the caller may do anything, so everything known of the server is
forgotten. A cancelled operation leaves what it touched in doubt.
-/

namespace Courier

variable {τ : Type} [Transport τ]

namespace MakeDirTask

/-- Records what becomes of the directory's entry in the one above it. -/
def mark (task : MakeDirTask) (freshness : Freshness) (desk : Desk τ Operation) :
    Desk τ Operation :=
  match task.request.path.parent?, task.request.path.lastName? with
  | some parent, some name => desk.mark parent name true freshness
  | _, _ => desk

/-- The directory is always named in full. -/
def send (task : MakeDirTask) (desk : Desk τ Operation) : Step τ Operation MakeDirTask :=
  match task.stage with
  | .start =>
    (desk.note .info ("Creating directory '" ++ task.request.path.text ++ "'")).answer .again
      { task with stage := .ready }
  | .ready =>
    (task.mark .unknown desk).send (.makeDir task.request.path) { task with stage := .waiting }
  | .waiting => desk.unexpected .makeDir task.stageName "send" task

def completed (task : MakeDirTask) (desk : Desk τ Operation) : Step τ Operation MakeDirTask :=
  match task.stage with
  | .waiting => desk.answer desk.result task
  | .start | .ready => desk.unexpected .makeDir task.stageName "response" task

def cancel (task : MakeDirTask) (desk : Desk τ Operation) : Desk τ Operation :=
  if task.stage = .waiting then task.mark .unsure desk else desk

end MakeDirTask

namespace RenameTask

/-- The new name is bare only if the old one is and the directory stays the same. -/
def targetNaming (request : RenameRequest) (naming : RemotePath.Naming) : RemotePath.Naming :=
  if naming = .bare ∧ request.toPath = request.fromPath then .bare else .full

def send (task : RenameTask) (desk : Desk τ Operation) : Step τ Operation RenameTask :=
  let request := task.request
  match task.progress with
  | .start =>
    let desk := desk.note .info
      ("Renaming '" ++ request.fromPath.nameOf .full request.fromFile ++ "' to '" ++
        request.toPath.nameOf .full request.toFile ++ "'")
    (desk.enter request.fromPath).answer .again { task with progress := .entering }
  | .ready naming =>
    (desk.tellCache
      (.rename · request.fromPath request.fromFile request.toPath request.toFile)).send
      (.move ⟨request.fromPath, naming, request.fromFile⟩
        ⟨request.toPath, targetNaming request naming, request.toFile⟩)
      { task with progress := .waiting naming }
  | .entering | .waiting _ => desk.unexpected .rename task.stage "send" task

def completed (task : RenameTask) (desk : Desk τ Operation) : Step τ Operation RenameTask :=
  match task.progress with
  | .waiting _ => desk.answer desk.result task
  | .start | .entering | .ready _ => desk.unexpected .rename task.stage "response" task

def returned (entered : Reply) (task : RenameTask) (desk : Desk τ Operation) :
    Step τ Operation RenameTask :=
  match task.progress with
  | .entering =>
    (desk.noteEntered entered "using absolute paths").answer .again
      { task with progress := .ready (.after entered) }
  | .start | .ready _ | .waiting _ =>
    desk.unexpected .rename task.stage "subcommand result" task

/-- Either name may or may not exist now. -/
def cancel (task : RenameTask) (desk : Desk τ Operation) : Desk τ Operation :=
  match task.progress with
  | .waiting _ =>
    (desk.tellCache (.forgetDir · task.request.fromPath)).tellCache
      (.forgetDir · task.request.toPath)
  | _ => desk

end RenameTask

namespace ChmodTask

def mark (task : ChmodTask) (freshness : Freshness) (desk : Desk τ Operation) :
    Desk τ Operation :=
  desk.mark task.request.path task.request.file false freshness

def send (task : ChmodTask) (desk : Desk τ Operation) : Step τ Operation ChmodTask :=
  let request := task.request
  match task.progress with
  | .start =>
    let desk := desk.note .info
      ("Setting permissions of '" ++ request.path.nameOf .full request.file ++ "' to '" ++
        request.permission ++ "'")
    (desk.enter request.path).answer .again { task with progress := .entering }
  | .ready naming | .waiting naming =>
    (task.mark .unknown desk).send
      (.chmod request.permission ⟨request.path, naming, request.file⟩)
      { task with progress := .waiting naming }
  | .entering => desk.unexpected .chmod task.stage "send" task

def completed (task : ChmodTask) (desk : Desk τ Operation) : Step τ Operation ChmodTask :=
  match task.progress with
  | .ready _ | .waiting _ => desk.answer desk.result task
  | .start | .entering => desk.unexpected .chmod task.stage "response" task

def returned (entered : Reply) (task : ChmodTask) (desk : Desk τ Operation) :
    Step τ Operation ChmodTask :=
  match task.progress with
  | .entering =>
    (desk.noteEntered entered "using absolute path").answer .again
      { task with progress := .ready (.after entered) }
  | .start | .ready _ | .waiting _ =>
    desk.unexpected .chmod task.stage "subcommand result" task

def cancel (task : ChmodTask) (desk : Desk τ Operation) : Desk τ Operation :=
  match task.progress with
  | .waiting _ => task.mark .unsure desk
  | _ => desk

end ChmodTask

namespace RawTask

def send (task : RawTask) (desk : Desk τ Operation) : Step τ Operation RawTask :=
  if task.waiting then desk.unexpected .raw task.stage "send" task
  else
    let desk := (desk.note .info ("Sending raw command '" ++ task.line ++ "'")).tellCache
      .forgetServer
    { desk with session := { desk.session with directory := none } }.send (.raw task.line)
      { task with waiting := true }

def completed (task : RawTask) (desk : Desk τ Operation) : Step τ Operation RawTask :=
  if task.waiting then desk.answer desk.result task
  else desk.unexpected .raw task.stage "response" task

end RawTask

end Courier
