import Courier.Operation.Basic

/-!
# Changing the remote working directory

Nothing is sent if we are already there. Once the line is out we do not know where we are, until
the server says that the change succeeded.
-/

namespace Courier.ChangeDirTask

variable {τ : Type} [Transport τ]

def send (task : ChangeDirTask) (desk : Desk τ Operation) : Step τ Operation ChangeDirTask :=
  if task.waiting then desk.unexpected .changeDir task.stage "send" task
  else if task.path.isUnspecified then
    (desk.note .debug "no directory to change into").answer .error task
  else if desk.session.directory = some task.path then
    (desk.note .debug ("already in " ++ task.path.text)).answer .ok task
  else
    { desk with session := { desk.session with directory := none } }.send
      (.changeDir task.path) { task with waiting := true }

def completed (task : ChangeDirTask) (desk : Desk τ Operation) :
    Step τ Operation ChangeDirTask :=
  if task.waiting then
    let result := desk.result
    let desk := if result = .ok then
        { desk with session := { desk.session with directory := some task.path } }
      else desk
    desk.answer result task
  else desk.unexpected .changeDir task.stage "response" task

end Courier.ChangeDirTask
