import Courier.Engine.Behaviour
import Courier.Operation.Alteration
import Courier.Operation.ChangeDir
import Courier.Operation.Connection
import Courier.Operation.List
import Courier.Operation.Removal
import Courier.Operation.Transfer

/-!
# The behaviour of all operations

Connecting and disconnecting work over every protocol, all else over one.
-/

namespace Courier.Operation

variable {τ : Type} [Transport τ]

/-- The operation that executes a command over a protocol, if there is one. -/
def ofCommand? (command : Command) (protocol : Protocol) : Option Operation :=
  match command, protocol with
  | .connect request, _ => some (.connect { request })
  | .disconnect, _ => some (.disconnect {})
  | .list request, .sftp => some (.list { request })
  | .transfer request, .sftp => some (.transfer { request })
  | .delete request, .sftp => some (.delete (.ofRequest request))
  | .removeDir request, .sftp => some (.removeDir { request })
  | .makeDir request, .sftp => some (.makeDir { request })
  | .rename request, .sftp => some (.rename { request })
  | .chmod request, .sftp => some (.chmod { request })
  | .raw line, .sftp => some (.raw { line })
  | _, _ => none

def send (env : Env) (operation : Operation) (desk : Desk τ Operation) :
    Step τ Operation Operation :=
  match operation with
  | connect task => (task.send desk).map connect
  | disconnect task => (task.send desk).map disconnect
  | sleep task => (task.send desk).map sleep
  | changeDir task => (task.send desk).map changeDir
  | list task => (task.send env desk).map list
  | transfer task => (task.send desk).map transfer
  | delete task => (task.send desk).map delete
  | removeDir task => (task.send desk).map removeDir
  | makeDir task => (task.send desk).map makeDir
  | rename task => (task.send desk).map rename
  | chmod task => (task.send desk).map chmod
  | raw task => (task.send desk).map raw

def completed (env : Env) (operation : Operation) (desk : Desk τ Operation) :
    Step τ Operation Operation :=
  match operation with
  | connect task => (task.completed env desk).map connect
  | disconnect task => (task.completed desk).map disconnect
  | sleep task => (task.completed desk).map sleep
  | changeDir task => (task.completed desk).map changeDir
  | list task => (task.completed env desk).map list
  | transfer task => (task.completed desk).map transfer
  | delete task => (task.completed desk).map delete
  | removeDir task => (task.completed desk).map removeDir
  | makeDir task => (task.completed desk).map makeDir
  | rename task => (task.completed desk).map rename
  | chmod task => (task.completed desk).map chmod
  | raw task => (task.completed desk).map raw

/-- An operation that never asks for a subcommand cannot make sense of the end of one. -/
def unexpectedReturn (reply : Reply) (finished operation : Operation) (desk : Desk τ Operation) :
    Step τ Operation Operation :=
  let text := operation.kind.text ++ " in state " ++ operation.stage ++
    " received unexpected subcommand result " ++ reply.text ++ " from " ++ finished.kind.text
  (desk.note .error text).answer .internalError operation

def returned (reply : Reply) (finished operation : Operation) (desk : Desk τ Operation) :
    Step τ Operation Operation :=
  match operation with
  | connect task => (task.returned reply finished desk).map connect
  | list task => (task.returned reply desk).map list
  | transfer task => (task.returned reply desk).map transfer
  | delete task => (task.returned reply desk).map delete
  | removeDir task => (task.returned reply desk).map removeDir
  | rename task => (task.returned reply desk).map rename
  | chmod task => (task.returned reply desk).map chmod
  | disconnect _ | sleep _ | changeDir _ | makeDir _ | raw _ =>
    unexpectedReturn reply finished operation desk

/-- Operations that change nothing on the server are given up without more ado. -/
def cancel (operation : Operation) (desk : Desk τ Operation) : Operation × Desk τ Operation :=
  match operation with
  | transfer task =>
    let (task, desk) := task.cancel desk
    (transfer task, desk)
  | delete task => (operation, task.cancel desk)
  | removeDir task => (operation, task.cancel desk)
  | makeDir task => (operation, task.cancel desk)
  | rename task => (operation, task.cancel desk)
  | chmod task => (operation, task.cancel desk)
  | connect _ | disconnect _ | sleep _ | changeDir _ | list _ | raw _ => (operation, desk)

def step (env : Env) (event : Event Operation) (operation : Operation)
    (desk : Desk τ Operation) : Step τ Operation Operation :=
  match event with
  | .send => operation.send env desk
  | .completed => operation.completed env desk
  | .returned reply finished => returned reply finished operation desk

instance : Behaviour Operation where
  stage := stage
  ofCommand? := ofCommand?
  step := step
  cancel := fun _ operation desk => cancel operation desk
  channel? := channel?
  withChannel := withChannel
  buffers := buffers

end Courier.Operation
