import Courier.Desk

/-!
# Operations

An operation executes one command, or a part of one, as a small state machine. Its state says how
far it has come and holds what it needs from there on. Stages have names, which appear in notes.

An operation on an object in a directory first changes into the directory. Where that succeeds the
object is named by its bare name, otherwise in full.
-/

namespace Courier

open RemotePath (Naming)

/-- How far an operation inside a directory has come. -/
inductive Progress where
  | start
  /-- The change into the directory runs as a subcommand. -/
  | entering
  /-- Ready to send a line, naming objects in this way. -/
  | ready (naming : Naming)
  /-- The line is out. -/
  | waiting (naming : Naming)
deriving DecidableEq

/-- The naming that fits the outcome of the change of directory. -/
def RemotePath.Naming.after (entered : Reply) : Naming := if entered = .ok then .bare else .full

/-- Changes the remote working directory. -/
structure ChangeDirTask where
  path : RemotePath
  waiting : Bool := false

/-- Waits for a number of seconds. -/
structure SleepTask where
  seconds : Nat
  waiting : Bool := false

inductive ConnectStage where
  | connect
  | connecting
  | retryWait
deriving DecidableEq

structure ConnectTask where
  request : ConnectRequest
  stage : ConnectStage := .connect
  /-- The attempts made so far, counted in the width of the limit. -/
  attempts : UInt32 := 0

structure DisconnectTask where
  waiting : Bool := false

inductive ListProgress where
  | start
  | entering (target : RemotePath)
  /-- Ready to list the current directory, which is `target` if that is known. -/
  | ready (target : Option RemotePath)
  | waiting (target : Option RemotePath)
deriving DecidableEq

structure ListTask where
  request : ListRequest
  progress : ListProgress := .start

structure TransferTask where
  request : TransferRequest
  progress : Progress := .start
  /-- The open local end, from just before the line is sent until it completes. -/
  channel : Option Local.Channel := none

structure DeleteTask where
  path : RemotePath
  /-- How many files there are in all. -/
  total : Nat
  /-- The files not yet dealt with; while waiting, the first is the one in question. -/
  rest : List String
  failed : Nat := 0
  progress : Progress := .start

structure RemoveDirTask where
  request : RemoveDirRequest
  progress : Progress := .start

inductive MakeDirStage where
  | start
  | ready
  | waiting
deriving DecidableEq

structure MakeDirTask where
  request : MakeDirRequest
  stage : MakeDirStage := .start

structure RenameTask where
  request : RenameRequest
  progress : Progress := .start

structure ChmodTask where
  request : ChmodRequest
  progress : Progress := .start

/-- Sends a line of the caller. -/
structure RawTask where
  line : String
  waiting : Bool := false

inductive Operation where
  | connect (task : ConnectTask)
  | disconnect (task : DisconnectTask)
  | sleep (task : SleepTask)
  | changeDir (task : ChangeDirTask)
  | list (task : ListTask)
  | transfer (task : TransferTask)
  | delete (task : DeleteTask)
  | removeDir (task : RemoveDirTask)
  | makeDir (task : MakeDirTask)
  | rename (task : RenameTask)
  | chmod (task : ChmodTask)
  | raw (task : RawTask)

def Operation.kind : Operation → CommandKind
  | connect _ => .connect
  | disconnect _ => .disconnect
  | sleep _ => .sleep
  | changeDir _ => .changeDir
  | list _ => .list
  | transfer _ => .transfer
  | delete _ => .delete
  | removeDir _ => .removeDir
  | makeDir _ => .makeDir
  | rename _ => .rename
  | chmod _ => .chmod
  | raw _ => .raw

instance : HasKind Operation := ⟨Operation.kind⟩

/-! ## Names of stages -/

/-- The stage name, given those of the last two steps. -/
def Progress.stage (ready waiting : String) : Progress → String
  | .start => "init"
  | .entering => "wait_cwd"
  | .ready _ => ready
  | .waiting _ => waiting

def ChangeDirTask.stage (task : ChangeDirTask) : String := if task.waiting then "cwd" else "init"

def SleepTask.stage (task : SleepTask) : String := if task.waiting then "waiting" else "sleep"

def ConnectTask.stageName (task : ConnectTask) : String :=
  match task.stage with
  | .connect => "connect"
  | .connecting => "connecting"
  | .retryWait => "retry_wait"

def DisconnectTask.stage (task : DisconnectTask) : String :=
  if task.waiting then "waiting" else "disconnect"

def ListTask.stage (task : ListTask) : String :=
  match task.progress with
  | .start => "init"
  | .entering _ => "wait_cwd"
  | .ready _ => "list"
  | .waiting _ => "waiting"

def TransferTask.stage (task : TransferTask) : String := task.progress.stage "transfer" "waiting"

def DeleteTask.stage (task : DeleteTask) : String := task.progress.stage "delete" "delete"

def RemoveDirTask.stage (task : RemoveDirTask) : String := task.progress.stage "rmdir" "waiting"

def MakeDirTask.stageName (task : MakeDirTask) : String :=
  match task.stage with
  | .start => "init"
  | .ready => "mkdir"
  | .waiting => "waiting"

def RenameTask.stage (task : RenameTask) : String := task.progress.stage "rename" "waiting"

def ChmodTask.stage (task : ChmodTask) : String := task.progress.stage "chmod" "chmod"

def RawTask.stage (task : RawTask) : String := if task.waiting then "waiting" else "raw"

def Operation.stage : Operation → String
  | connect task => task.stageName
  | disconnect task => task.stage
  | sleep task => task.stage
  | changeDir task => task.stage
  | list task => task.stage
  | transfer task => task.stage
  | delete task => task.stage
  | removeDir task => task.stage
  | makeDir task => task.stageName
  | rename task => task.stage
  | chmod task => task.stage
  | raw task => task.stage

/-! ## Local ends -/

/-- The open local end the operation owns. -/
def Operation.channel? : Operation → Option Local.Channel
  | transfer task => task.channel
  | _ => none

/-- The same operation with its local end as data moving through left it. -/
def Operation.withChannel (channel : Local.Channel) : Operation → Operation
  | transfer task => .transfer { task with channel := some channel }
  | operation => operation

/-- The shared buffers an operation holds: through the sink of its request and through an open
writer. -/
def Operation.buffers : Operation → List Local.BufferId
  | transfer task =>
    let sink := match task.request.localEnd with
      | .upload _ => none
      | .download sink => sink.buffer?
    sink.toList ++ (task.channel.bind (·.buffer?)).toList
  | _ => []

/-! ## What the desk offers operations -/

namespace Desk

variable {τ κ : Type}

/-- Asks for a change of the remote working directory. -/
def enter (desk : Desk τ Operation) (path : RemotePath) : Desk τ Operation :=
  desk.request (.changeDir { path })

/-- Asks for a wait. -/
def sleep (desk : Desk τ Operation) (seconds : Nat) : Desk τ Operation :=
  desk.request (.sleep { seconds })

/-- Records what became of an entry of a directory of the connected server. -/
def mark (desk : Desk τ Operation) (path : RemotePath) (name : String) (isDir : Bool)
    (freshness : Freshness) : Desk τ Operation :=
  desk.tellCache fun server => .updateEntry server path name isDir freshness

/-- Notes that a directory could not be entered, unless it was. -/
def noteEntered (desk : Desk τ Operation) (entered : Reply) (consequence : String) :
    Desk τ Operation :=
  if entered = .ok then desk
  else desk.note .debug
    ("could not change directory (" ++ entered.text ++ "), " ++ consequence)

end Desk

end Courier
