import Courier.Operation.Basic

/-!
# Connecting, disconnecting and waiting

A connection attempt that fails is repeated after a wait, if the command asks for it, until the
allowed number of repetitions is used up. Rejected credentials and critical failures end the
command at once.
-/

namespace Courier

variable {τ : Type} [Transport τ]

/-- A number of seconds as it is noted. -/
def secondsText (seconds : Nat) : String :=
  if seconds = 0 then "0ns" else toString seconds ++ "s"

namespace ConnectTask

/-- Makes an attempt, from which on the session belongs to the server of the request. -/
def send (task : ConnectTask) (desk : Desk τ Operation) : Step τ Operation ConnectTask :=
  match task.stage with
  | .connect =>
    let desk := desk.note .info ("Connecting to " ++ task.request.server.text)
    { desk with session := { server := some task.request.handle } }.connect
      task.request.server task.request.credentials
      { task with stage := .connecting, attempts := task.attempts + 1 }
  | .connecting | .retryWait => desk.unexpected .connect task.stageName "send" task

/-- No further attempt is made after this result. -/
def isFinal (env : Env) (task : ConnectTask) (result : Reply) : Bool :=
  result.isCritical || !task.request.retry || env.settings.connectRetries < task.attempts

def completed (env : Env) (task : ConnectTask) (desk : Desk τ Operation) :
    Step τ Operation ConnectTask :=
  match task.stage with
  | .connecting =>
    let result := desk.result
    if result = .ok then
      let desk := desk.note .info ("Connected to " ++ task.request.server.text)
      { desk with session := { desk.session with connected := true } }.answer .ok task
    else if result.contains .passwordFailed then
      (desk.note .warn "Authentication failed").answer (.critical ||| .passwordFailed) task
    else if task.isFinal env result then desk.answer result task
    else
      let delay := env.settings.retryDelay.toNat
      let desk := desk.note .warn
        ("Connection attempt " ++ toString task.attempts.toNat ++ " failed (" ++ result.text ++
          "), retrying in " ++ secondsText delay)
      (desk.sleep delay).answer .again { task with stage := .retryWait }
  | .connect | .retryWait => desk.unexpected .connect task.stageName "response" task

/-- The wait between two attempts is over. -/
def returned (reply : Reply) (finished : Operation) (task : ConnectTask)
    (desk : Desk τ Operation) : Step τ Operation ConnectTask :=
  if task.stage = .retryWait ∧ finished.kind = .sleep then
    if reply = .ok then desk.answer .again { task with stage := .connect }
    else (desk.note .debug ("retry wait failed: " ++ reply.text)).answer reply task
  else desk.unexpected .connect task.stageName "subcommand result" task

end ConnectTask

namespace DisconnectTask

/-- Closing succeeds whatever the transport says of it. -/
def send (task : DisconnectTask) (desk : Desk τ Operation) : Step τ Operation DisconnectTask :=
  if task.waiting then desk.unexpected .disconnect task.stage "send" task
  else
    let (reply, desk) := (desk.note .info "Disconnecting").disconnect
    if reply = .wouldBlock then desk.answer reply { task with waiting := true }
    else
      let desk := if reply.isError then desk.note .debug ("disconnect reported " ++ reply.text)
        else desk
      { desk with session := {} }.answer .ok task

def completed (task : DisconnectTask) (desk : Desk τ Operation) :
    Step τ Operation DisconnectTask :=
  if task.waiting then { desk with session := {} }.answer .ok task
  else desk.unexpected .disconnect task.stage "response" task

end DisconnectTask

namespace SleepTask

def send (task : SleepTask) (desk : Desk τ Operation) : Step τ Operation SleepTask :=
  if task.waiting then desk.unexpected .sleep task.stage "send" task
  else
    (desk.note .debug ("sleeping for " ++ secondsText task.seconds)).wakeUp task.seconds
      { task with waiting := true }

def completed (task : SleepTask) (desk : Desk τ Operation) : Step τ Operation SleepTask :=
  if task.waiting then desk.answer desk.result task
  else desk.unexpected .sleep task.stage "response" task

end SleepTask

end Courier
