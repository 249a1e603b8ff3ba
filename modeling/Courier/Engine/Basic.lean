import Courier.Engine.Drive

/-!
# The engine

The engine executes one command at a time. A call that starts or resumes a command answers
`wouldBlock` if a request is outstanding, in which case `resume` is to be called when it is done,
and otherwise the outcome of the command.
-/

namespace Courier

structure Engine (τ ω : Type) where
  desk : Desk τ ω
  /-- The operations, topmost first. -/
  stack : List ω := []
  settings : Settings := .default
  /-- The clock, in nanoseconds. -/
  now : Nat := 0

/-- Why a command is not started. -/
inductive Refusal where
  /-- Another command is in progress. -/
  | busy
  | invalid
  | alreadyConnected
  | notConnected
  | notSupported (protocol : Protocol)
deriving DecidableEq

def Refusal.reply : Refusal → Reply
  | busy => .busy
  | invalid => .syntaxError
  | alreadyConnected => .alreadyConnected
  | notConnected => .notConnected
  | notSupported _ => .notSupported

/-- What is noted of a refusal. -/
def Refusal.note? (command : Command) : Refusal → Option (LogLevel × String)
  | busy =>
    some (.warn, "cannot start " ++ command.title ++ ": another command is in progress")
  | invalid =>
    some (.debug, "rejecting invalid " ++ command.title ++ " command '" ++
      command.mainArgument ++ "'")
  | alreadyConnected | notConnected => none
  | notSupported protocol => some (.debug, "command not supported by " ++ protocol.text)

namespace Engine

variable {τ ω : Type}

def env (engine : Engine τ ω) : Env := ⟨engine.settings, engine.now⟩

def session (engine : Engine τ ω) : Session := engine.desk.session

def cache (engine : Engine τ ω) : DirectoryCache := engine.desk.cache

/-- A command is in progress. -/
def isBusy (engine : Engine τ ω) : Bool := !engine.stack.isEmpty

/-- Takes over what a call came to. -/
def take (engine : Engine τ ω) (outcome : Outcome τ ω) : Reply × Engine τ ω :=
  (outcome.reply, { engine with desk := outcome.desk, stack := outcome.stack })

/-- The protocol over which a command is to be executed. -/
def protocolFor (session : Session) : Command → Except Refusal Protocol
  | .connect request =>
    if session.connected then .error .alreadyConnected else .ok request.server.protocol
  | _ =>
    match session.server with
    | some server => if session.connected then .ok server.protocol else .error .notConnected
    | none => .error .notConnected

section Calls

variable [Transport τ] [Behaviour ω]

/-- The operation by which a command is started, or why it is refused. -/
def accept (engine : Engine τ ω) (command : Command) : Except Refusal ω :=
  if engine.isBusy then .error .busy
  else if !command.valid then .error .invalid
  else
    match protocolFor engine.session command with
    | .error refusal => .error refusal
    | .ok protocol =>
      match Behaviour.ofCommand? command protocol with
      | some operation => .ok operation
      | none => .error (.notSupported protocol)

/-- Drives the stack with an operation on top. -/
def advance (engine : Engine τ ω) (below : List ω) (event : Event ω) (top : ω)
    (desk : Desk τ ω) : Reply × Engine τ ω :=
  engine.take (drive engine.env engine.settings.maxContinue.toNat below event top desk)

/-- Starts a command. -/
def execute (engine : Engine τ ω) (command : Command) : Reply × Engine τ ω :=
  match engine.accept command with
  | .error refusal =>
    let desk := match refusal.note? command with
      | some (level, text) => engine.desk.note level text
      | none => engine.desk
    (refusal.reply, { engine with desk })
  | .ok operation =>
    let desk := engine.desk.record (.started command)
    let desk := { desk with
      journal := desk.journal.note (.span command.spanName command.mainArgument) }
    engine.advance [] .send operation desk

/-- Goes on with the command when the outstanding request is done. -/
def resume (engine : Engine τ ω) : Reply × Engine τ ω :=
  match engine.stack with
  | [] =>
    (.internalError,
      { engine with
        desk := engine.desk.note .debug "response received with no command in progress" })
  | top :: below =>
    engine.advance below .completed top (engine.desk.record (.completed engine.desk.result))

/-- Gives up the command in progress and whatever the transport has under way for it. -/
def cancel (engine : Engine τ ω) : Reply × Engine τ ω :=
  if engine.isBusy then
    let desk := (engine.desk.record .canceled).note .info "Command canceled"
    (.canceled,
      { engine with desk := (abandon engine.env engine.stack desk).abort, stack := [] })
  else (.ok, engine)

/-- Learns that the connection has gone away. -/
def connectionLost (engine : Engine τ ω) : Reply × Engine τ ω :=
  let desk := engine.desk.record .connectionLost
  if engine.isBusy then
    let desk := abandon engine.env engine.stack
      (desk.note .warn "connection lost while a command was in progress")
    (.error ||| .disconnected,
      { engine with desk := { desk with session := {} }, stack := [] })
  else (.disconnected, { engine with desk := { desk with session := {} } })

end Calls

section LocalEnds

variable [Behaviour ω]

/-- The local end of the running transfer, which data is to be moved through. -/
def channel? (engine : Engine τ ω) : Option Local.Channel :=
  engine.stack.head?.bind Behaviour.channel?

/-- How many handles on a shared buffer the engine holds. -/
def holders (engine : Engine τ ω) (buffer : Local.BufferId) : Nat :=
  (engine.stack.flatMap Behaviour.buffers).count buffer

end LocalEnds

/-- Makes a call on the cache, on behalf of the owner. -/
def cacheCall (engine : Engine τ ω) (call : DirectoryCache.Call) :
    DirectoryCache.Answer × Engine τ ω :=
  let (answer, desk) := engine.desk.cacheCall call
  (answer, { engine with desk })

/-- Puts an empty journal in place of the present one. -/
def withNewJournal (engine : Engine τ ω) : Engine τ ω :=
  { engine with desk := { engine.desk with journal := {} } }

end Engine

end Courier
