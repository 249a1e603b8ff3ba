import Courier.Engine.Basic

/-!
# Attended execution

A command is brought to its end by waiting for the transport whenever a request is outstanding.
A wait ends with the completion of the request, or because it is interrupted, which cancels the
command. While it is waited for, a transport reaches its own state, the local store and the local
end of the running transfer, and nothing else.
-/

namespace Courier

/-- What a transport can reach while it is waited for. -/
structure WaitRoom (τ : Type) where
  transport : τ
  store : Local.Store
  channel : Option Local.Channel
  journal : Journal

namespace WaitRoom

variable {τ : Type}

def record (room : WaitRoom τ) (happening : Happening) : WaitRoom τ :=
  { room with journal := room.journal.record happening }

/-- Moves all data through the channel, if there is one. -/
def pump (room : WaitRoom τ) (payload : Local.Bytes) : Option Local.Moved × WaitRoom τ :=
  match room.channel with
  | none => (none, room)
  | some channel =>
    let (moved, channel, store) := channel.pump room.store payload
    (some moved, { room with channel := some channel, store })

end WaitRoom

/-- How a wait ended. -/
inductive WaitEnd where
  | completed
  | interrupted
deriving DecidableEq

namespace Engine

variable {τ ω : Type} [Behaviour ω]

def waitRoom (engine : Engine τ ω) : WaitRoom τ :=
  { transport := engine.desk.transport
    store := engine.desk.store
    channel := engine.channel?
    journal := engine.desk.journal }

/-- The engine after a wait that left things like this. -/
def afterWait (engine : Engine τ ω) (room : WaitRoom τ) : Engine τ ω :=
  { engine with
    desk := { engine.desk with
      transport := room.transport, store := room.store, journal := room.journal }
    stack :=
      match engine.stack, room.channel with
      | top :: below, some channel => Behaviour.withChannel channel top :: below
      | stack, _ => stack }

/-- Moves all data through the local end of the running transfer, if there is one. -/
def pump (engine : Engine τ ω) (payload : Local.Bytes) : Option Local.Moved × Engine τ ω :=
  let (moved, room) := engine.waitRoom.pump payload
  (moved, engine.afterWait room)

variable [Transport τ]

/-- What a wait leads to. -/
def continueAfter (wait : WaitEnd) (engine : Engine τ ω) : Reply × Engine τ ω :=
  match wait with
  | .completed => engine.resume
  | .interrupted =>
    { engine with desk := engine.desk.note .debug "cancellation requested" }.cancel

/-- Waits until the command has ended. `wait` says how the next wait goes, if it ends at all, and
`σ` is what it depends on besides the transport; at most `limit` waits are made. -/
def attend {σ : Type} (wait : σ → WaitRoom τ → Option (WaitEnd × σ × WaitRoom τ)) :
    (limit : Nat) → σ → Reply × Engine τ ω → Option (Reply × σ × Engine τ ω)
  | limit, s, (reply, engine) =>
    if reply = .wouldBlock then
      match limit with
      | 0 => none
      | limit + 1 =>
        match wait s engine.waitRoom with
        | none => none
        | some (ending, s, room) =>
          attend wait limit s (continueAfter ending (engine.afterWait room))
    else some (reply, s, engine)

/-- Executes a command to its end. -/
def attendTo {σ : Type} (wait : σ → WaitRoom τ → Option (WaitEnd × σ × WaitRoom τ))
    (limit : Nat) (s : σ) (engine : Engine τ ω) (command : Command) :
    Option (Reply × σ × Engine τ ω) :=
  attend wait limit s (engine.execute command)

end Engine

end Courier
