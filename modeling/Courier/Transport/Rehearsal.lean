import Courier.Engine.Attend
import Courier.Transport.Scripted

/-!
# Rehearsed waits

Waits on a scripted transport, with a signal that interrupts them while it is raised. The signal is
looked at before the transport whenever the transport gives way, so a signal raised by a transport
that does not give way is seen at the next wait. A signal keeps its value when the one who could
change it is gone.
-/

namespace Courier

structure Signal where
  raised : Bool
  /-- There is still someone who can change the signal. -/
  attached : Bool := true

def Signal.set (raised : Bool) (signal : Signal) : Signal :=
  if signal.attached then { signal with raised } else signal

/-- The signal is there and raised. -/
def isRaised (signal : Option Signal) : Bool := signal.any (·.raised)

/-- What a transport does in the course of a wait. -/
inductive WaitAction where
  /-- Gives way once. -/
  | giveWay
  | raise
  | lower
  /-- Gives way for good. -/
  | stall
  /-- Lets the one who could change the signal go. -/
  | hangUp
deriving DecidableEq

/-- How far a transport comes with its actions. -/
inductive WaitCourse where
  | done (signal : Option Signal)
  | interrupted (signal : Option Signal)
  | stuck

/-- Performs actions in order until the signal is found raised. -/
def WaitAction.perform : List WaitAction → Option Signal → WaitCourse
  | [], signal => .done signal
  | .giveWay :: rest, signal =>
    if isRaised signal then .interrupted signal else perform rest signal
  | .raise :: rest, signal => perform rest (signal.map (·.set true))
  | .lower :: rest, signal => perform rest (signal.map (·.set false))
  | .stall :: _, signal => if isRaised signal then .interrupted signal else .stuck
  | .hangUp :: rest, signal => perform rest (signal.map ({ · with attached := false }))

/-- A wait: actions before and after data is moved, and what the transport holds at its end. -/
structure RehearsedWait where
  before : List WaitAction := []
  payload : Local.Bytes := []
  after : List WaitAction := []
  listing : Option (List Entry) := none
  result : Reply := .ok

namespace RehearsedWait

/-- The end of a wait whose actions are all done. -/
def complete (wait : RehearsedWait) (room : WaitRoom Scripted) : WaitRoom Scripted :=
  { room with
    transport := { room.transport with
      listing := wait.listing <|> room.transport.listing
      lastResult := wait.result } }

/-- Moves the data of the running transfer, if there is one. -/
def moveData (wait : RehearsedWait) (room : WaitRoom Scripted) : WaitRoom Scripted :=
  match room.pump wait.payload with
  | (some moved, room) => room.record (.moved moved)
  | (none, room) => room

/-- One wait; while the signal is raised it does not even begin. -/
def play (wait : RehearsedWait) (signal : Option Signal) (room : WaitRoom Scripted) :
    Option (WaitEnd × Option Signal × WaitRoom Scripted) :=
  if isRaised signal then some (.interrupted, signal, room)
  else
    let room := room.record .awaited
    match WaitAction.perform wait.before signal with
    | .stuck => none
    | .interrupted signal => some (.interrupted, signal, room)
    | .done signal =>
      let room := wait.moveData room
      match WaitAction.perform wait.after signal with
      | .stuck => none
      | .interrupted signal => some (.interrupted, signal, room)
      | .done signal => some (.completed, signal, wait.complete room)

/-- The next of the waits prepared, or one in which nothing happens. -/
def playNext (state : Option Signal × List RehearsedWait) (room : WaitRoom Scripted) :
    Option (WaitEnd × (Option Signal × List RehearsedWait) × WaitRoom Scripted) :=
  let wait := state.2.head?.getD {}
  (wait.play state.1 room).map fun (ending, signal, room) =>
    (ending, (signal, state.2.tail), room)

end RehearsedWait

namespace Engine

variable {ω : Type} [Behaviour ω]

/-- The outstanding request completes with this result. -/
def respond (engine : Engine Scripted ω) (result : Reply) : Reply × Engine Scripted ω :=
  { engine with
    desk := { engine.desk with
      transport := { engine.desk.transport with lastResult := result } } }.resume

/-- Lets outstanding requests complete with the given results, then with success, until the
command has ended; at most `limit` times. -/
def respondAll : (limit : Nat) → List Reply → Reply × Engine Scripted ω →
    Reply × Engine Scripted ω
  | 0, _, state => state
  | limit + 1, results, (reply, engine) =>
    if reply = .wouldBlock then
      respondAll limit results.tail (engine.respond (results.head?.getD .ok))
    else (reply, engine)

end Engine

end Courier
