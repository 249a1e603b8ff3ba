import Courier.Operation.Dispatch
import Courier.Transport.Scripted

/-!
# The bench

Operations driven by hand, without the engine: a stack with one operation at the bottom, a desk
that keeps a pending subcommand between steps, and moves that need not make sense.
-/

namespace Courier

structure Bench where
  desk : Desk Scripted Operation
  top : Operation
  below : List Operation := []
  env : Env

namespace Bench

/-- Takes over what a step came to. -/
def take (bench : Bench) (step : Step Scripted Operation Operation) : Reply × Bench :=
  (step.reply, { bench with desk := step.desk, top := step.operation })

def send (bench : Bench) : Reply × Bench :=
  bench.take (Operation.step bench.env .send bench.top bench.desk)

/-- The outstanding request completes with this result. -/
def complete (bench : Bench) (result : Reply) : Reply × Bench :=
  let desk := { bench.desk with
    transport := { bench.desk.transport with lastResult := result } }
  bench.take (Operation.step bench.env .completed bench.top desk)

/-- The topmost operation is told that some change of directory has ended with this reply. -/
def giveReturn (bench : Bench) (reply : Reply) : Reply × Bench :=
  let finished := Operation.changeDir { path := .root }
  bench.take (Operation.step bench.env (.returned reply finished) bench.top bench.desk)

def cancel (bench : Bench) : Bench :=
  let (top, desk) := Operation.cancel bench.top bench.desk
  { bench with top, desk }

/-- Asks for a wait. -/
def sleep (bench : Bench) (seconds : Nat) : Bench :=
  { bench with desk := bench.desk.sleep seconds }

/-- Puts the pending subcommand on the stack and answers its kind. -/
def enter (bench : Bench) : Option CommandKind × Bench :=
  match bench.desk.pending with
  | none => (none, bench)
  | some subcommand =>
    (some subcommand.kind,
      { bench with
        desk := { bench.desk with pending := none }
        top := subcommand
        below := bench.top :: bench.below })

/-- Takes the subcommand off the stack and tells the one below how it ended. -/
def leave (bench : Bench) (reply : Reply) : Option Reply × Bench :=
  match bench.below with
  | [] => (none, bench)
  | parent :: below =>
    let step := Operation.step bench.env (.returned reply bench.top) parent bench.desk
    let (reply, bench) := { bench with below }.take step
    (some reply, bench)

/-- Moves all data through the local end of the topmost operation, if there is one. -/
def pump (bench : Bench) (payload : Local.Bytes) : Option Local.Moved × Bench :=
  match bench.top.channel? with
  | none => (none, bench)
  | some channel =>
    let (moved, channel, store) := channel.pump bench.desk.store payload
    (some moved,
      { bench with
        desk := { bench.desk with store }
        top := bench.top.withChannel channel })

/-- The operations, topmost first, with a pending subcommand in front. -/
def operations (bench : Bench) : List Operation :=
  bench.desk.pending.toList ++ bench.top :: bench.below

/-- How many handles on a shared buffer the operations hold. -/
def holders (bench : Bench) (buffer : Local.BufferId) : Nat :=
  (bench.operations.flatMap Operation.buffers).count buffer

end Bench

end Courier
