import Courier.Desk

/-!
# Behaviour of operations

What the engine needs to know of operations of a type: how they answer the events it passes to
them, how they are called off, and which local ends they hold. An operation works over any
transport.
-/

namespace Courier

/-- What the topmost operation is told. -/
inductive Event (ω : Type) where
  /-- Do what the current state calls for. -/
  | send
  /-- The outstanding request is done. -/
  | completed
  /-- The subcommand asked for has finished. -/
  | returned (reply : Reply) (finished : ω)

class Behaviour (ω : Type) extends HasKind ω where
  /-- The name of the current state. -/
  stage : ω → String
  /-- The operation that executes a command over a protocol, if there is one. -/
  ofCommand? : Command → Protocol → Option ω
  step {τ : Type} [Transport τ] : Env → Event ω → ω → Desk τ ω → Step τ ω ω
  /-- Called when the operation is given up before it has ended. -/
  cancel {τ : Type} [Transport τ] : Env → ω → Desk τ ω → ω × Desk τ ω
  /-- The open local end of a transfer. -/
  channel? : ω → Option Local.Channel
  withChannel : Local.Channel → ω → ω
  /-- The shared buffers held, once for each handle. -/
  buffers : ω → List Local.BufferId

end Courier
