import Courier.Engine.Behaviour

/-!
# Driving the stack of operations

The stack has the operation of the command at the bottom and the subcommands above it; only the
topmost is driven. An operation that ends hands its reply to the one below. Going on without
waiting is possible only so many times in one call, which bounds the call: each time uses up one
of the allowed steps and adds at most one operation, every other step ends the call or takes one
operation off.
-/

namespace Courier

/-- What a call of the engine comes to: the stack has the topmost operation first. -/
structure Outcome (τ ω : Type) where
  reply : Reply
  desk : Desk τ ω
  stack : List ω

variable {τ ω : Type} [Transport τ] [Behaviour ω]

/-- Calls off the operations, topmost first. If the command was to connect, the session is
forgotten. -/
def abandon (env : Env) (stack : List ω) (desk : Desk τ ω) : Desk τ ω :=
  let desk := stack.foldl
    (fun desk operation => (Behaviour.cancel env operation { desk with pending := none }).2) desk
  let desk := { desk with pending := none }
  if (stack.getLast?.map HasKind.kind) = some .connect then { desk with session := {} } else desk

/-- Gives up all operations because of a defect. -/
def breakDown (env : Env) (text : String) (stack : List ω) (desk : Desk τ ω) : Outcome τ ω :=
  ⟨.internalError, abandon env stack (desk.note .error text), []⟩

/-- The end of a command. A session lasts only from a connection that succeeded to the end of a
disconnection. -/
def finish (kind : CommandKind) (reply : Reply) (desk : Desk τ ω) : Outcome τ ω :=
  let desk :=
    if (kind = .connect ∧ reply ≠ .ok) ∨ kind = .disconnect then { desk with session := {} }
    else desk
  let ending := if reply.isError then " failed: " else " finished: "
  ⟨reply, desk.note .debug (kind.text ++ ending ++ reply.text), []⟩

/-- Drives the topmost operation, and those below as others end, until one waits, the last ends,
or one wants to go on, which is left to `goOn`. -/
def settle (env : Env) (goOn : ω → List ω → Desk τ ω → Outcome τ ω) :
    List ω → Event ω → ω → Desk τ ω → Outcome τ ω
  | below, event, top, desk =>
    let ⟨reply, top, desk⟩ := Behaviour.step env event top { desk with pending := none }
    let kind := HasKind.kind top
    let desk := desk.note .trace
      (kind.text ++ " -> " ++ Behaviour.stage top ++ " (" ++ reply.text ++ ")")
    if reply = .again then goOn top below desk
    else
      match desk.pending with
      | some subcommand =>
        breakDown env
          (kind.text ++ " requested subcommand " ++ (HasKind.kind subcommand).text ++
            " but returned " ++ reply.text) (top :: below) desk
      | none =>
        if reply = .wouldBlock then ⟨reply, desk, top :: below⟩
        else
          match below with
          | [] => finish kind reply desk
          | parent :: rest =>
            settle env goOn rest (.returned reply top) parent
              (desk.note .trace ("subcommand " ++ kind.text ++ " finished: " ++ reply.text))

/-- Starts the subcommand the topmost operation asked for, if any. -/
def descend (goOn : List ω → ω → Desk τ ω → Outcome τ ω) (top : ω) (below : List ω)
    (desk : Desk τ ω) : Outcome τ ω :=
  match desk.pending with
  | some subcommand =>
    goOn (top :: below) subcommand
      { desk.note .trace ("starting subcommand " ++ (HasKind.kind subcommand).text) with
        pending := none }
  | none => goOn below top desk

/-- Ends a call in which operations went on without waiting once more than is allowed. -/
def giveUp (env : Env) (top : ω) (below : List ω) (desk : Desk τ ω) : Outcome τ ω :=
  breakDown env
    ((HasKind.kind top).text ++ " continued " ++
      toString (env.settings.maxContinue.toNat + 1) ++ " times without waiting, giving up")
    (top :: below) desk

/-- Drives the stack, where operations may go on without waiting `budget` times. -/
def drive (env : Env) : (budget : Nat) → List ω → Event ω → ω → Desk τ ω → Outcome τ ω
  | 0 => settle env (giveUp env)
  | budget + 1 =>
    settle env (descend fun below top desk => drive env budget below .send top desk)

end Courier
