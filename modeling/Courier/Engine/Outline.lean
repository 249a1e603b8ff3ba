import Courier.Command.Outline
import Courier.Engine.Basic

/-!
# Outlines of the engine

The full text forms of a session, of a desk and of an engine, whose stack is shown from the bottom.
-/

namespace Courier

open Text (Outline)

def Session.outline (session : Session) : Outline :=
  .record "SessionState"
    [("server", .option Server.handleOutline session.server),
     ("connected", .bool session.connected),
     ("current_path", .option RemotePath.outline session.directory)] false

variable {τ ω : Type} [HasKind ω]

/-- The kind of an operation as one word. -/
def kindOutline (operation : ω) : Outline := .leaf (HasKind.kind operation).title

def Desk.outline (desk : Desk τ ω) : Outline :=
  .record "OpContext"
    [("state", desk.session.outline), ("subcommand", .option kindOutline desk.pending)] true

/-- An engine over a transport that is shown by its name alone. -/
def Engine.outline (transportName : String) (engine : Engine τ ω) : Outline :=
  .record "Executor"
    [("transport", .leaf (transportName ++ "(..)")), ("state", engine.session.outline),
     ("stack", .list (engine.stack.reverse.map kindOutline))] true

end Courier
