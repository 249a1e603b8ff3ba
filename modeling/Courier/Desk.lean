import Courier.Journal
import Courier.Settings.Basic

/-!
# The desk of an operation

All that an operation may touch while it takes a step: the transport, the directory cache, the
state of the session, the local store, and the place for one subcommand it wants to run first.
Everything done at the desk goes into the journal.
-/

namespace Courier

/-- What is known of the connection, shared by all operations on it. -/
structure Session where
  /-- The server we are connected to, or connecting to. -/
  server : Option Server := none
  connected : Bool := false
  /-- The remote working directory, if known. -/
  directory : Option RemotePath := none
deriving DecidableEq, Inhabited

/-- What stays fixed during one call of the engine: settings and clock, in nanoseconds. -/
structure Env where
  settings : Settings
  now : Nat

/-- The desk of operations of type `ω` over a transport with state `τ`. -/
structure Desk (τ ω : Type) where
  transport : τ
  cache : DirectoryCache := {}
  session : Session := {}
  store : Local.Store := {}
  journal : Journal := {}
  /-- The subcommand asked for, until it is started. -/
  pending : Option ω := none

/-- What a step of an operation comes to. -/
structure Step (τ ω κ : Type) where
  reply : Reply
  operation : κ
  desk : Desk τ ω

def Step.map {τ ω κ μ : Type} (f : κ → μ) (step : Step τ ω κ) : Step τ ω μ :=
  ⟨step.reply, f step.operation, step.desk⟩

/-- Operations have a kind. -/
class HasKind (ω : Type) where
  kind : ω → CommandKind

namespace Desk

variable {τ ω κ : Type}

def record (desk : Desk τ ω) (happening : Happening) : Desk τ ω :=
  { desk with journal := desk.journal.record happening }

def note (desk : Desk τ ω) (level : LogLevel) (text : String) : Desk τ ω :=
  { desk with journal := desk.journal.note (.message level text) }

/-- Ends a step with a reply. -/
def answer (desk : Desk τ ω) (reply : Reply) (operation : κ) : Step τ ω κ :=
  ⟨reply, operation, desk⟩

/-- An event for which the state of the operation has no use is a defect of the engine. -/
def unexpected (desk : Desk τ ω) (kind : CommandKind) (stage event : String) (operation : κ) :
    Step τ ω κ :=
  let text := kind.text ++ " received " ++ event ++ " in state " ++ stage ++
    ", which does not expect it"
  (desk.note .error text).answer .internalError operation

/-- Asks for a subcommand to run before the operation goes on. Of two requests in one step the
later counts. -/
def request [HasKind ω] (desk : Desk τ ω) (operation : ω) : Desk τ ω :=
  let desk := match desk.pending with
    | some former =>
      desk.note .error ("subcommand " ++ (HasKind.kind former).text ++ " replaced before it ran")
    | none => desk
  { desk with pending := some operation }

/-! ## Requests to the transport -/

section Requests

variable [Transport τ]

/-- Sends a line and ends the step with the answer. -/
def send (desk : Desk τ ω) (line : WireLine) (operation : κ) : Step τ ω κ :=
  let text := line.text (Transport.quote desk.transport)
  let (reply, transport) := Transport.send desk.transport text
  ({ desk with transport }.record (.sent line text reply)).answer reply operation

/-- Starts to connect and ends the step with the answer. -/
def connect (desk : Desk τ ω) (server : Server) (credentials : Credentials) (operation : κ) :
    Step τ ω κ :=
  let (reply, transport) := Transport.connect desk.transport server credentials
  ({ desk with transport }.record (.connecting server credentials reply)).answer reply operation

/-- Asks for a wake-up and ends the step with the answer. -/
def wakeUp (desk : Desk τ ω) (seconds : Nat) (operation : κ) : Step τ ω κ :=
  let (reply, transport) := Transport.wakeUp desk.transport seconds
  ({ desk with transport }.record (.wakeUp seconds reply)).answer reply operation

def disconnect (desk : Desk τ ω) : Reply × Desk τ ω :=
  let (reply, transport) := Transport.disconnect desk.transport
  (reply, { desk with transport }.record (.disconnecting reply))

def takeListing (desk : Desk τ ω) : Option (List Entry) × Desk τ ω :=
  let (entries, transport) := Transport.takeListing desk.transport
  (entries, { desk with transport }.record (.listingTaken entries))

def announce (desk : Desk τ ω) (announcement : Announcement) : Desk τ ω :=
  { desk with transport := Transport.announce desk.transport announcement }.record
    (.announced announcement)

def abort (desk : Desk τ ω) : Desk τ ω :=
  { desk with transport := Transport.abort desk.transport }.record .aborted

/-- The outcome of the request that completed last. -/
def result (desk : Desk τ ω) : Reply := Transport.result desk.transport

end Requests

/-! ## Calls on the cache -/

/-- Makes a call; storing a listing is noted. -/
def cacheCall (desk : Desk τ ω) (call : DirectoryCache.Call) :
    DirectoryCache.Answer × Desk τ ω :=
  let desk := match call with
    | .store _ listing =>
      desk.note .trace
        ("caching " ++ toString listing.entries.length ++ " entries for " ++ listing.path.text)
    | _ => desk
  let (answer, cache) := desk.cache.perform call
  (answer, { desk with cache }.record (.cached call answer))

/-- Makes a call about the server of the session, if there is one. -/
def tellCache (desk : Desk τ ω) (call : Server → DirectoryCache.Call) : Desk τ ω :=
  match desk.session.server with
  | some server => (desk.cacheCall (call server)).2
  | none => desk

/-- The cached listing of a directory of the server of the session. -/
def lookup (desk : Desk τ ω) (path : RemotePath) : Option Listing × Desk τ ω :=
  match desk.session.server with
  | some server =>
    match desk.cacheCall (.lookup server path) with
    | (.found listing, desk) => (listing, desk)
    | (_, desk) => (none, desk)
  | none => (none, desk)

end Desk

end Courier
