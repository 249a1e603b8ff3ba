import Courier.Operation.Basic

/-!
# What a desk shows after each thing done at it

Everything an operation can do at its desk changes a few of the desk's parts and leaves the others
alone. These are the facts by which steps are carried out in proofs, one for each part that somebody
asks for. Notes are for people, so a note is seen nowhere but among the errors, and there only if it
is one.
-/

namespace Courier

namespace Journal

/-- The defects noted so far. -/
def errors (journal : Journal) : List Note :=
  journal.notes.filter fun note =>
    match note with
    | .message level _ => level = .error
    | .span _ _ => false

end Journal

namespace Desk

variable {τ ω κ : Type}

/-- What has happened so far, newest first. -/
def past (desk : Desk τ ω) : List Happening := desk.journal.happenings

/-- The defects noted so far. -/
def errors (desk : Desk τ ω) : List Note := desk.journal.errors

/-! ## Notes and answers -/

section Notes

variable (desk : Desk τ ω) (level : LogLevel) (text : String)

@[simp] theorem note_transport : (desk.note level text).transport = desk.transport := rfl

@[simp] theorem note_session : (desk.note level text).session = desk.session := rfl

@[simp] theorem note_pending : (desk.note level text).pending = desk.pending := rfl

@[simp] theorem note_past : (desk.note level text).past = desk.past := rfl

@[simp] theorem note_errors (h : level ≠ .error) : (desk.note level text).errors = desk.errors := by
  simp [errors, Journal.errors, note, Journal.note, h]

theorem note_error_errors :
    (desk.note .error text).errors = .message .error text :: desk.errors := by
  simp [errors, Journal.errors, note, Journal.note]

@[simp] theorem answer_desk (reply : Reply) (operation : κ) :
    (desk.answer reply operation).desk = desk := rfl

end Notes

/-! ## Subcommands -/

section Subcommands

variable (desk : Desk τ Operation) (operation : Operation)

@[simp] theorem request_transport : (desk.request operation).transport = desk.transport := by
  unfold request; cases desk.pending <;> rfl

@[simp] theorem request_cache : (desk.request operation).cache = desk.cache := by
  unfold request; cases desk.pending <;> rfl

@[simp] theorem request_session : (desk.request operation).session = desk.session := by
  unfold request; cases desk.pending <;> rfl

@[simp] theorem request_store : (desk.request operation).store = desk.store := by
  unfold request; cases desk.pending <;> rfl

@[simp] theorem request_pending : (desk.request operation).pending = some operation := by
  unfold request; cases desk.pending <;> rfl

@[simp] theorem request_past : (desk.request operation).past = desk.past := by
  unfold request; cases desk.pending <;> rfl

/-- The first request is none. -/
@[simp] theorem request_errors (h : desk.pending = none) :
    (desk.request operation).errors = desk.errors := by
  unfold request; rw [h]; rfl

end Subcommands

/-! ## Requests to the transport -/

section Requests

variable [Transport τ] (desk : Desk τ ω)

/-- The text in which a line is sent. -/
def lineText (line : WireLine) : String := line.text (Transport.quote desk.transport)

@[simp] theorem send_cache (line : WireLine) (operation : κ) :
    (desk.send line operation).desk.cache = desk.cache := rfl

@[simp] theorem send_session (line : WireLine) (operation : κ) :
    (desk.send line operation).desk.session = desk.session := rfl

@[simp] theorem send_past (line : WireLine) (operation : κ) :
    (desk.send line operation).desk.past =
      .sent line (desk.lineText line)
        (Transport.send desk.transport (desk.lineText line)).1 :: desk.past := rfl

@[simp] theorem disconnect_past :
    desk.disconnect.2.past =
      .disconnecting (Transport.disconnect desk.transport).1 :: desk.past := rfl

@[simp] theorem takeListing_past :
    desk.takeListing.2.past =
      .listingTaken (Transport.takeListing desk.transport).1 :: desk.past := rfl

@[simp] theorem announce_transport (announcement : Announcement) :
    (desk.announce announcement).transport =
      Transport.announce desk.transport announcement := rfl

@[simp] theorem announce_past (announcement : Announcement) :
    (desk.announce announcement).past = .announced announcement :: desk.past := rfl

end Requests

/-! ## Calls on the cache -/

section Cache

variable (desk : Desk τ ω)

section Call

variable (call : DirectoryCache.Call)

@[simp] theorem cacheCall_transport : (desk.cacheCall call).2.transport = desk.transport := by
  cases call <;> rfl

@[simp] theorem cacheCall_cache : (desk.cacheCall call).2.cache = (desk.cache.perform call).2 := by
  cases call <;> rfl

@[simp] theorem cacheCall_session : (desk.cacheCall call).2.session = desk.session := by
  cases call <;> rfl

@[simp] theorem cacheCall_pending : (desk.cacheCall call).2.pending = desk.pending := by
  cases call <;> rfl

@[simp] theorem cacheCall_past :
    (desk.cacheCall call).2.past = .cached call (desk.cache.perform call).1 :: desk.past := by
  cases call <;> rfl

@[simp] theorem cacheCall_errors : (desk.cacheCall call).2.errors = desk.errors := by
  cases call <;> rfl

end Call

section Tell

variable (call : Server → DirectoryCache.Call)

@[simp] theorem tellCache_transport : (desk.tellCache call).transport = desk.transport := by
  unfold tellCache; cases desk.session.server <;> simp

@[simp] theorem tellCache_session : (desk.tellCache call).session = desk.session := by
  unfold tellCache; cases desk.session.server <;> simp

@[simp] theorem tellCache_pending : (desk.tellCache call).pending = desk.pending := by
  unfold tellCache; cases desk.session.server <;> simp

@[simp] theorem tellCache_errors : (desk.tellCache call).errors = desk.errors := by
  unfold tellCache; cases desk.session.server <;> simp

/-- With a server, the call is made on its behalf. -/
theorem tellCache_of_server {server : Server} (h : desk.session.server = some server) :
    desk.tellCache call = (desk.cacheCall (call server)).2 := by
  unfold tellCache; rw [h]

/-- Without a server, nobody is told anything. -/
theorem tellCache_of_none (h : desk.session.server = none) : desk.tellCache call = desk := by
  unfold tellCache; rw [h]

/-- What the cache is told is recorded. -/
theorem tellCache_past :
    ∃ told, (∀ happening ∈ told, ∃ server answer, happening = .cached (call server) answer) ∧
      (desk.tellCache call).past = told ++ desk.past := by
  cases server : desk.session.server with
  | none =>
      refine ⟨[], List.forall_mem_nil _, ?_⟩
      rw [tellCache_of_none desk call server]
      rfl
  | some known =>
      refine ⟨[.cached (call known) (desk.cache.perform (call known)).1], ?_, ?_⟩
      · exact List.forall_mem_singleton.2 ⟨known, _, rfl⟩
      · rw [tellCache_of_server desk call server, cacheCall_past]
        rfl

end Tell

section Lookup

variable (path : RemotePath)

/-- Looking something up leaves a record behind and nothing else. -/
theorem lookup_desk :
    (desk.lookup path).2 = desk ∨
      ∃ server, (desk.lookup path).2 = (desk.cacheCall (.lookup server path)).2 := by
  unfold lookup
  cases desk.session.server with
  | none => exact .inl rfl
  | some server => exact .inr ⟨server, rfl⟩

@[simp] theorem lookup_transport : (desk.lookup path).2.transport = desk.transport := by
  rcases desk.lookup_desk path with h | ⟨server, h⟩ <;> simp [h]

@[simp] theorem lookup_session : (desk.lookup path).2.session = desk.session := by
  rcases desk.lookup_desk path with h | ⟨server, h⟩ <;> simp [h]

@[simp] theorem lookup_pending : (desk.lookup path).2.pending = desk.pending := by
  rcases desk.lookup_desk path with h | ⟨server, h⟩ <;> simp [h]

@[simp] theorem lookup_errors : (desk.lookup path).2.errors = desk.errors := by
  rcases desk.lookup_desk path with h | ⟨server, h⟩ <;> simp [h]

end Lookup

end Cache

end Desk

end Courier
