import Courier.Proofs.WorkingDirectory
import Courier.Proofs.Chronicle

/-!
# What a step does

A step of an operation makes at most one request to the transport, as the last thing it does, and
hands the answer on if the request is under way. Whoever asks for a subcommand makes no request and
goes on. All but the operations that make or close the connection leave it as it is. This holds of
every event in every state, whether the operation expects the event or not, and whatever the
transport answers.
-/

namespace Courier

/-- The transport was told something or asked for what it has at hand, or the cache was called. -/
def Happening.isWork : Happening → Bool
  | .listingTaken _ | .announced _ | .cached _ _ => true
  | _ => false

namespace Operation

/-- Where a change of directory that is out leads. -/
def heading? : Operation → Option RemotePath
  | changeDir task => if task.waiting then some task.path else none
  | _ => none

/-- The operation is carried out by lines. -/
def sendsLines : Operation → Bool
  | connect _ | disconnect _ | sleep _ => false
  | _ => true

/-- The happening is a request, and one that is made by operations of this kind. -/
def makes (request : Happening) (operation : Operation) : Bool :=
  match request with
  | .sent _ _ _ => operation.sendsLines
  | .wakeUp _ _ => operation.kind = .sleep
  | .connecting _ _ _ => operation.kind = .connect
  | .disconnecting _ => operation.kind = .disconnect
  | _ => false

end Operation

/-- From `before` to `after` the connection stayed as it was, and no directory became known but
the one that was headed for. -/
structure Session.Stays (heading : Option RemotePath) (before after : Session) : Prop where
  server : after.server = before.server
  connected : after.connected = before.connected
  directory : ∀ path, after.directory = some path →
    before.directory = some path ∨ heading = some path

variable {τ : Type}

/-- In a step of the operation that begins at `start`, what has been done until `desk` is neither a
request nor a request for a subcommand. -/
structure Desk.Works (good : Transport.States τ) (operation : Operation)
    (start desk : Desk τ Operation) : Prop where
  transport : good desk.transport
  pending : desk.pending = none
  session : operation.isConnection = false →
    Session.Stays operation.heading? start.session desk.session
  past : ∃ works, (∀ happening ∈ works, happening.isWork = true) ∧
    desk.past = works ++ start.past

/-- What a step of the operation that begins at `start` comes to. -/
inductive Step.Does (good : Transport.States τ) (operation : Operation) (start : Desk τ Operation)
    (step : Step τ Operation Operation) : Prop
  | rests (works : start.Works good operation step.desk)
  | asks {before : Desk τ Operation} {child : Operation} (works : start.Works good operation before)
      (again : step.reply = .again) (waits : step.operation.WaitsFor child)
      (acts : child.acts = true) (desk : step.desk = before.request child)
  | requests {before : Desk τ Operation} {request : Happening}
      (works : start.Works good operation before) (own : operation.makes request = true)
      (waits : request.answer? = some .wouldBlock → step.reply = .wouldBlock)
      (past : step.desk.past = request :: before.past) (pending : step.desk.pending = none)
      (transport : good step.desk.transport)
      (session : operation.isConnection = false → step.desk.session = before.session)

/-! ## Works -/

namespace Session.Stays

variable {heading : Option RemotePath} {before middle after : Session}

theorem refl (heading : Option RemotePath) (session : Session) : session.Stays heading session :=
  ⟨rfl, rfl, fun _ known => .inl known⟩

theorem forgetDirectory (stays : Stays heading before after) :
    Stays heading before { after with directory := none } :=
  ⟨stays.server, stays.connected, by rintro _ ⟨⟩⟩

theorem arrive {path : RemotePath} (stays : Stays (some path) before after) :
    Stays (some path) before { after with directory := some path } :=
  ⟨stays.server, stays.connected, fun _ known => .inr known⟩

end Session.Stays

namespace Desk.Works

variable {good : Transport.States τ} {operation : Operation} {start desk after : Desk τ Operation}

theorem refl (operation : Operation) (transport : good desk.transport)
    (pending : desk.pending = none) : desk.Works good operation desk :=
  ⟨transport, pending, fun _ => .refl _ _, [], List.forall_mem_nil _, rfl⟩

/-- Nothing of it goes on record. -/
theorem silent (works : start.Works good operation desk) (transport : good after.transport)
    (pending : after.pending = none)
    (session : operation.isConnection = false →
      Session.Stays operation.heading? start.session after.session)
    (past : after.past = desk.past) : start.Works good operation after := by
  obtain ⟨made, all, before⟩ := works.past
  exact ⟨transport, pending, session, made, all, past.trans before⟩

/-- One more thing goes on record. -/
theorem record (works : start.Works good operation desk) (happening : Happening)
    (work : happening.isWork = true) (transport : good after.transport)
    (pending : after.pending = none) (session : after.session = desk.session)
    (past : after.past = happening :: desk.past) : start.Works good operation after := by
  obtain ⟨made, all, before⟩ := works.past
  refine ⟨transport, pending, ?_, happening :: made, ?_, ?_⟩
  · rw [session]
    exact works.session
  · exact List.forall_mem_cons.2 ⟨work, all⟩
  · rw [past, before]
    rfl

theorem note (works : start.Works good operation desk) (level : LogLevel) (text : String) :
    start.Works good operation (desk.note level text) :=
  works.silent works.transport works.pending works.session rfl

theorem quiet (works : start.Works good operation desk) (quiet : desk.Quiet after) :
    start.Works good operation after := by
  obtain ⟨notes, rfl⟩ := quiet
  exact works.silent works.transport works.pending works.session rfl

theorem withStore (works : start.Works good operation desk) (store : Local.Store) :
    start.Works good operation { desk with store } :=
  works.silent works.transport works.pending works.session rfl

theorem withSession (works : start.Works good operation desk)
    (connection : operation.isConnection = true) (session : Session) :
    start.Works good operation { desk with session } := by
  refine works.silent works.transport works.pending ?_ rfl
  intro plain
  rw [connection] at plain
  cases plain

theorem forgetDirectory (works : start.Works good operation desk) :
    start.Works good operation { desk with session := { desk.session with directory := none } } :=
  works.silent works.transport works.pending (fun plain => (works.session plain).forgetDirectory)
    rfl

/-- The directory that was headed for is reached. -/
theorem arrive (works : start.Works good operation desk) {path : RemotePath}
    (heading : operation.heading? = some path) : start.Works good operation
      { desk with session := { desk.session with directory := some path } } := by
  refine works.silent works.transport works.pending ?_ rfl
  intro plain
  have stays := works.session plain
  rw [heading] at stays ⊢
  exact stays.arrive

theorem tellCache (works : start.Works good operation desk)
    (call : Server → DirectoryCache.Call) : start.Works good operation (desk.tellCache call) := by
  cases server : desk.session.server with
  | none =>
      rw [desk.tellCache_of_none call server]
      exact works
  | some known =>
      rw [desk.tellCache_of_server call server]
      exact works.record (.cached _ _) rfl (by simpa using works.transport)
        (by simpa using works.pending) (desk.cacheCall_session _) (desk.cacheCall_past _)

theorem lookup (works : start.Works good operation desk) (path : RemotePath) :
    start.Works good operation (desk.lookup path).2 := by
  rcases desk.lookup_desk path with same | ⟨server, called⟩
  · rw [same]
    exact works
  · rw [called]
    exact works.record (.cached _ _) rfl (by simpa using works.transport)
      (by simpa using works.pending) (desk.cacheCall_session _) (desk.cacheCall_past _)

section Transport

variable [Transport τ] {starts ends : Reply → Prop} (answers : Transport.Answers good starts ends)

include answers

theorem announce (works : start.Works good operation desk) (announcement : Announcement) :
    start.Works good operation (desk.announce announcement) :=
  works.record (.announced announcement) rfl (answers.announce _ _ works.transport)
    works.pending rfl rfl

theorem takeListing (works : start.Works good operation desk) :
    start.Works good operation desk.takeListing.2 :=
  works.record (.listingTaken _) rfl (answers.takeListing _ works.transport)
    works.pending rfl (desk.takeListing_past)

end Transport

/-! ## The ways in which a step ends -/

variable {κ : Type} {f : κ → Operation} {task : κ}

theorem answer (works : start.Works good operation desk) (reply : Reply) :
    ((desk.answer reply task).map f).Does good operation start := .rests works

/-- An event that was not expected is noted. -/
theorem unexpected (works : start.Works good operation desk) (kind : CommandKind)
    (stage event : String) : ((desk.unexpected kind stage event task).map f).Does good operation
      start := .rests (works.note _ _)

theorem request (works : start.Works good operation desk) {child : Operation}
    (waits : (f task).WaitsFor child) (acts : child.acts = true) :
    (((desk.request child).answer .again task).map f).Does good operation start :=
  .asks works rfl waits acts rfl

variable [Transport τ] {starts ends : Reply → Prop} (answers : Transport.Answers good starts ends)

include answers

theorem send (works : start.Works good operation desk) (line : WireLine)
    (sends : operation.sendsLines = true) :
    ((desk.send line task).map f).Does good operation start := by
  have own : operation.makes (.sent line (desk.lineText line)
      (Transport.send desk.transport (desk.lineText line)).1) = true := sends
  refine .requests works own (fun wait => Option.some.inj wait) (desk.send_past line task)
    works.pending ?_ (fun _ => rfl)
  exact (answers.send _ _ works.transport).2

theorem wakeUp (works : start.Works good operation desk) (seconds : Nat)
    (asleep : operation.kind = .sleep) :
    ((desk.wakeUp seconds task).map f).Does good operation start := by
  have own : operation.makes (.wakeUp seconds (Transport.wakeUp desk.transport seconds).1) =
      true := decide_eq_true asleep
  refine .requests works own (fun wait => Option.some.inj wait) rfl works.pending ?_ (fun _ => rfl)
  exact (answers.wakeUp _ _ works.transport).2

theorem connect (works : start.Works good operation desk) (server : Server)
    (credentials : Credentials) (connects : operation.kind = .connect) :
    ((desk.connect server credentials task).map f).Does good operation start := by
  have own : operation.makes (.connecting server credentials
      (Transport.connect desk.transport server credentials).1) = true := decide_eq_true connects
  refine .requests works own (fun wait => Option.some.inj wait) rfl works.pending ?_ (fun _ => rfl)
  exact (answers.connect _ _ _ works.transport).2

end Desk.Works

/-! ## The operations -/

section Steps

variable [Transport τ] {good : Transport.States τ} {starts ends : Reply → Prop}
  {desk : Desk τ Operation} {reply : Reply}

namespace ConnectTask

theorem send_does (answers : Transport.Answers good starts ends) (task : ConnectTask)
    (works : desk.Works good (.connect task) desk) :
    ((task.send desk).map .connect).Does good (.connect task) desk := by
  unfold send
  split
  · exact ((works.note _ _).withSession rfl _).connect answers _ _ rfl
  · exact works.unexpected _ _ _
  · exact works.unexpected _ _ _

theorem completed_does (env : Env) (task : ConnectTask)
    (works : desk.Works good (.connect task) desk) :
    ((task.completed env desk).map .connect).Does good (.connect task) desk := by
  unfold completed
  split
  · simp only
    split
    · exact ((works.note _ _).withSession rfl _).answer _
    · split
      · exact (works.note _ _).answer _
      · split
        · exact works.answer _
        · exact (works.note _ _).request rfl rfl
  · exact works.unexpected _ _ _
  · exact works.unexpected _ _ _

omit [Transport τ] in
theorem returned_does (reply : Reply) (finished : Operation) (task : ConnectTask)
    (works : desk.Works good (.connect task) desk) :
    ((task.returned reply finished desk).map .connect).Does good (.connect task) desk := by
  unfold returned
  split
  · split
    · exact works.answer _
    · exact (works.note _ _).answer _
  · exact works.unexpected _ _ _

end ConnectTask

namespace DisconnectTask

theorem send_does (answers : Transport.Answers good starts ends) (task : DisconnectTask)
    (works : desk.Works good (.disconnect task) desk) :
    ((task.send desk).map .disconnect).Does good (.disconnect task) desk := by
  have begun := works.note .info "Disconnecting"
  have transport : good (desk.note .info "Disconnecting").disconnect.2.transport :=
    answers.disconnect _ works.transport
  have past := (desk.note .info "Disconnecting").disconnect_past
  have pending : (desk.note .info "Disconnecting").disconnect.2.pending = none := works.pending
  unfold send
  split
  · exact works.unexpected _ _ _
  · simp only
    split
    · rename_i blocks
      exact .requests begun rfl (fun _ => blocks) past pending transport (by rintro ⟨⟩)
    · -- the answer is no wait, and nothing else is made of it
      rename_i answered
      have settled : (Happening.disconnecting (Transport.disconnect
          (desk.note .info "Disconnecting").transport).1).answer? ≠ some .wouldBlock :=
        fun wait => answered (Option.some.inj wait)
      split
      · exact .requests begun rfl (fun wait => absurd wait settled) past pending transport
          (by rintro ⟨⟩)
      · exact .requests begun rfl (fun wait => absurd wait settled) past pending transport
          (by rintro ⟨⟩)

omit [Transport τ] in
theorem completed_does (task : DisconnectTask)
    (works : desk.Works good (.disconnect task) desk) :
    ((task.completed desk).map .disconnect).Does good (.disconnect task) desk := by
  unfold completed
  split
  · exact (works.withSession rfl _).answer _
  · exact works.unexpected _ _ _

end DisconnectTask

namespace SleepTask

theorem send_does (answers : Transport.Answers good starts ends) (task : SleepTask)
    (works : desk.Works good (.sleep task) desk) :
    ((task.send desk).map .sleep).Does good (.sleep task) desk := by
  unfold send
  split
  · exact works.unexpected _ _ _
  · exact (works.note _ _).wakeUp answers _ rfl

theorem completed_does (task : SleepTask) (works : desk.Works good (.sleep task) desk) :
    ((task.completed desk).map .sleep).Does good (.sleep task) desk := by
  unfold completed
  split
  · exact works.answer _
  · exact works.unexpected _ _ _

end SleepTask

namespace ChangeDirTask

theorem send_does (answers : Transport.Answers good starts ends) (task : ChangeDirTask)
    (works : desk.Works good (.changeDir task) desk) :
    ((task.send desk).map .changeDir).Does good (.changeDir task) desk := by
  unfold send
  split
  · exact works.unexpected _ _ _
  · split
    · exact (works.note _ _).answer _
    · split
      · exact (works.note _ _).answer _
      · exact works.forgetDirectory.send answers _ rfl

theorem completed_does (task : ChangeDirTask) (works : desk.Works good (.changeDir task) desk) :
    ((task.completed desk).map .changeDir).Does good (.changeDir task) desk := by
  unfold completed
  split
  · rename_i waiting
    simp only
    split
    · exact (works.arrive (if_pos waiting)).answer _
    · exact works.answer _
  · exact works.unexpected _ _ _

end ChangeDirTask

namespace ListTask

variable {task : ListTask}

omit [Transport τ] in
theorem discard_works (works : desk.Works good (.list task) desk) (flags : ListFlags)
    (target : Option RemotePath) :
    desk.Works good (.list task) (discard flags target desk) := by
  unfold discard
  split
  · split
    · exact works.tellCache _
    · exact works
  · exact works

omit [Transport τ] in
theorem consultCache_works {start : Desk τ Operation} (works : start.Works good (.list task) desk)
    (env : Env) (flags : ListFlags) (target : Option RemotePath) :
    start.Works good (.list task) (consultCache env flags target desk).2 := by
  unfold consultCache
  split
  · exact works
  · split
    · exact works
    · exact works.lookup _

theorem send_does (answers : Transport.Answers good starts ends) (env : Env)
    (works : desk.Works good (.list task) desk) :
    ((task.send env desk).map .list).Does good (.list task) desk := by
  unfold send
  split
  · have consulted := consultCache_works
      (discard_works works task.request.flags (task.request.target? desk.session.directory)) env
      task.request.flags (task.request.target? desk.session.directory)
    simp only
    split
    · exact (consulted.note _ _).answer _
    · split
      · split
        · exact consulted.answer _
        · exact consulted.request rfl rfl
      · exact consulted.answer _
  · exact (works.note _ _).send answers _ rfl
  · exact works.unexpected _ _ _
  · exact works.unexpected _ _ _

theorem completed_does (answers : Transport.Answers good starts ends) (env : Env)
    (works : desk.Works good (.list task) desk) :
    ((task.completed env desk).map .list).Does good (.list task) desk := by
  unfold completed
  split
  · simp only
    split
    · exact works.answer _
    · split
      · exact ((works.takeListing answers).tellCache _).answer _
      · exact (works.takeListing answers).answer _
  · exact works.unexpected _ _ _
  · exact works.unexpected _ _ _
  · exact works.unexpected _ _ _

omit [Transport τ] in
theorem returned_does (entered : Reply) (works : desk.Works good (.list task) desk) :
    ((task.returned entered desk).map .list).Does good (.list task) desk := by
  unfold returned
  split
  · simp only
    split
    · exact works.answer _
    · split
      · exact (works.note _ _).answer _
      · split
        · exact works.answer _
        · exact (works.quiet (.noteEntered (.refl desk) _ _)).answer _
  · exact works.unexpected _ _ _
  · exact works.unexpected _ _ _
  · exact works.unexpected _ _ _

end ListTask

/-! ### Directory commands -/

namespace TransferTask

variable {task : TransferTask}

omit [Transport τ] in
theorem mark_works {start : Desk τ Operation}
    (works : start.Works good (.transfer task) desk) (freshness : Freshness) :
    start.Works good (.transfer task) (task.mark freshness desk) := by
  unfold mark
  split
  · exact works
  · exact works.tellCache _

theorem send_does (answers : Transport.Answers good starts ends)
    (works : desk.Works good (.transfer task) desk) :
    ((task.send desk).map .transfer).Does good (.transfer task) desk := by
  unfold send
  split
  · refine (Desk.Works.note ?_ _ _).request rfl rfl
    split
    · exact works.note _ _
    · exact works
  · simp only
    split
    · rename_i refused
      obtain ⟨-, text, rfl⟩ := openChannel_error refused
      exact (works.note _ _).answer _
    · rename_i opened
      obtain ⟨store, rfl⟩ := openChannel_ok opened
      exact ((mark_works (works.withStore store) _).announce answers _).send answers _ rfl
  · exact works.unexpected _ _ _
  · exact works.unexpected _ _ _

theorem completed_does (works : desk.Works good (.transfer task) desk) :
    ((task.completed desk).map .transfer).Does good (.transfer task) desk := by
  unfold completed
  split
  · simp only
    split
    · exact (works.note _ _).answer _
    · exact works.answer _
  · exact works.unexpected _ _ _
  · exact works.unexpected _ _ _
  · exact works.unexpected _ _ _

omit [Transport τ] in
theorem returned_does (entered : Reply) (works : desk.Works good (.transfer task) desk) :
    ((task.returned entered desk).map .transfer).Does good (.transfer task) desk := by
  unfold returned
  split
  · exact (works.quiet (.noteEntered (.refl desk) _ _)).answer _
  · exact works.unexpected _ _ _
  · exact works.unexpected _ _ _
  · exact works.unexpected _ _ _

end TransferTask

namespace DeleteTask

variable {task : DeleteTask}

theorem send_does (answers : Transport.Answers good starts ends)
    (works : desk.Works good (.delete task) desk) :
    ((task.send desk).map .delete).Does good (.delete task) desk := by
  unfold send
  split
  · exact (works.note _ _).request rfl rfl
  · split
    · split
      · exact works.answer _
      · exact (works.note _ _).answer _
    · exact (works.tellCache _).send answers _ rfl
  · exact works.unexpected _ _ _
  · exact works.unexpected _ _ _

theorem completed_does (works : desk.Works good (.delete task) desk) :
    ((task.completed desk).map .delete).Does good (.delete task) desk := by
  unfold completed
  split
  · simp only
    split
    · split
      · exact works.answer _
      · exact (works.note _ _).answer _
    · exact works.answer _
  · exact works.unexpected _ _ _
  · exact works.unexpected _ _ _
  · exact works.unexpected _ _ _

omit [Transport τ] in
theorem returned_does (entered : Reply) (works : desk.Works good (.delete task) desk) :
    ((task.returned entered desk).map .delete).Does good (.delete task) desk := by
  unfold returned
  split
  · exact works.answer _
  · exact works.unexpected _ _ _
  · exact works.unexpected _ _ _
  · exact works.unexpected _ _ _

end DeleteTask

namespace RemoveDirTask

variable {task : RemoveDirTask}

theorem send_does (answers : Transport.Answers good starts ends)
    (works : desk.Works good (.removeDir task) desk) :
    ((task.send desk).map .removeDir).Does good (.removeDir task) desk := by
  unfold send
  simp only
  split
  · exact (works.note _ _).request rfl rfl
  · exact (works.tellCache _).send answers _ rfl
  · exact works.unexpected _ _ _
  · exact works.unexpected _ _ _

theorem completed_does (works : desk.Works good (.removeDir task) desk) :
    ((task.completed desk).map .removeDir).Does good (.removeDir task) desk := by
  unfold completed
  split
  · exact works.answer _
  · exact works.unexpected _ _ _
  · exact works.unexpected _ _ _
  · exact works.unexpected _ _ _

omit [Transport τ] in
theorem returned_does (entered : Reply) (works : desk.Works good (.removeDir task) desk) :
    ((task.returned entered desk).map .removeDir).Does good (.removeDir task) desk := by
  unfold returned
  split
  · exact (works.quiet (.noteEntered (.refl desk) _ _)).answer _
  · exact works.unexpected _ _ _
  · exact works.unexpected _ _ _
  · exact works.unexpected _ _ _

end RemoveDirTask

namespace RenameTask

variable {task : RenameTask}

theorem send_does (answers : Transport.Answers good starts ends)
    (works : desk.Works good (.rename task) desk) :
    ((task.send desk).map .rename).Does good (.rename task) desk := by
  unfold send
  simp only
  split
  · exact (works.note _ _).request rfl rfl
  · exact (works.tellCache _).send answers _ rfl
  · exact works.unexpected _ _ _
  · exact works.unexpected _ _ _

theorem completed_does (works : desk.Works good (.rename task) desk) :
    ((task.completed desk).map .rename).Does good (.rename task) desk := by
  unfold completed
  split
  · exact works.answer _
  · exact works.unexpected _ _ _
  · exact works.unexpected _ _ _
  · exact works.unexpected _ _ _

omit [Transport τ] in
theorem returned_does (entered : Reply) (works : desk.Works good (.rename task) desk) :
    ((task.returned entered desk).map .rename).Does good (.rename task) desk := by
  unfold returned
  split
  · exact (works.quiet (.noteEntered (.refl desk) _ _)).answer _
  · exact works.unexpected _ _ _
  · exact works.unexpected _ _ _
  · exact works.unexpected _ _ _

end RenameTask

namespace ChmodTask

variable {task : ChmodTask}

theorem send_does (answers : Transport.Answers good starts ends)
    (works : desk.Works good (.chmod task) desk) :
    ((task.send desk).map .chmod).Does good (.chmod task) desk := by
  unfold send
  simp only
  split
  · exact (works.note _ _).request rfl rfl
  · exact (works.tellCache _).send answers _ rfl
  · exact (works.tellCache _).send answers _ rfl
  · exact works.unexpected _ _ _

theorem completed_does (works : desk.Works good (.chmod task) desk) :
    ((task.completed desk).map .chmod).Does good (.chmod task) desk := by
  unfold completed
  split
  · exact works.answer _
  · exact works.answer _
  · exact works.unexpected _ _ _
  · exact works.unexpected _ _ _

omit [Transport τ] in
theorem returned_does (entered : Reply) (works : desk.Works good (.chmod task) desk) :
    ((task.returned entered desk).map .chmod).Does good (.chmod task) desk := by
  unfold returned
  split
  · exact (works.quiet (.noteEntered (.refl desk) _ _)).answer _
  · exact works.unexpected _ _ _
  · exact works.unexpected _ _ _
  · exact works.unexpected _ _ _

end ChmodTask

/-! ### Making a directory, and lines of the caller -/

namespace MakeDirTask

variable {task : MakeDirTask}

omit [Transport τ] in
theorem mark_works (works : desk.Works good (.makeDir task) desk) (freshness : Freshness) :
    desk.Works good (.makeDir task) (task.mark freshness desk) := by
  unfold mark
  split
  · exact works.tellCache _
  · exact works

theorem send_does (answers : Transport.Answers good starts ends)
    (works : desk.Works good (.makeDir task) desk) :
    ((task.send desk).map .makeDir).Does good (.makeDir task) desk := by
  unfold send
  split
  · exact (works.note _ _).answer _
  · exact (mark_works works _).send answers _ rfl
  · exact works.unexpected _ _ _

theorem completed_does (works : desk.Works good (.makeDir task) desk) :
    ((task.completed desk).map .makeDir).Does good (.makeDir task) desk := by
  unfold completed
  split
  · exact works.answer _
  · exact works.unexpected _ _ _
  · exact works.unexpected _ _ _

end MakeDirTask

namespace RawTask

variable {task : RawTask}

theorem send_does (answers : Transport.Answers good starts ends)
    (works : desk.Works good (.raw task) desk) :
    ((task.send desk).map .raw).Does good (.raw task) desk := by
  unfold send
  split
  · exact works.unexpected _ _ _
  · exact ((works.note _ _).tellCache _).forgetDirectory.send answers _ rfl

theorem completed_does (works : desk.Works good (.raw task) desk) :
    ((task.completed desk).map .raw).Does good (.raw task) desk := by
  unfold completed
  split
  · exact works.answer _
  · exact works.unexpected _ _ _

end RawTask

/-! ### All of them -/

namespace Operation

variable {operation : Operation}

omit [Transport τ] in
theorem returned_does (reply : Reply) (finished : Operation)
    (works : desk.Works good operation desk) :
    (returned reply finished operation desk).Does good operation desk := by
  cases operation with
  | connect task => exact ConnectTask.returned_does reply finished task works
  | list task => exact ListTask.returned_does reply works
  | transfer task => exact TransferTask.returned_does reply works
  | delete task => exact DeleteTask.returned_does reply works
  | removeDir task => exact RemoveDirTask.returned_does reply works
  | rename task => exact RenameTask.returned_does reply works
  | chmod task => exact ChmodTask.returned_does reply works
  | _ => exact .rests (works.note _ _)

theorem send_does (answers : Transport.Answers good starts ends) (env : Env)
    (works : desk.Works good operation desk) :
    (operation.send env desk).Does good operation desk := by
  cases operation with
  | connect task => exact ConnectTask.send_does answers task works
  | disconnect task => exact DisconnectTask.send_does answers task works
  | sleep task => exact SleepTask.send_does answers task works
  | changeDir task => exact ChangeDirTask.send_does answers task works
  | list task => exact ListTask.send_does answers env works
  | transfer task => exact TransferTask.send_does answers works
  | delete task => exact DeleteTask.send_does answers works
  | removeDir task => exact RemoveDirTask.send_does answers works
  | makeDir task => exact MakeDirTask.send_does answers works
  | rename task => exact RenameTask.send_does answers works
  | chmod task => exact ChmodTask.send_does answers works
  | raw task => exact RawTask.send_does answers works

theorem completed_does (answers : Transport.Answers good starts ends) (env : Env)
    (works : desk.Works good operation desk) :
    (operation.completed env desk).Does good operation desk := by
  cases operation with
  | connect task => exact ConnectTask.completed_does env task works
  | disconnect task => exact DisconnectTask.completed_does task works
  | sleep task => exact SleepTask.completed_does task works
  | changeDir task => exact ChangeDirTask.completed_does task works
  | list task => exact ListTask.completed_does answers env works
  | transfer task => exact TransferTask.completed_does works
  | delete task => exact DeleteTask.completed_does works
  | removeDir task => exact RemoveDirTask.completed_does works
  | makeDir task => exact MakeDirTask.completed_does works
  | rename task => exact RenameTask.completed_does works
  | chmod task => exact ChmodTask.completed_does works
  | raw task => exact RawTask.completed_does works

/-- What any step of any operation comes to. -/
theorem step_does (answers : Transport.Answers good starts ends) (env : Env)
    (event : Event Operation) (operation : Operation) (transport : good desk.transport)
    (pending : desk.pending = none) :
    (step env event operation desk).Does good operation desk := by
  have works : desk.Works good operation desk := .refl operation transport pending
  cases event with
  | send => exact send_does answers env works
  | completed => exact completed_does answers env works
  | returned reply finished => exact returned_does reply finished works

/-! ## What follows for the stack -/

theorem changeDir_path (env : Env) (event : Event Operation) (task : ChangeDirTask)
    (desk : Desk τ Operation) :
    ∃ after : ChangeDirTask, (step env event (.changeDir task) desk).operation = .changeDir after ∧
      after.path = task.path ∧
        (after.waiting = true → task.waiting = true ∨ task.path.isUnspecified = false) := by
  cases event with
  | send =>
      by_cases waiting : task.waiting = true
      · simp only [step, send, ChangeDirTask.send, if_pos waiting]
        exact ⟨task, rfl, rfl, .inl⟩
      · by_cases unspecified : task.path.isUnspecified = true
        · simp only [step, send, ChangeDirTask.send, if_neg waiting, if_pos unspecified]
          exact ⟨task, rfl, rfl, .inl⟩
        · refine ⟨_, rfl, ?_, fun _ => .inr (by simpa using unspecified)⟩
          simp only [ChangeDirTask.send, if_neg waiting, if_neg unspecified]
          split <;> rfl
  | completed =>
      refine ⟨_, rfl, ?_, ?_⟩
      · simp only [ChangeDirTask.completed]
        split <;> rfl
      · simp only [ChangeDirTask.completed]
        split
        · exact .inl
        · exact .inl
  | returned reply finished => exact ⟨task, rfl, rfl, .inl⟩

/-- After any step the operation may stand on the stack where it stood. -/
theorem step_succeeds (env : Env) (event : Event Operation) (operation : Operation)
    (desk : Desk τ Operation) :
    (step env event operation desk).operation.Succeeds operation := by
  have same := step_kind env event operation desk
  cases operation with
  | sleep task =>
      refine ⟨?_, ?_⟩
      · cases event <;> rfl
      · intro parent waits
        cases event <;> exact waits
  | changeDir task =>
      obtain ⟨after, stepped, path, -⟩ := changeDir_path env event task desk
      rw [stepped]
      refine ⟨rfl, ?_⟩
      intro parent waits
      exact (show parent.entering? = some task.path from waits).trans (congrArg some path.symm)
  | _ => exact .of_command (by cases event <;> rfl) rfl

/-- A change of directory that is out leads somewhere. -/
def IsHeaded (operation : Operation) : Prop :=
  ∀ path, operation.heading? = some path → path.isUnspecified = false

theorem isHeaded_of_kind (h : operation.kind ≠ .changeDir) : operation.IsHeaded := by
  cases operation <;> first | (rintro _ ⟨⟩) | exact absurd rfl h

theorem step_isHeaded (env : Env) (event : Event Operation) (headed : operation.IsHeaded)
    (desk : Desk τ Operation) : (step env event operation desk).operation.IsHeaded := by
  by_cases changes : operation.kind = .changeDir
  · cases operation with
    | changeDir task =>
        obtain ⟨after, stepped, path, begun⟩ := changeDir_path env event task desk
        rw [stepped]
        intro heading leads
        have waiting : after.waiting = true ∧ after.path = heading := by
          simpa [heading?] using leads
        rw [← waiting.2, path]
        rcases begun waiting.1 with waited | specified
        · exact headed _ (if_pos waited)
        · exact specified
    | _ => cases changes
  · exact isHeaded_of_kind (by rwa [step_kind])

end Operation

namespace Step.Does

variable {step : Step τ Operation Operation} {operation child : Operation}

omit [Transport τ]

theorem good_transport (does : step.Does good operation desk) : good step.desk.transport := by
  cases does with
  | rests works => exact works.transport
  | asks works again waits acts asked =>
      rw [asked, Desk.request_transport]
      exact works.transport
  | requests works own waits past pending transport session => exact transport

/-- Who asks for a subcommand, which has something to do, goes on and waits for it. -/
theorem waitsFor (does : step.Does good operation desk) (h : step.desk.pending = some child) :
    step.reply = .again ∧ step.operation.WaitsFor child ∧ child.acts = true := by
  cases does with
  | rests works =>
      rw [works.pending] at h
      cases h
  | asks works again waits acts asked =>
      rw [asked, Desk.request_pending] at h
      obtain rfl := Option.some.inj h
      exact ⟨again, waits, acts⟩
  | requests works own waits past pending transport session =>
      rw [pending] at h
      cases h

theorem session (does : step.Does good operation desk) (plain : operation.isConnection = false) :
    Session.Stays operation.heading? desk.session step.desk.session := by
  cases does with
  | rests works => exact works.session plain
  | asks works again waits acts asked =>
      rw [asked, Desk.request_session]
      exact works.session plain
  | requests works own waits past pending transport session =>
      rw [session plain]
      exact works.session plain

end Step.Does

namespace Turn

variable {turn after : Turn τ Operation} {env : Env}

/-- What the step of a turn comes to. -/
theorem step_does (answers : Transport.Answers good starts ends)
    (transport : good turn.desk.transport) (env : Env) :
    (turn.step env).Does good turn.top { turn.desk with pending := none } :=
  Operation.step_does answers env turn.event turn.top transport rfl

theorem step_succeeds (env : Env) (turn : Turn τ Operation) :
    (turn.step env).operation.Succeeds turn.top :=
  Operation.step_succeeds env turn.event turn.top _

/-- Whatever the operations are told, those below fit the topmost one from turn to turn. -/
theorem FitsBelow.next (answers : Transport.Answers good starts ends)
    (transport : good turn.desk.transport) (fits : FitsBelow turn.top turn.below)
    (next : turn.next env = .inr after) : FitsBelow after.top after.below := by
  have does := step_does answers transport env
  have succeeds := step_succeeds env turn
  rcases Step.next_eq_inr next with ⟨-, left, -, rfl⟩ | ⟨-, -, -, parent, rest, eq, rfl⟩
  · unfold Step.onward
    rw [Step.noted_pending]
    cases pending : (turn.step env).desk.pending with
    | some child =>
        -- who asked is no subcommand, so nothing is below it
        obtain ⟨-, waits, -⟩ := does.waitsFor pending
        have command := succeeds.isSubcommand.symm.trans waits.not_isSubcommand
        exact .inr ⟨_, by rw [fits.of_command command], waits⟩
    | none => exact fits.succeeds succeeds
  · obtain ⟨waits, rfl⟩ := (eq ▸ fits.succeeds succeeds).asked
    exact .inl ⟨rfl, waits.not_isSubcommand⟩

end Turn

end Steps

end Courier
