import Courier.Operation.Dispatch
import Courier.Proofs.Desk

/-!
# Flags and their owners

A command to list or to transfer carries flags of several owners. Two such commands are akin if they
differ in flags the engine does not own and in nothing else. At each of two transports that answer
alike there is a desk, and akin operations take a step, one at each desk. In whatever state they are
and whatever they are told, both do the same: a foreign flag is seen in notes at most.
-/

namespace Courier

/-! ## Flags -/

/-- Sets that agree on a mask contain the same of it. -/
theorem Bits.and_congr_of_mask {w : Nat} {a b mask part : BitVec w}
    (agree : b &&& mask = a &&& mask) (within : mask &&& part = part) :
    b &&& part = a &&& part := by
  calc b &&& part = (b &&& mask) &&& part := by rw [BitVec.and_assoc, within]
    _ = (a &&& mask) &&& part := by rw [agree]
    _ = a &&& part := by rw [BitVec.and_assoc, within]

namespace ListFlags

variable {flags other part : ListFlags}

/-- The flags the engine acts upon. -/
def owned (flags : ListFlags) : ListFlags := ⟨flags.bits &&& engineMask.bits⟩

theorem and_congr (agree : other.owned = flags.owned) (own : engineMask.contains part = true) :
    other.bits &&& part.bits = flags.bits &&& part.bits := by
  refine Bits.and_congr_of_mask (congrArg ListFlags.bits agree) ?_
  simpa [contains, Bits.contains] using own

theorem contains_congr (agree : other.owned = flags.owned)
    (own : engineMask.contains part = true) : other.contains part = flags.contains part := by
  unfold contains Bits.contains
  rw [and_congr agree own]

theorem intersects_congr (agree : other.owned = flags.owned)
    (own : engineMask.contains part = true) : other.intersects part = flags.intersects part := by
  unfold intersects Bits.intersects
  rw [and_congr agree own]

end ListFlags

namespace TransferFlags

variable {flags other part : TransferFlags}

/-- The flags the engine acts upon. -/
def owned (flags : TransferFlags) : TransferFlags := ⟨flags.bits &&& engineMask.bits⟩

theorem contains_congr (agree : other.owned = flags.owned)
    (own : engineMask.contains part = true) : other.contains part = flags.contains part := by
  have within : engineMask.bits &&& part.bits = part.bits := by
    simpa [contains, Bits.contains] using own
  unfold contains Bits.contains
  rw [Bits.and_congr_of_mask (congrArg TransferFlags.bits agree) within]

end TransferFlags

namespace TransferRequest

variable {request : TransferRequest} {flags : TransferFlags}

/-- In which direction data goes is up to the engine. -/
theorem isDownload_congr (agree : flags.owned = request.flags.owned) :
    ({ request with flags } : TransferRequest).isDownload = request.isDownload :=
  TransferFlags.contains_congr agree (by decide)

theorem announcement_congr (agree : flags.owned = request.flags.owned) (store : Local.Store)
    (remote : String) :
    TransferTask.announcement store { request with flags } remote =
      TransferTask.announcement store request remote := by
  unfold TransferTask.announcement
  rw [isDownload_congr agree]

end TransferRequest

/-! ## Commands and operations that are akin -/

/-- The commands differ in flags which the engine does not own, and in nothing else. -/
inductive Command.Akin : Command → Command → Prop
  | list (request : ListRequest) (flags : ListFlags) (agree : flags.owned = request.flags.owned) :
      Akin (.list request) (.list { request with flags })
  | transfer (request : TransferRequest) (flags : TransferFlags)
      (agree : flags.owned = request.flags.owned) :
      Akin (.transfer request) (.transfer { request with flags })

theorem Command.Akin.valid {command other : Command} (akin : command.Akin other) :
    other.valid = command.valid := by
  rcases akin with ⟨request, flags, agree⟩ | ⟨request, flags, agree⟩
  · simp only [Command.valid, ListRequest.valid]
    rw [ListFlags.contains_congr agree (by decide)]
  · simp only [Command.valid, TransferRequest.valid]
    rw [TransferRequest.isDownload_congr agree]

/-- Operations that come up in the execution of commands that are akin, in the same state. -/
inductive Operation.Akin : Operation → Operation → Prop
  | changeDir (task : ChangeDirTask) : Akin (.changeDir task) (.changeDir task)
  | list (request : ListRequest) (flags : ListFlags) (agree : flags.owned = request.flags.owned)
      (progress : ListProgress) :
      Akin (.list ⟨request, progress⟩) (.list ⟨{ request with flags }, progress⟩)
  | transfer (request : TransferRequest) (flags : TransferFlags)
      (agree : flags.owned = request.flags.owned) (progress : Progress)
      (channel : Option Local.Channel) :
      Akin (.transfer ⟨request, progress, channel⟩)
        (.transfer ⟨{ request with flags }, progress, channel⟩)

namespace Operation.Akin

variable {operation other : Operation}

theorem kind (akin : operation.Akin other) : other.kind = operation.kind := by
  rcases akin <;> rfl

theorem withChannel (akin : operation.Akin other) (channel : Local.Channel) :
    (operation.withChannel channel).Akin (other.withChannel channel) := by
  rcases akin with task | ⟨request, flags, agree, progress⟩ |
    ⟨request, flags, agree, progress, old⟩
  · exact .changeDir task
  · exact .list request flags agree progress
  · exact .transfer request flags agree progress (some channel)

end Operation.Akin

/-- The same command over the same protocol, flags apart, begins with the same operation, or with
none. -/
theorem Command.Akin.ofCommand? {command other : Command} (akin : command.Akin other)
    (protocol : Protocol) :
    Option.Rel Operation.Akin (Operation.ofCommand? command protocol)
      (Operation.ofCommand? other protocol) := by
  rcases akin with ⟨request, flags, agree⟩ | ⟨request, flags, agree⟩
  · cases protocol with
    | sftp => exact .some (.list request flags agree .start)
    | _ => exact .none
  · cases protocol with
    | sftp => exact .some (.transfer request flags agree .start none)
    | _ => exact .none

/-! ## Transports and desks that are alike -/

/-- States that are related answer in the same way and stay related. Nothing is asked about
connecting, disconnecting and wake-ups, which neither listing nor transferring calls for. -/
structure Transport.Alike {τ σ : Type} [Transport τ] [Transport σ] (R : τ → σ → Prop) : Prop where
  send : ∀ t u text, R t u → (Transport.send u text).1 = (Transport.send t text).1 ∧
    R (Transport.send t text).2 (Transport.send u text).2
  quote : ∀ t u name, R t u → Transport.quote u name = Transport.quote t name
  result : ∀ t u, R t u → Transport.result u = Transport.result t
  takeListing : ∀ t u, R t u → (Transport.takeListing u).1 = (Transport.takeListing t).1 ∧
    R (Transport.takeListing t).2 (Transport.takeListing u).2
  announce : ∀ t u announcement, R t u →
    R (Transport.announce t announcement) (Transport.announce u announcement)
  abort : ∀ t u, R t u → R (Transport.abort t) (Transport.abort u)

/-- A transport is like itself. -/
theorem Transport.Alike.of_eq {τ : Type} [Transport τ] : Transport.Alike (Eq : τ → τ → Prop) where
  send := by
    rintro t _ text rfl
    exact ⟨rfl, rfl⟩
  quote := by
    rintro t _ name rfl
    rfl
  result := by
    rintro t _ rfl
    rfl
  takeListing := by
    rintro t _ rfl
    exact ⟨rfl, rfl⟩
  announce := by
    rintro t _ announcement rfl
    rfl
  abort := by
    rintro t _ rfl
    rfl

/-- The happening is the start of a command. -/
def Happening.isStart : Happening → Bool
  | .started _ => true
  | _ => false

/-- All that has happened, except that commands were started: the requests to the transport and the
calls on the cache with their answers, and the calls of the owner. -/
def dealings (past : List Happening) : List Happening := past.filter (!·.isStart)

variable {τ σ : Type} {R : τ → σ → Prop}

/-- At both desks there is the same and the same has happened, notes and the start of commands
apart. -/
structure Desk.Alike (R : τ → σ → Prop) (desk : Desk τ Operation) (twin : Desk σ Operation) :
    Prop where
  transport : R desk.transport twin.transport
  cache : twin.cache = desk.cache
  session : twin.session = desk.session
  store : twin.store = desk.store
  pending : Option.Rel Operation.Akin desk.pending twin.pending
  past : dealings twin.past = dealings desk.past

/-- The steps come to the same. -/
structure Step.Alike (R : τ → σ → Prop) (step : Step τ Operation Operation)
    (twin : Step σ Operation Operation) : Prop where
  reply : twin.reply = step.reply
  operation : step.operation.Akin twin.operation
  desk : step.desk.Alike R twin.desk

namespace Desk.Alike

variable {desk : Desk τ Operation} {twin : Desk σ Operation} {operation other : Operation}

theorem note (alike : desk.Alike R twin) (level level' : LogLevel) (text text' : String) :
    (desk.note level text).Alike R (twin.note level' text') :=
  ⟨alike.transport, alike.cache, alike.session, alike.store, alike.pending, alike.past⟩

/-- Whether something is noted makes no difference. -/
theorem noteIf (alike : desk.Alike R twin) (c c' : Prop) [Decidable c] [Decidable c']
    (level : LogLevel) (text : String) :
    (if c then desk.note level text else desk).Alike R
      (if c' then twin.note level text else twin) := by
  split <;> split <;>
    exact ⟨alike.transport, alike.cache, alike.session, alike.store, alike.pending, alike.past⟩

theorem withSession (alike : desk.Alike R twin) (change : Session → Session) :
    ({ desk with session := change desk.session } : Desk τ Operation).Alike R
      { twin with session := change twin.session } :=
  ⟨alike.transport, alike.cache, congrArg change alike.session, alike.store, alike.pending,
    alike.past⟩

theorem withStore (alike : desk.Alike R twin) (store : Local.Store) :
    ({ desk with store } : Desk τ Operation).Alike R { twin with store } :=
  ⟨alike.transport, alike.cache, alike.session, rfl, alike.pending, alike.past⟩

theorem withTransport (alike : desk.Alike R twin) {t : τ} {u : σ} (related : R t u) :
    ({ desk with transport := t } : Desk τ Operation).Alike R { twin with transport := u } :=
  ⟨related, alike.cache, alike.session, alike.store, alike.pending, alike.past⟩

/-- Who asked for what is forgotten at both. -/
theorem withoutPending (alike : desk.Alike R twin) :
    ({ desk with pending := none } : Desk τ Operation).Alike R { twin with pending := none } :=
  ⟨alike.transport, alike.cache, alike.session, alike.store, .none, alike.past⟩

theorem record_congr (alike : desk.Alike R twin) {happening happening' : Happening}
    (same : dealings [happening'] = dealings [happening]) :
    (desk.record happening).Alike R (twin.record happening') := by
  refine ⟨alike.transport, alike.cache, alike.session, alike.store, alike.pending, ?_⟩
  have both (h : Happening) (past : List Happening) :
      dealings (h :: past) = dealings [h] ++ dealings past := List.filter_append [h] past
  change dealings (happening' :: twin.past) = dealings (happening :: desk.past)
  rw [both, both happening, same, alike.past]

theorem record (alike : desk.Alike R twin) (happening : Happening) :
    (desk.record happening).Alike R (twin.record happening) := alike.record_congr rfl

theorem enter (alike : desk.Alike R twin) (path : RemotePath) :
    (desk.enter path).Alike R (twin.enter path) := by
  have asked : Option.Rel Operation.Akin (desk.enter path).pending (twin.enter path).pending := by
    unfold Desk.enter
    rw [request_pending, request_pending]
    exact .some (.changeDir { path })
  refine ⟨?_, ?_, ?_, ?_, asked, ?_⟩
  · simpa [Desk.enter] using alike.transport
  · simpa [Desk.enter] using alike.cache
  · simpa [Desk.enter] using alike.session
  · simpa [Desk.enter] using alike.store
  · simpa [Desk.enter] using alike.past

theorem noteEntered (alike : desk.Alike R twin) (entered : Reply) (consequence : String) :
    (desk.noteEntered entered consequence).Alike R (twin.noteEntered entered consequence) := by
  unfold Desk.noteEntered
  split
  · exact alike
  · exact alike.note _ _ _ _

theorem cacheCall (alike : desk.Alike R twin) (call : DirectoryCache.Call) :
    (desk.cacheCall call).2.Alike R (twin.cacheCall call).2 := by
  have same := alike.cache
  refine ⟨?_, ?_, ?_, ?_, ?_, ?_⟩
  · simpa using alike.transport
  · simp [same]
  · simpa using alike.session
  · cases call <;> exact alike.store
  · simpa using alike.pending
  · rw [cacheCall_past, cacheCall_past]
    exact (alike.record_congr (by rw [same])).past

theorem tellCache (alike : desk.Alike R twin) (call : Server → DirectoryCache.Call) :
    (desk.tellCache call).Alike R (twin.tellCache call) := by
  unfold Desk.tellCache
  rw [alike.session]
  cases desk.session.server with
  | none => exact alike
  | some server => exact alike.cacheCall (call server)

theorem lookup (alike : desk.Alike R twin) (path : RemotePath) :
    (twin.lookup path).1 = (desk.lookup path).1 ∧
      (desk.lookup path).2.Alike R (twin.lookup path).2 := by
  unfold Desk.lookup
  rw [alike.session]
  cases desk.session.server with
  | none => exact ⟨rfl, alike⟩
  | some server =>
      refine ⟨?_, alike.cacheCall (.lookup server path)⟩
      change twin.cache.lookup server path = desk.cache.lookup server path
      rw [alike.cache]

theorem answer (alike : desk.Alike R twin) (akin : operation.Akin other) (reply : Reply) :
    (desk.answer reply operation).Alike R (twin.answer reply other) := ⟨rfl, akin, alike⟩

/-! ### Requests to the transports -/

variable [Transport τ] [Transport σ] (transports : Transport.Alike R)

include transports

theorem result (alike : desk.Alike R twin) : twin.result = desk.result :=
  transports.result _ _ alike.transport

theorem announce (alike : desk.Alike R twin) (announcement : Announcement) :
    (desk.announce announcement).Alike R (twin.announce announcement) :=
  (alike.withTransport (transports.announce _ _ announcement alike.transport)).record _

theorem abort (alike : desk.Alike R twin) : desk.abort.Alike R twin.abort :=
  (alike.withTransport (transports.abort _ _ alike.transport)).record .aborted

theorem takeListing (alike : desk.Alike R twin) :
    twin.takeListing.1 = desk.takeListing.1 ∧
      desk.takeListing.2.Alike R twin.takeListing.2 := by
  obtain ⟨same, related⟩ := transports.takeListing _ _ alike.transport
  exact ⟨same, (alike.withTransport related).record_congr
    (congrArg (fun entries => dealings [.listingTaken entries]) same)⟩

theorem send (alike : desk.Alike R twin) (akin : operation.Akin other) (line : WireLine) :
    (desk.send line operation).Alike R (twin.send line other) := by
  have quoted : Transport.quote twin.transport = Transport.quote desk.transport := by
    funext name
    exact transports.quote _ _ name alike.transport
  obtain ⟨same, related⟩ := transports.send _ _
    (line.text (Transport.quote desk.transport)) alike.transport
  unfold Desk.send
  rw [quoted]
  exact ⟨same, akin, (alike.withTransport related).record_congr
    (congrArg (fun reply => dealings [.sent line _ reply]) same)⟩

end Desk.Alike

/-! ## Steps -/

section Steps

variable {desk : Desk τ Operation} {twin : Desk σ Operation} (alike : desk.Alike R twin)

include alike

/-! ### What flags decide -/

theorem ListTask.discard_alike {flags other : ListFlags} (agree : other.owned = flags.owned)
    (target : Option RemotePath) :
    (discard flags target desk).Alike R (discard other target twin) := by
  unfold discard
  rw [ListFlags.contains_congr agree (by decide)]
  cases target with
  | none => exact alike
  | some path =>
      simp only
      split
      · exact alike.tellCache _
      · exact alike

theorem ListTask.consultCache_alike {flags other : ListFlags} (agree : other.owned = flags.owned)
    (env : Env) (target : Option RemotePath) :
    (consultCache env other target twin).1 = (consultCache env flags target desk).1 ∧
      (consultCache env flags target desk).2.Alike R (consultCache env other target twin).2 := by
  have goodEnough : isGoodEnough env other = isGoodEnough env flags := by
    funext listing
    unfold isGoodEnough
    rw [ListFlags.contains_congr agree (by decide)]
  unfold consultCache
  rw [ListFlags.intersects_congr agree (by decide), goodEnough]
  split
  · exact ⟨rfl, alike⟩
  · cases target with
    | none => exact ⟨rfl, alike⟩
    | some path =>
        obtain ⟨same, looked⟩ := alike.lookup path
        exact ⟨congrArg (fun found : Option Listing => found.any (isGoodEnough env flags)) same,
          looked⟩

theorem TransferTask.mark_alike {request : TransferRequest} {flags : TransferFlags}
    (agree : flags.owned = request.flags.owned) (progress : Progress)
    (channel : Option Local.Channel) (freshness : Freshness) :
    (mark ⟨request, progress, channel⟩ freshness desk).Alike R
      (mark ⟨{ request with flags }, progress, channel⟩ freshness twin) := by
  unfold mark
  simp only
  rw [TransferRequest.isDownload_congr agree]
  split
  · exact alike
  · exact alike.tellCache _

theorem TransferTask.openChannel_alike {request : TransferRequest} {flags : TransferFlags}
    (agree : flags.owned = request.flags.owned) (progress : Progress)
    (channel : Option Local.Channel) :
    match openChannel ⟨request, progress, channel⟩ desk,
      openChannel ⟨{ request with flags }, progress, channel⟩ twin with
    | .ok (channel, after), .ok (channel', after') => channel' = channel ∧ after.Alike R after'
    | .error (reply, after), .error (reply', after') => reply' = reply ∧ after.Alike R after'
    | _, _ => False := by
  unfold openChannel
  rw [alike.store]
  cases request.localEnd with
  | upload source =>
      simp only
      cases source.openReader desk.store with
      | ok reader => exact ⟨rfl, alike⟩
      | error fault => exact ⟨rfl, alike.note _ _ _ _⟩
  | download sink =>
      simp only
      rw [TransferFlags.contains_congr agree (by decide)]
      cases sink.openWriter desk.store with
      | ok opened => exact ⟨rfl, alike.withStore _⟩
      | error fault => exact ⟨rfl, alike.note _ _ _ _⟩

theorem TransferTask.cancel_alike {request : TransferRequest} {flags : TransferFlags}
    (agree : flags.owned = request.flags.owned) (progress : Progress)
    (channel : Option Local.Channel) :
    (cancel ⟨request, progress, channel⟩ desk).2.Alike R
      (cancel ⟨{ request with flags }, progress, channel⟩ twin).2 := by
  unfold cancel
  cases progress with
  | waiting naming => exact mark_alike alike agree _ _ _
  | _ => exact alike

/-! ### What operations do -/

theorem ListTask.returned_alike {request : ListRequest} {flags : ListFlags}
    (agree : flags.owned = request.flags.owned) (progress : ListProgress) (entered : Reply) :
    ((returned entered ⟨request, progress⟩ desk).map .list).Alike R
      ((returned entered ⟨{ request with flags }, progress⟩ twin).map .list) := by
  cases progress with
  | entering target =>
      simp only [returned]
      rw [alike.session, ListFlags.contains_congr agree (by decide),
        ListFlags.contains_congr agree (by decide)]
      split
      · exact alike.answer (.list _ _ agree _) _
      · split
        · exact (alike.note _ _ _ _).answer (.list _ _ agree _) _
        · split
          · exact alike.answer (.list _ _ agree _) _
          · exact (alike.noteEntered _ _).answer (.list _ _ agree _) _
  | start | ready target | waiting target =>
      exact (alike.note _ _ _ _).answer (.list _ _ agree _) _

theorem TransferTask.returned_alike {request : TransferRequest} {flags : TransferFlags}
    (agree : flags.owned = request.flags.owned) (progress : Progress)
    (channel : Option Local.Channel) (entered : Reply) :
    ((returned entered ⟨request, progress, channel⟩ desk).map .transfer).Alike R
      ((returned entered ⟨{ request with flags }, progress, channel⟩ twin).map .transfer) := by
  cases progress with
  | entering => exact (alike.noteEntered _ _).answer (.transfer _ _ agree _ _) _
  | start | ready naming | waiting naming =>
      exact (alike.note _ _ _ _).answer (.transfer _ _ agree _ _) _

variable [Transport τ] [Transport σ] (transports : Transport.Alike R)

include transports

theorem ChangeDirTask.send_alike (task : ChangeDirTask) :
    ((task.send desk).map .changeDir).Alike R ((task.send twin).map .changeDir) := by
  unfold send
  rw [alike.session]
  split
  · exact (alike.note _ _ _ _).answer (.changeDir _) _
  · split
    · exact (alike.note _ _ _ _).answer (.changeDir _) _
    · split
      · exact (alike.note _ _ _ _).answer (.changeDir _) _
      · exact (alike.withSession fun _ => { desk.session with directory := none }).send transports
          (.changeDir _) _

theorem ChangeDirTask.completed_alike (task : ChangeDirTask) :
    ((task.completed desk).map .changeDir).Alike R ((task.completed twin).map .changeDir) := by
  simp only [completed]
  rw [alike.result transports]
  split
  · split
    · exact (alike.withSession fun session =>
        { session with directory := some task.path }).answer (.changeDir _) _
    · exact alike.answer (.changeDir _) _
  · exact (alike.note _ _ _ _).answer (.changeDir _) _

theorem ListTask.send_alike {request : ListRequest} {flags : ListFlags}
    (agree : flags.owned = request.flags.owned) (env : Env) (progress : ListProgress) :
    ((send env ⟨request, progress⟩ desk).map .list).Alike R
      ((send env ⟨{ request with flags }, progress⟩ twin).map .list) := by
  cases progress with
  | start =>
      simp only [send]
      rw [alike.session]
      obtain ⟨same, consulted⟩ := consultCache_alike
        (discard_alike alike agree (request.target? desk.session.directory)) agree env
        (request.target? desk.session.directory)
      rw [show ({ request with flags } : ListRequest).target? desk.session.directory =
        request.target? desk.session.directory from rfl, same]
      split
      · exact (consulted.note _ _ _ _).answer (.list _ _ agree _) _
      · split
        · split
          · exact consulted.answer (.list _ _ agree _) _
          · exact (consulted.enter _).answer (.list _ _ agree _) _
        · exact consulted.answer (.list _ _ agree _) _
  | ready target => exact (alike.note _ _ _ _).send transports (.list _ _ agree _) _
  | entering target | waiting target =>
      exact (alike.note _ _ _ _).answer (.list _ _ agree _) _

theorem ListTask.completed_alike {request : ListRequest} {flags : ListFlags}
    (agree : flags.owned = request.flags.owned) (env : Env) (progress : ListProgress) :
    ((completed env ⟨request, progress⟩ desk).map .list).Alike R
      ((completed env ⟨{ request with flags }, progress⟩ twin).map .list) := by
  cases progress with
  | waiting target =>
      obtain ⟨received, taken⟩ := alike.takeListing transports
      simp only [completed]
      rw [alike.result transports, received]
      split
      · exact alike.answer (.list _ _ agree _) _
      · split
        · exact (taken.tellCache _).answer (.list _ _ agree _) _
        · exact taken.answer (.list _ _ agree _) _
  | start | entering target | ready target =>
      exact (alike.note _ _ _ _).answer (.list _ _ agree _) _

theorem TransferTask.send_alike {request : TransferRequest} {flags : TransferFlags}
    (agree : flags.owned = request.flags.owned) (progress : Progress)
    (channel : Option Local.Channel) :
    ((send ⟨request, progress, channel⟩ desk).map .transfer).Alike R
      ((send ⟨{ request with flags }, progress, channel⟩ twin).map .transfer) := by
  cases progress with
  | start =>
      exact (((alike.noteIf _ _ _ _).note _ _ _ _).enter _).answer (.transfer _ _ agree _ _) _
  | ready naming =>
      have opened := openChannel_alike alike agree (.ready naming) channel
      simp only [send]
      split at opened
      · rename_i channel after channel' after' here there
        obtain ⟨rfl, opened⟩ := opened
        have marked := mark_alike opened agree (.ready naming) channel .unknown
        simp only [here, there]
        rw [marked.store, TransferRequest.announcement_congr agree,
          TransferRequest.isDownload_congr agree]
        exact (marked.announce transports _).send transports (.transfer _ _ agree _ _) _
      · rename_i reply after reply' after' here there
        obtain ⟨rfl, failed⟩ := opened
        simp only [here, there]
        exact failed.answer (.transfer _ _ agree _ _) _
      · exact opened.elim
  | entering | waiting naming =>
      exact (alike.note _ _ _ _).answer (.transfer _ _ agree _ _) _

theorem TransferTask.completed_alike {request : TransferRequest} {flags : TransferFlags}
    (agree : flags.owned = request.flags.owned) (progress : Progress)
    (channel : Option Local.Channel) :
    ((completed ⟨request, progress, channel⟩ desk).map .transfer).Alike R
      ((completed ⟨{ request with flags }, progress, channel⟩ twin).map .transfer) := by
  cases progress with
  | waiting naming =>
      simp only [completed]
      rw [alike.result transports]
      split
      · exact (alike.note _ _ _ _).answer (.transfer _ _ agree _ none) _
      · exact alike.answer (.transfer _ _ agree _ none) _
  | start | entering | ready naming =>
      exact (alike.note _ _ _ _).answer (.transfer _ _ agree _ _) _

end Steps

/-! ### All operations -/

/-- The operations are told the same; of one that ended only the reply matters. -/
inductive Event.Akin : Event Operation → Event Operation → Prop
  | send : Akin .send .send
  | completed : Akin .completed .completed
  | returned (reply : Reply) (finished other : Operation) :
      Akin (.returned reply finished) (.returned reply other)

namespace Operation.Akin

variable {desk : Desk τ Operation} {twin : Desk σ Operation} {operation other : Operation}

theorem cancel_alike (akin : operation.Akin other) (alike : desk.Alike R twin) :
    (operation.cancel desk).2.Alike R (other.cancel twin).2 := by
  rcases akin with task | ⟨request, flags, agree, progress⟩ |
    ⟨request, flags, agree, progress, channel⟩
  · exact alike
  · exact alike
  · exact TransferTask.cancel_alike alike agree progress channel

variable [Transport τ] [Transport σ] (transports : Transport.Alike R)

include transports

/-- Operations that are akin do the same at desks that are alike, whatever they are told. -/
theorem step_alike (akin : operation.Akin other) (alike : desk.Alike R twin)
    {event event' : Event Operation} (told : event.Akin event') (env : Env) :
    (operation.step env event desk).Alike R (other.step env event' twin) := by
  rcases akin with task | ⟨request, flags, agree, progress⟩ |
    ⟨request, flags, agree, progress, channel⟩
  · rcases told with _ | _ | ⟨reply, finished, finished'⟩
    · exact ChangeDirTask.send_alike alike transports task
    · exact ChangeDirTask.completed_alike alike transports task
    · exact (alike.note _ _ _ _).answer (.changeDir task) _
  · rcases told with _ | _ | ⟨reply, finished, finished'⟩
    · exact ListTask.send_alike alike transports agree env progress
    · exact ListTask.completed_alike alike transports agree env progress
    · exact ListTask.returned_alike alike agree progress reply
  · rcases told with _ | _ | ⟨reply, finished, finished'⟩
    · exact TransferTask.send_alike alike transports agree progress channel
    · exact TransferTask.completed_alike alike transports agree progress channel
    · exact TransferTask.returned_alike alike agree progress channel reply

end Operation.Akin

end Courier
