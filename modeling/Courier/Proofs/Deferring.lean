import Courier.Proofs.Runs

/-!
# A failure that is told late

A transport may say at once that a request failed, or say that it is under way and tell of the
failure when asked for the result. Over any transport there is one which answers in the same way,
except that it tells late of the failure of one request. At each of two such transports there is a
desk; a step of an operation at the one is like its step at the other, unless it ends with the
request in question.
-/

namespace Courier

variable {τ κ : Type}

/-! ## The transport -/

/-- A transport as `inner` is, with one request whose failure is told late. -/
structure Deferring (τ : Type) where
  inner : τ
  /-- How many requests come before that one, as long as it is still to come. -/
  countdown : Option Nat
  /-- The failure that is still to be told. -/
  held : Option Reply := none
  /-- The failure that was told, until another request completes. -/
  told : Option Reply := none

namespace Deferring

/-- What is made of the answer of the inner transport. -/
def answer (deferring : Deferring τ) (answered : Reply × τ) : Reply × Deferring τ :=
  match deferring.countdown with
  | none => (answered.1, { deferring with inner := answered.2 })
  | some (left + 1) => (answered.1, { deferring with inner := answered.2, countdown := some left })
  | some 0 =>
    let deferring := { deferring with inner := answered.2, countdown := none }
    if answered.1.isError then (.wouldBlock, { deferring with held := some answered.1 })
    else (answered.1, deferring)

/-- The failure is told as the result of the request. -/
def tell (deferring : Deferring τ) : Deferring τ :=
  { deferring with held := none, told := deferring.held }

/-- Another request completes. -/
def completes (inner : τ) (deferring : Deferring τ) : Deferring τ :=
  { deferring with inner, told := none }

variable [Transport τ]

instance : Transport (Deferring τ) where
  send deferring text := deferring.answer (Transport.send deferring.inner text)
  quote deferring := Transport.quote deferring.inner
  result deferring := deferring.told.getD (Transport.result deferring.inner)
  connect deferring server credentials :=
    deferring.answer (Transport.connect deferring.inner server credentials)
  disconnect deferring :=
    let (reply, inner) := Transport.disconnect deferring.inner
    (reply, { deferring with inner })
  wakeUp deferring seconds := deferring.answer (Transport.wakeUp deferring.inner seconds)
  takeListing deferring :=
    let (entries, inner) := Transport.takeListing deferring.inner
    (entries, { deferring with inner })
  announce deferring announcement :=
    { deferring with inner := Transport.announce deferring.inner announcement }
  abort deferring := { deferring with inner := Transport.abort deferring.inner }

/-- The inner transport is in a good state, and what is held back or was told is a failure. -/
structure Keeps (good : Transport.States τ) (deferring : Deferring τ) : Prop where
  inner : good deferring.inner
  held : ∀ reply, deferring.held = some reply → reply.isError = true
  told : ∀ reply, deferring.told = some reply → reply.isError = true

/-- A request is done where the failure was told or the inner transport reports so. -/
def states (good : Transport.States τ) : Transport.States (Deferring τ) where
  keeps := Keeps good
  reports := fun deferring => deferring.told.isSome = true ∨ good.reports deferring.inner

variable {good : Transport.States τ} {deferring : Deferring τ}

omit [Transport τ] in
theorem Keeps.answer (keeps : deferring.Keeps good) {answered : Reply × τ}
    (starts : answered.1 = .wouldBlock ∨ answered.1.isError = true) (inner : good answered.2) :
    ((deferring.answer answered).1 = .wouldBlock ∨ (deferring.answer answered).1.isError = true) ∧
      (deferring.answer answered).2.Keeps good := by
  unfold Deferring.answer
  split
  · exact ⟨starts, inner, keeps.held, keeps.told⟩
  · exact ⟨starts, inner, keeps.held, keeps.told⟩
  · by_cases fails : answered.1.isError = true
    · simp only [fails, if_true]
      refine ⟨.inl trivial, inner, ?_, keeps.told⟩
      rintro _ ⟨⟩
      exact fails
    · rw [if_neg fails]
      exact ⟨starts, inner, keeps.held, keeps.told⟩

omit [Transport τ] in
theorem Keeps.tell (keeps : deferring.Keeps good) : deferring.tell.Keeps good :=
  ⟨keeps.inner, by rintro _ ⟨⟩, keeps.held⟩

omit [Transport τ] in
theorem Keeps.completes (keeps : deferring.Keeps good) {inner : τ} (is : good inner) :
    (deferring.completes inner).Keeps good :=
  ⟨is, keeps.held, by rintro _ ⟨⟩⟩

/-- It keeps to the contract if the inner transport does. -/
theorem conforms (conforms : Transport.Conforms good) : Transport.Conforms (states good) where
  send := fun deferring text keeps =>
    have sent := conforms.send deferring.inner text keeps.inner
    keeps.answer sent.1 sent.2
  connect := fun deferring server credentials keeps =>
    have connecting := conforms.connect deferring.inner server credentials keeps.inner
    keeps.answer connecting.1 connecting.2
  wakeUp := fun deferring seconds keeps =>
    have waking := conforms.wakeUp deferring.inner seconds keeps.inner
    keeps.answer waking.1 waking.2
  disconnect := fun deferring keeps =>
    ⟨conforms.disconnect deferring.inner keeps.inner, keeps.held, keeps.told⟩
  takeListing := fun deferring keeps =>
    ⟨conforms.takeListing deferring.inner keeps.inner, keeps.held, keeps.told⟩
  announce := fun deferring announcement keeps =>
    ⟨conforms.announce deferring.inner announcement keeps.inner, keeps.held, keeps.told⟩
  abort := fun deferring keeps =>
    ⟨conforms.abort deferring.inner keeps.inner, keeps.held, keeps.told⟩
  result := fun deferring keeps reported => by
    change deferring.told.isSome = true ∨ _ at reported
    change deferring.told.getD _ ≠ _ ∧ deferring.told.getD _ ≠ _
    cases told : deferring.told with
    | none =>
        have inner := reported.resolve_left (by rw [told]; exact Bool.false_ne_true)
        exact conforms.result deferring.inner keeps.inner inner
    | some reply =>
        have fails := keeps.told reply told
        exact ⟨Reply.ne_wouldBlock_of_isError fails, Reply.ne_again_of_isError fails⟩

end Deferring

/-! ## Requests -/

/-- What is asked of a transport, whatever the answer. -/
inductive Request where
  | line (line : WireLine) (text : String)
  | connect (server : Server) (credentials : Credentials)
  | disconnect
  | wakeUp (seconds : Nat)

def Happening.request? : Happening → Option Request
  | .sent line text _ => some (.line line text)
  | .connecting server credentials _ => some (.connect server credentials)
  | .disconnecting _ => some .disconnect
  | .wakeUp seconds _ => some (.wakeUp seconds)
  | _ => none

/-- All that was asked, newest first. -/
def requests (past : List Happening) : List Request := past.filterMap Happening.request?

/-! ## Desks that are alike -/

/-- At the desk over the transport and at its twin all is the same, notes and answers apart. If
`settled`, the failure has been told or never will be. -/
structure Desk.Like (settled : Bool) (desk : Desk τ Operation)
    (twin : Desk (Deferring τ) Operation) : Prop where
  inner : twin.transport.inner = desk.transport
  held : twin.transport.held = none
  settled : settled = true → twin.transport.countdown = none
  cache : twin.cache = desk.cache
  session : twin.session = desk.session
  store : twin.store = desk.store
  pending : twin.pending = desk.pending
  requests : requests twin.past = requests desk.past

/-- The desk when the failure has been told. -/
def Desk.tells (twin : Desk (Deferring τ) Operation) : Desk (Deferring τ) Operation :=
  { twin with transport := twin.transport.tell }

/-- The steps come to the same. -/
structure Step.Same (settled : Bool) (step : Step τ Operation κ)
    (twin : Step (Deferring τ) Operation κ) : Prop where
  reply : twin.reply = step.reply
  operation : twin.operation = step.operation
  desk : step.desk.Like settled twin.desk

/-- The steps end with a request that failed at once in the one and is said to be under way in the
other. -/
structure Step.Parts (step : Step τ Operation κ) (twin : Step (Deferring τ) Operation κ) :
    Prop where
  fails : step.reply.isError = true
  waits : twin.reply = .wouldBlock
  operation : twin.operation = step.operation
  held : twin.desk.transport.held = some step.reply
  desk : step.desk.Like true twin.desk.tells

/-- The steps come to the same, or they part at the request in question. -/
inductive Step.Like (settled : Bool) (step : Step τ Operation κ)
    (twin : Step (Deferring τ) Operation κ) : Prop
  | same (same : step.Same settled twin)
  | parts (early : settled = false) (parts : step.Parts twin)

section Map

variable {μ : Type} {settled : Bool} {step : Step τ Operation κ}
  {twin : Step (Deferring τ) Operation κ}

theorem Step.Same.map (same : step.Same settled twin) (f : κ → μ) :
    (step.map f).Same settled (twin.map f) :=
  ⟨same.reply, congrArg f same.operation, same.desk⟩

theorem Step.Like.map (like : step.Like settled twin) (f : κ → μ) :
    (step.map f).Like settled (twin.map f) := by
  rcases like with same | ⟨early, parts⟩
  · exact .same (same.map f)
  · exact .parts early
      ⟨parts.fails, parts.waits, congrArg f parts.operation, parts.held, parts.desk⟩

end Map

namespace Desk.Like

variable {settled : Bool} {desk : Desk τ Operation} {twin : Desk (Deferring τ) Operation}

theorem note (like : desk.Like settled twin) (level level' : LogLevel) (text text' : String) :
    (desk.note level text).Like settled (twin.note level' text') :=
  ⟨like.inner, like.held, like.settled, like.cache, like.session, like.store, like.pending,
    like.requests⟩

theorem withSession (like : desk.Like settled twin) (change : Session → Session) :
    ({ desk with session := change desk.session } : Desk τ Operation).Like settled
      { twin with session := change twin.session } :=
  ⟨like.inner, like.held, like.settled, like.cache, congrArg change like.session, like.store,
    like.pending, like.requests⟩

theorem withStore (like : desk.Like settled twin) (store : Local.Store) :
    ({ desk with store } : Desk τ Operation).Like settled { twin with store } :=
  ⟨like.inner, like.held, like.settled, like.cache, like.session, rfl, like.pending, like.requests⟩

theorem withPending (like : desk.Like settled twin) (pending : Option Operation) :
    ({ desk with pending } : Desk τ Operation).Like settled { twin with pending } :=
  ⟨like.inner, like.held, like.settled, like.cache, like.session, like.store, rfl, like.requests⟩

/-- The same was asked at both, if anything was. -/
theorem record (like : desk.Like settled twin) {happening other : Happening}
    (same : other.request? = happening.request?) :
    (desk.record happening).Like settled (twin.record other) := by
  refine ⟨like.inner, like.held, like.settled, like.cache, like.session, like.store,
    like.pending, ?_⟩
  have before := like.requests
  unfold Courier.requests at before ⊢
  change (other :: twin.past).filterMap _ = (happening :: desk.past).filterMap _
  rw [List.filterMap_cons, List.filterMap_cons, same, before]

theorem request (like : desk.Like settled twin) (child : Operation) :
    (desk.request child).Like settled (twin.request child) := by
  have noted : ∀ text, (desk.note .error text).Like settled (twin.note .error text) := fun text =>
    like.note _ _ _ _
  unfold Desk.request
  rw [like.pending]
  cases desk.pending with
  | none => exact like.withPending _
  | some former => exact (noted _).withPending _

theorem noteEntered (like : desk.Like settled twin) (entered : Reply) (consequence : String) :
    (desk.noteEntered entered consequence).Like settled (twin.noteEntered entered consequence) := by
  unfold Desk.noteEntered
  split
  · exact like
  · exact like.note _ _ _ _

theorem cacheCall (like : desk.Like settled twin) (call : DirectoryCache.Call) :
    (desk.cacheCall call).2.Like settled (twin.cacheCall call).2 := by
  have same := like.cache
  have performed : ({ desk with cache := (desk.cache.perform call).2 } :
      Desk τ Operation).Like settled { twin with cache := (twin.cache.perform call).2 } :=
    ⟨like.inner, like.held, like.settled, by rw [same], like.session, like.store, like.pending,
      like.requests⟩
  -- that a listing is stored is noted, too
  cases call with
  | store server listing =>
      have noted := performed.note .trace .trace ("caching " ++ toString listing.entries.length ++
        " entries for " ++ listing.path.text) ("caching " ++ toString listing.entries.length ++
        " entries for " ++ listing.path.text)
      exact noted.record rfl
  | _ => exact performed.record rfl

theorem tellCache (like : desk.Like settled twin) (call : Server → DirectoryCache.Call) :
    (desk.tellCache call).Like settled (twin.tellCache call) := by
  unfold Desk.tellCache
  rw [like.session]
  cases desk.session.server with
  | none => exact like
  | some server => exact like.cacheCall _

theorem lookup (like : desk.Like settled twin) (path : RemotePath) :
    (twin.lookup path).1 = (desk.lookup path).1 ∧
      (desk.lookup path).2.Like settled (twin.lookup path).2 := by
  unfold Desk.lookup
  rw [like.session]
  cases desk.session.server with
  | none => exact ⟨rfl, like⟩
  | some server =>
      refine ⟨?_, like.cacheCall (.lookup server path)⟩
      change twin.cache.lookup server path = desk.cache.lookup server path
      rw [like.cache]

variable [Transport τ]

theorem result (like : desk.Like settled twin) (fresh : twin.transport.told = none) :
    twin.result = desk.result := by
  change twin.transport.told.getD (Transport.result twin.transport.inner) = _
  rw [fresh, like.inner]
  rfl

theorem announce (like : desk.Like settled twin) (announcement : Announcement) :
    (desk.announce announcement).Like settled (twin.announce announcement) := by
  have announced : ({ desk with
      transport := Transport.announce desk.transport announcement } : Desk τ Operation).Like settled
      { twin with transport := Transport.announce twin.transport announcement } :=
    ⟨congrArg (Transport.announce · announcement) like.inner, like.held, like.settled, like.cache,
      like.session, like.store, like.pending, like.requests⟩
  exact announced.record rfl

theorem takeListing (like : desk.Like settled twin) :
    twin.takeListing.1 = desk.takeListing.1 ∧
      desk.takeListing.2.Like settled twin.takeListing.2 := by
  have inner := like.inner
  refine ⟨congrArg (fun t => (Transport.takeListing t).1) inner, ?_⟩
  have taken : ({ desk with transport := (Transport.takeListing desk.transport).2 } :
      Desk τ Operation).Like settled
      { twin with transport := (Transport.takeListing twin.transport).2 } :=
    ⟨congrArg (fun t => (Transport.takeListing t).2) inner, like.held, like.settled, like.cache,
      like.session, like.store, like.pending, like.requests⟩
  exact taken.record rfl

theorem disconnect (like : desk.Like settled twin) :
    twin.disconnect.1 = desk.disconnect.1 ∧ desk.disconnect.2.Like settled twin.disconnect.2 := by
  have inner := like.inner
  refine ⟨congrArg (fun t => (Transport.disconnect t).1) inner, ?_⟩
  have closed : ({ desk with transport := (Transport.disconnect desk.transport).2 } :
      Desk τ Operation).Like settled
      { twin with transport := (Transport.disconnect twin.transport).2 } :=
    ⟨congrArg (fun t => (Transport.disconnect t).2) inner, like.held, like.settled, like.cache,
      like.session, like.store, like.pending, like.requests⟩
  exact closed.record rfl

/-! ## Steps that are alike -/

omit [Transport τ] in
theorem answer (like : desk.Like settled twin) (reply : Reply) (operation : κ) :
    (desk.answer reply operation).Same settled (twin.answer reply operation) :=
  ⟨rfl, rfl, like⟩

omit [Transport τ] in
theorem unexpected (like : desk.Like settled twin) (kind : CommandKind) (stage event : String)
    (operation : κ) :
    (desk.unexpected kind stage event operation).Same settled
      (twin.unexpected kind stage event operation) :=
  (like.note _ _ _ _).answer _ _

omit [Transport τ] in
/-- A request is answered in the same way by both, or fails at once at the desk and is under way at
the twin. -/
theorem ask (like : desk.Like settled twin) (answered : Reply × τ) (happening : Reply → Happening)
    (same : ∀ reply other, (happening other).request? = (happening reply).request?)
    (operation : κ) :
    (({ desk with transport := answered.2 }.record (happening answered.1)).answer answered.1
      operation).Like settled
      (({ twin with transport := (twin.transport.answer answered).2 }.record
        (happening (twin.transport.answer answered).1)).answer (twin.transport.answer answered).1
          operation) := by
  obtain ⟨-, held, settling, cache, session, store, pending, asked⟩ := like
  -- it is the same request that is recorded at both
  have recorded {later : Bool} {other : Deferring τ} {reply : Reply}
      (like : ({ desk with transport := answered.2 } : Desk τ Operation).Like later
        { twin with transport := other }) :
      ({ desk with transport := answered.2 }.record (happening answered.1)).Like later
        ({ twin with transport := other }.record (happening reply)) :=
    like.record (same _ _)
  unfold Deferring.answer
  split
  · rename_i never
    refine .same ⟨rfl, rfl, recorded ?_⟩
    exact ⟨rfl, held, fun _ => never, cache, session, store, pending, asked⟩
  · rename_i left coming
    refine .same ⟨rfl, rfl, recorded ?_⟩
    refine ⟨rfl, held, fun settled => ?_, cache, session, store, pending, asked⟩
    rw [settling settled] at coming
    cases coming
  · rename_i now
    have early : settled = false := by
      cases settled with
      | false => rfl
      | true =>
          rw [settling rfl] at now
          cases now
    by_cases fails : answered.1.isError = true
    · simp only [fails, if_true]
      have told : ({ desk with transport := answered.2 } : Desk τ Operation).Like true
          { twin with transport := ⟨answered.2, none, none, some answered.1⟩ } :=
        ⟨rfl, rfl, fun _ => rfl, cache, session, store, pending, asked⟩
      exact .parts early ⟨fails, rfl, rfl, rfl, told.record (same _ _)⟩
    · simp only [fails]
      refine .same ⟨rfl, rfl, recorded ?_⟩
      exact ⟨rfl, held, fun _ => rfl, cache, session, store, pending, asked⟩

theorem send (like : desk.Like settled twin) (line : WireLine) (operation : κ) :
    (desk.send line operation).Like settled (twin.send line operation) := by
  obtain ⟨transport, cache, session, store, journal, pending⟩ := desk
  obtain rfl : twin.transport.inner = transport := like.inner
  exact like.ask _ (.sent line (twin.lineText line)) (fun _ _ => rfl) operation

theorem connect (like : desk.Like settled twin) (server : Server) (credentials : Credentials)
    (operation : κ) :
    (desk.connect server credentials operation).Like settled
      (twin.connect server credentials operation) := by
  obtain ⟨transport, cache, session, store, journal, pending⟩ := desk
  obtain rfl : twin.transport.inner = transport := like.inner
  exact like.ask _ (.connecting server credentials) (fun _ _ => rfl) operation

theorem wakeUp (like : desk.Like settled twin) (seconds : Nat) (operation : κ) :
    (desk.wakeUp seconds operation).Like settled (twin.wakeUp seconds operation) := by
  obtain ⟨transport, cache, session, store, journal, pending⟩ := desk
  obtain rfl : twin.transport.inner = transport := like.inner
  exact like.ask _ (.wakeUp seconds) (fun _ _ => rfl) operation

end Desk.Like

end Courier
