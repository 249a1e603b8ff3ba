import Courier.Engine.Attend
import Courier.Proofs.Retracing
import Courier.Proofs.Transfers

/-!
# Local ends of transfers

A source or sink comes with its command and goes with it; what is opened of it lives shorter, from
just before the line of the transfer is sent until that line is done with. Over a run this is shown
of its turns in the order in which they are taken: a local end that is opened is the first of its
command, and what is left of the command then is a transfer whose line is out, or nothing. Between
the calls the engine holds what the operations on its stack hold.
-/

namespace Courier

variable {τ : Type} [Transport τ] {good : Transport.States τ} {origin : DirectoryCache}

/-! ## The turns of a run -/

/-- In the turn before, the transfer was told how the change into its directory ended. -/
def Entered (earlier : List (Turn τ Operation)) (task : TransferTask) : Prop :=
  ∃ asked rest reply change, earlier = asked :: rest ∧
    asked.top = .transfer { task with progress := .entering } ∧
    asked.event = .returned reply (.changeDir change) ∧ change.path = task.request.path

/-- The local end of the transfer is opened in time: the transfer was just told how the change into
its directory ended, nothing that data goes along with was sent in the course of its command, and
every local end that was opened before was that of an earlier command. -/
structure Turn.OpensInTime (earlier : List (Turn τ Operation)) (turn : Turn τ Operation)
    (task : TransferTask) : Prop where
  own : lastCommand? turn.desk.past = some (.transfer task.request)
  entered : Entered earlier task
  unsent : Unsent turn.desk.past
  first : ∀ former ∈ earlier, ∀ other, former.Opens other →
    commandsIn former.desk.past < commandsIn turn.desk.past

/-- All these turns, newest first, are as they should be, and local ends are opened in time. -/
def OpenInTime (good : Transport.States τ) (turns : List (Turn τ Operation)) : Prop :=
  ∀ turn earlier, turn :: earlier <:+ turns →
    turn.Fits good ∧ ∀ task, turn.Opens task → turn.OpensInTime earlier task

/-- If a local end was opened in the course of the command accepted last, what is left of that
command is a transfer whose line is out. -/
def OnlyCarrying (turns : List (Turn τ Operation)) (past : List Happening)
    (stack : List Operation) : Prop :=
  ∀ former ∈ turns, ∀ task, former.Opens task → commandsIn former.desk.past ≤ commandsIn past ∧
    (commandsIn former.desk.past = commandsIn past →
      ∀ operation ∈ stack, operation.isCarrying = true)

omit [Transport τ] in
/-- When nothing is left of a command, there is nothing to be said of it. -/
theorem OnlyCarrying.ended {turns : List (Turn τ Operation)} {past later : List Happening}
    {stack : List Operation} (only : OnlyCarrying turns past stack)
    (grown : commandsIn past ≤ commandsIn later) : OnlyCarrying turns later [] := by
  intro former mem task opened
  exact ⟨Nat.le_trans (only former mem task opened).1 grown, fun _ => List.forall_mem_nil _⟩

/-- What is known of a turn and of those before it in the run. -/
structure Turn.Watches (good : Transport.States τ) (origin : DirectoryCache)
    (earlier : List (Turn τ Operation)) (turn : Turn τ Operation) : Prop where
  fits : turn.Fits good
  oriented : turn.Oriented
  booked : turn.Booked False origin
  tidy : turn.Tidy
  inTime : OpenInTime good earlier
  only : OnlyCarrying earlier turn.desk.past (turn.top :: turn.below)
  entered : ∀ task, turn.Opens task → Entered earlier task

namespace Turn.Watches

variable {turn after : Turn τ Operation} {earlier : List (Turn τ Operation)} {env : Env}
  {task : TransferTask}

theorem opensInTime (watches : turn.Watches good origin earlier) (opens : turn.Opens task) :
    turn.OpensInTime earlier task := by
  have top := opens.top
  have own := watches.booked.commissioned _ List.mem_cons_self
  have tidy := watches.tidy.tidy _ List.mem_cons_self
  rw [top] at own tidy
  have ready := opens.ready
  refine ⟨?_, watches.entered task opens, ?_, ?_⟩
  · obtain ⟨command, last, -, rfl⟩ := own rfl
    exact last
  · obtain ⟨request, progress, channel⟩ := task
    cases progress with
    | ready naming => exact tidy.2
    | _ => cases ready
  · intro former mem other opened
    obtain ⟨before, only⟩ := watches.only former mem other opened
    refine Nat.lt_of_le_of_ne before fun same => ?_
    have carrying := only same _ List.mem_cons_self
    rw [opens.not_carrying] at carrying
    cases carrying

theorem inTime_cons (watches : turn.Watches good origin earlier) :
    OpenInTime good (turn :: earlier) := by
  intro later rest before
  rcases List.suffix_cons_iff.1 before with same | older
  · obtain ⟨rfl, rfl⟩ := List.cons.inj same
    exact ⟨watches.fits, fun task opens => watches.opensInTime opens⟩
  · exact watches.inTime later rest older

theorem commandsIn_step (watches : turn.Watches good origin earlier)
    (conforms : Transport.Conforms good) (env : Env) :
    commandsIn (turn.step env).desk.past = commandsIn turn.desk.past :=
  (turn.step_does conforms watches.fits.transport env).commandsIn

/-- Where an operation waits, it is a transfer that has just opened its local end, if one was opened
in the course of the command. -/
theorem only_of_wait (watches : turn.Watches good origin earlier)
    (conforms : Transport.Conforms good) (wait : (turn.step env).reply = .wouldBlock) :
    OnlyCarrying (turn :: earlier) (turn.step env).desk.past
      ((turn.step env).operation :: turn.below) := by
  have fits := watches.fits
  have waits {task : TransferTask} (top : turn.top = .transfer task) :=
    (fits.takes conforms env top).of_wait conforms fits.transport fits.reported wait
  intro former mem task opened
  rw [watches.commandsIn_step conforms env]
  rcases List.mem_cons.1 mem with rfl | mem
  · refine ⟨Nat.le_refl _, fun _ => ?_⟩
    rw [fits.below.of_command (by rw [opened.top]; rfl)]
    exact List.forall_mem_singleton.2 (waits opened.top).2.2
  · obtain ⟨before, only⟩ := watches.only former mem task opened
    refine ⟨before, fun same => ?_⟩
    have carrying := only same _ List.mem_cons_self
    cases top : turn.top with
    | transfer task =>
        obtain ⟨event, ready, -⟩ := waits top
        rw [Turn.Opens.not_carrying ⟨event, top, ready⟩] at carrying
        cases carrying
    | _ =>
        rw [top] at carrying
        cases carrying

theorem next (watches : turn.Watches good origin earlier) (conforms : Transport.Conforms good)
    (goes : turn.next env = .inr after) : after.Watches good origin (turn :: earlier) := by
  have fits := watches.fits
  obtain ⟨idle, closed⟩ := fits.not_opened conforms goes
  have commands : commandsIn after.desk.past = commandsIn turn.desk.past := by
    rw [← watches.commandsIn_step conforms env]
    rcases Step.next_eq_inr goes with ⟨-, left, -, rfl⟩ | ⟨-, -, -, parent, rest, -, rfl⟩
    · unfold Step.onward
      cases (turn.step env).noted.pending <;> rfl
    · rfl
  refine ⟨fits.next conforms.neverGoesOn goes, watches.oriented.next conforms fits goes,
    watches.booked.next watches.oriented conforms fits goes,
    watches.tidy.next fits conforms goes, watches.inTime_cons, ?_, ?_⟩
  · intro former mem task opened
    rcases List.mem_cons.1 mem with rfl | mem
    · exact absurd opened (closed task)
    · obtain ⟨before, only⟩ := watches.only former mem task opened
      rw [commands]
      refine ⟨before, fun same => ?_⟩
      have carrying := only same _ List.mem_cons_self
      rw [idle] at carrying
      cases carrying
  · intro task opens
    obtain ⟨top, reply, change, told, path⟩ := watches.tidy.asked fits conforms goes opens
    exact ⟨turn, earlier, reply, change, rfl, top, told, path⟩

end Turn.Watches

/-! ## Between the calls -/

namespace Engine

variable {engine after : Engine τ Operation} {turns : List (Turn τ Operation)}

/-- Between two calls data may go through the open local end; no other takes its place. -/
structure DriftsThrough (good : Transport.States τ) (engine after : Engine τ Operation) : Prop
    extends Drifts good engine after where
  through : Option.Rel Local.Channel.Becomes engine.channel? after.channel?

/-- What is known between two calls of the local ends and of the turns so far. -/
structure Watches (good : Transport.States τ) (turns : List (Turn τ Operation))
    (engine : Engine τ Operation) : Prop where
  tidy : ∀ operation ∈ engine.stack, operation.IsTidy engine.desk.past
  inTime : OpenInTime good turns
  only : OnlyCarrying turns engine.desk.past engine.stack

/-- A call begins with a turn of which all is known that is of the others. -/
theorem Watches.opening (watches : engine.Watches good turns) (rests : engine.Rests good)
    (oriented : engine.Oriented) (booked : engine.Booked False origin) {call : Call}
    {first : Turn τ Operation} (may : engine.MayMake good call)
    (opened : engine.opening call = some first) : first.Watches good origin turns := by
  have fits := rests.opening may opened
  have turned := oriented.opening opened
  have known := booked.opening rests may opened
  rcases opening_eq_some opened with ⟨command, operation, rfl, accepted, rfl⟩ |
    ⟨top, below, rfl, stack, rfl⟩
  · obtain ⟨-, -, protocol, -, offered⟩ := accept_eq_ok accepted
    refine ⟨fits, turned, known, ⟨?_, by rintro _ _ ⟨⟩⟩, watches.inTime, ?_, ?_⟩
    · exact List.forall_mem_singleton.2 (Operation.isTidy_of_ofCommand? offered unsent_started)
    · -- whatever was opened was opened for an earlier command
      have one : commandsIn (.started command :: engine.desk.past) =
          commandsIn engine.desk.past + 1 := List.countP_cons_of_pos rfl
      intro former mem task opening
      have before := (watches.only former mem task opening).1
      refine ⟨one ▸ Nat.le_succ_of_le before, fun same => ?_⟩
      have late : commandsIn former.desk.past = commandsIn engine.desk.past + 1 := same.trans one
      omega
    · intro task opens
      obtain rfl : operation = .transfer task := opens.top
      have ready := opens.ready
      rw [(Operation.start_of_ofCommand? offered).1] at ready
      cases ready
  · have tidy := watches.tidy
    have only := watches.only
    rw [stack] at tidy only
    refine ⟨fits, turned, known, ⟨?_, by rintro _ _ ⟨⟩⟩, watches.inTime, only, ?_⟩
    · intro operation mem
      have silent : ∀ happening ∈ [Happening.completed engine.desk.result],
          happening.isCarrying = false := List.forall_mem_singleton.2 rfl
      exact (tidy operation mem).append silent
    · intro task opens
      cases opens.event

/-- Where a turn ends the call, all is known that is between two calls. -/
theorem watches_of_ends {turn : Turn τ Operation} {earlier : List (Turn τ Operation)}
    {outcome : Outcome τ Operation} {env : Env} (conforms : Transport.Conforms good)
    (watches : turn.Watches good origin earlier) (ends : turn.next env = .inl outcome)
    (engine : Engine τ Operation) : (engine.take outcome).2.Watches good (turn :: earlier) := by
  have fits := watches.fits
  have stepped := watches.tidy.step fits conforms env
  have commands := watches.commandsIn_step conforms env
  rcases fits.ends conforms ends with ⟨empty, made, past⟩ | ⟨wait, past, stack⟩
  · have grown : commandsIn turn.desk.past ≤ commandsIn outcome.desk.past := by
      rw [past, ← commands]
      exact commandsIn_append_le _ _
    have here : OnlyCarrying (turn :: earlier) turn.desk.past [] := by
      intro former mem task opened
      refine ⟨?_, fun _ => List.forall_mem_nil _⟩
      rcases List.mem_cons.1 mem with rfl | mem
      · exact Nat.le_refl _
      · exact (watches.only former mem task opened).1
    have now : (engine.take outcome).2.stack = [] := empty
    refine ⟨?_, watches.inTime_cons, ?_⟩
    · rw [now]
      exact List.forall_mem_nil _
    · rw [now]
      exact here.ended grown
  · have now : (engine.take outcome).2.stack = (turn.step env).operation :: turn.below := stack
    have told : (engine.take outcome).2.desk.past = (turn.step env).desk.past := past
    refine ⟨?_, watches.inTime_cons, ?_⟩
    · rw [now, told]
      exact List.forall_mem_cons.2 ⟨stepped.own (.inr wait), stepped.others⟩
    · rw [now, told]
      exact watches.only_of_wait conforms wait

/-- A call that does not drive the stack leaves it as it is or leaves nothing of it. -/
theorem stack_of_closed {call : Call} (closed : engine.opening call = none) :
    (engine.make call).2.stack = [] ∨ ((engine.make call).2.stack = engine.stack ∧
      (engine.make call).2.desk.past = engine.desk.past) := by
  refine make_rule (P := fun after => after.stack = [] ∨ (after.stack = engine.stack ∧
    after.desk.past = engine.desk.past)) call ?_ ?_ ?_ (.inr ⟨rfl, rfl⟩) ?_
  · intro first opened
    cases closed.symm.trans opened
  · exact .inl (isBusy_eq_false_iff.1 engine.cancel_idle)
  · exact .inl (isBusy_eq_false_iff.1 engine.connectionLost_idle)
  · intro level text
    exact .inr ⟨rfl, rfl⟩

theorem Watches.still (watches : engine.Watches good turns) (one : engine.OneAtATime) {call : Call}
    (closed : engine.opening call = none) : (engine.make call).2.Watches good turns := by
  rcases stack_of_closed closed with empty | ⟨stack, past⟩
  · have grown : commandsIn engine.desk.past ≤ commandsIn (engine.make call).2.desk.past := by
      rcases one.make_past call with (free | ⟨-, request, before, past, -, free⟩) | ⟨past, -⟩
      · obtain ⟨made, past, -⟩ := free.made
        rw [past]
        exact commandsIn_append_le _ _
      · obtain ⟨made, rfl, -⟩ := free.made
        rw [past]
        exact commandsIn_append_le (request :: made) _
      · exact Nat.le_of_eq (congrArg commandsIn past.symm)
    refine ⟨?_, watches.inTime, ?_⟩
    · rw [empty]
      exact List.forall_mem_nil _
    · rw [empty]
      exact watches.only.ended grown
  · refine ⟨?_, watches.inTime, ?_⟩
    · rw [stack, past]
      exact watches.tidy
    · rw [stack, past]
      exact watches.only

omit [Transport τ] in
theorem Watches.drifts (watches : engine.Watches good turns)
    (drifts : engine.DriftsThrough good after) : after.Watches good turns := by
  obtain ⟨waits, all, past⟩ := drifts.past
  have silent : ∀ happening ∈ waits, happening.isCarrying = false := fun happening mem =>
    Happening.isCarrying_of_isWait (all happening mem)
  have commands : commandsIn after.desk.past = commandsIn engine.desk.past := by
    rw [past]
    exact commandsIn_append fun happening mem => Happening.command?_of_isWait (all happening mem)
  have tidy : ∀ operation ∈ engine.stack, operation.IsTidy after.desk.past := by
    rw [past]
    exact fun operation mem => (watches.tidy operation mem).append silent
  have only : OnlyCarrying turns after.desk.past engine.stack := by
    intro former mem task opened
    rw [commands]
    exact watches.only former mem task opened
  rcases drifts.stack with same | ⟨top, below, channel, before, isOpen, now⟩
  · refine ⟨?_, watches.inTime, ?_⟩
    · rw [same]
      exact tidy
    · rw [same]
      exact only
  · rw [before] at tidy only
    obtain ⟨own, others⟩ := List.forall_mem_cons.1 tidy
    have through := drifts.through
    unfold channel? at through
    rw [before, now] at through
    refine ⟨?_, watches.inTime, ?_⟩
    · rw [now]
      refine List.forall_mem_cons.2 ⟨?_, others⟩
      cases top with
      | transfer task =>
          obtain ⟨request, progress, held⟩ := task
          cases progress with
          | waiting naming =>
              obtain ⟨former, is, opened⟩ := own
              obtain rfl : held = some former := is
              cases through with
              | some becomes => exact ⟨channel, rfl, opened.becomes becomes⟩
          | _ =>
              -- the local end of any other is closed
              obtain rfl : held = none := own.1
              cases isOpen
      | _ => exact own
    · rw [now]
      intro former mem task opened
      obtain ⟨earlier, carrying⟩ := only former mem task opened
      refine ⟨earlier, fun same => ?_⟩
      obtain ⟨first, rest⟩ := List.forall_mem_cons.1 (carrying same)
      refine List.forall_mem_cons.2 ⟨?_, rest⟩
      cases top <;> exact first

/-- In every run the local ends are watched, and they were in all turns of it. -/
theorem watches_of_retraced (conforms : Transport.Conforms good)
    (retraced : Retraced good (DriftsThrough good) turns engine) : engine.Watches good turns := by
  have reaches {turns : List (Turn τ Operation)} {engine : Engine τ Operation}
      (retraced : Retraced good (DriftsThrough good) turns engine) : engine.Reachable good :=
    retraced.run.mono fun _ _ drifts => drifts.toDrifts
  induction retraced with
  | fresh new transport =>
      refine ⟨?_, ?_, ?_⟩
      · rw [new.stack]
        exact List.forall_mem_nil _
      · intro turn earlier before
        cases List.eq_nil_of_suffix_nil before
      · intro former mem
        cases mem
  | @driven engine turns taken call first outcome before may opened through ih =>
      have reached := reaches before
      obtain ⟨origin, booked⟩ := booked_of_reachable conforms reached
      refine through.rule (P := Turn.Watches good origin)
        (Q := fun turns outcome => (engine.take outcome).2.Watches good turns) ?_ ?_
        (ih.opening (rests_of_reachable conforms.neverGoesOn reached)
          (oriented_of_reachable conforms reached) booked may opened)
      · intro earlier turn after watches goes
        exact watches.next conforms goes
      · intro earlier turn outcome watches ends
        exact watches_of_ends conforms watches ends engine
  | still before closed ih => exact ih.still (oneAtATime_of_reachable (reaches before)) closed
  | wait _ drifts ih => exact ih.drifts drifts

end Engine

/-! ## What is held -/

/-- The request an operation waits for is all that is under way. -/
theorem Operation.Pends.underWay {operation : Operation} {past : List Happening}
    (pends : operation.Pends past) (one : OneByOne past) :
    ∃ request, underWay past = [request] ∧ request.answer? = some .wouldBlock ∧
      request.line? = operation.line? := by
  obtain ⟨waits, request, before, rfl, all, answer, line⟩ := pends
  have asked : request.answer?.isSome = true := by
    rw [answer]
    rfl
  have begun : request.isBegun = true := decide_eq_true answer
  refine ⟨request, ?_, answer, line⟩
  -- whatever was under way before had been released
  have clear : Courier.underWay before = [] := Throughout.at one rfl asked
  have alone : Courier.underWay (request :: before) = [request] := by
    rw [underWay_cons, Happening.not_isRelease_of_answer asked, begun, clear]
    rfl
  clear one
  induction waits with
  | nil => exact alone
  | cons wait rest ih =>
      obtain ⟨first, others⟩ := List.forall_mem_cons.1 all
      have silent : wait.isRelease = false ∧ wait.isBegun = false := by
        cases wait <;> first | exact ⟨rfl, rfl⟩ | cases first
      rw [List.cons_append, underWay_cons, silent.1, silent.2]
      exact ih others

namespace Operation

variable {past : List Happening} {operation : Operation} {command : Command} {line : WireLine}

/-- Only transfers send lines that data goes along with. -/
theorem isCarrying_of_line? (out : operation.line? = some line) (carries : line.carries = true) :
    operation.isCarrying = true := by
  have inDirectory {progress : Progress} (at_ : operation.progress? = some progress)
      {home : RemotePath} (works : operation.home? = some home)
      (other : ∀ naming line, operation.lineNaming? naming = some line → line.carries = false) :
      operation.isCarrying = true := by
    rw [line?_of_home? works, at_] at out
    cases progress with
    | waiting naming =>
        rw [other naming line out] at carries
        cases carries
    | _ => cases out
  cases operation with
  | transfer task =>
      obtain ⟨request, progress, channel⟩ := task
      cases progress with
      | waiting naming => rfl
      | _ => cases out
  | delete task =>
      refine inDirectory rfl rfl fun naming line is => ?_
      obtain ⟨file, -, rfl⟩ := Option.map_eq_some_iff.1 is
      rfl
  | removeDir task => exact inDirectory rfl rfl fun naming line is => by cases is; rfl
  | rename task => exact inDirectory rfl rfl fun naming line is => by cases is; rfl
  | chmod task => exact inDirectory rfl rfl fun naming line is => by cases is; rfl
  | connect task => cases out
  | disconnect task => cases out
  | sleep task => cases out
  | _ =>
      -- the others have one line each
      simp only [line?] at out
      split at out
      · cases out
        cases carries
      · cases out

/-- While a transfer waits for the change into its directory, its local end is closed. -/
theorem IsTidy.closed_of_entering {path : RemotePath} (tidy : operation.IsTidy past)
    (enters : operation.entering? = some path) : operation.channel? = none := by
  cases operation with
  | transfer task =>
      obtain ⟨request, progress, channel⟩ := task
      cases progress with
      | entering => exact tidy.1
      | _ => cases enters
  | _ => rfl

/-- The handles on a buffer that an operation holds: one by its sink, and one more while its local
end is open. -/
theorem IsTidy.count_buffers (tidy : operation.IsTidy past) (serves : operation.Serves command)
    (buffer : Local.BufferId) :
    operation.buffers.count buffer = if command.buffer? = some buffer then
      (if operation.channel?.isSome then 2 else 1) else 0 := by
  cases operation with
  | transfer task =>
      obtain ⟨request, progress, channel⟩ := task
      obtain rfl : command = .transfer request := serves
      have same : channel.bind (·.buffer?) =
          if channel.isSome then (Command.transfer request).buffer? else none := by
        cases progress with
        | waiting naming =>
            obtain ⟨opened, is, fits⟩ := tidy
            obtain rfl : channel = some opened := is
            exact fits.buffer?
        | _ =>
            obtain rfl : channel = none := tidy.1
            rfl
      show ((Command.transfer request).buffer?.toList ++
        (channel.bind (·.buffer?)).toList).count buffer = _
      rw [same]
      cases (Command.transfer request).buffer? with
      | none => cases channel <;> rfl
      | some held =>
          by_cases mine : held = buffer
          · subst mine
            cases channel <;> simp [channel?]
          · cases channel <;> simp [mine]
  | connect task => cases serves; rfl
  | disconnect task => cases serves; rfl
  | list task => cases serves; rfl
  | delete task => obtain ⟨done, rfl⟩ := serves; rfl
  | removeDir task => cases serves; rfl
  | makeDir task => cases serves; rfl
  | rename task => cases serves; rfl
  | chmod task => cases serves; rfl
  | raw task => cases serves; rfl
  | sleep task => exact serves.elim
  | changeDir task => exact serves.elim

end Operation

namespace Engine

variable {engine : Engine τ Operation} {turns : List (Turn τ Operation)}

omit [Transport τ] in
/-- The open local end of the engine is that of a transfer that waits for its line. -/
theorem Watches.channel (watches : engine.Watches good turns) {channel : Local.Channel}
    (opened : engine.channel? = some channel) :
    ∃ task below naming, engine.stack = .transfer task :: below ∧
      task.progress = .waiting naming ∧ channel.Opened task.request := by
  have tidy := watches.tidy
  unfold channel? at opened
  cases stack : engine.stack with
  | nil =>
      rw [stack] at opened
      cases opened
  | cons top below =>
      rw [stack] at opened tidy
      have own := tidy top List.mem_cons_self
      cases top with
      | transfer task =>
          obtain ⟨request, progress, held⟩ := task
          obtain rfl : held = some channel := opened
          cases progress with
          | waiting naming =>
              obtain ⟨former, is, fits⟩ := own
              obtain rfl := Option.some.inj is
              exact ⟨_, below, naming, rfl, rfl, fits⟩
          | _ => cases own.1
      | _ => cases opened

omit [Transport τ] in
/-- The local end is open while a line is out that data goes along with. -/
theorem Watches.channel_of_carrying (watches : engine.Watches good turns)
    (booked : engine.Booked False origin) (one : engine.OneAtATime) {line : WireLine}
    {text : String} {answer : Reply} (out : .sent line text answer ∈ underWay engine.desk.past)
    (carries : line.carries = true) : engine.channel?.isSome = true := by
  have busy := isBusy_eq_true_iff.1 (one.busy (List.ne_nil_of_mem out))
  cases stack : engine.stack with
  | nil => exact absurd stack busy
  | cons top below =>
      obtain ⟨request, alone, -, same⟩ := (booked.pends top below stack).underWay one.oneByOne
      rw [alone] at out
      obtain rfl := List.mem_singleton.1 out
      have carrying := Operation.isCarrying_of_line? same.symm carries
      have own := watches.tidy top (stack ▸ List.mem_cons_self)
      unfold channel?
      rw [stack]
      cases top with
      | transfer task =>
          obtain ⟨request, progress, held⟩ := task
          cases progress with
          | waiting naming =>
              obtain ⟨channel, is, -⟩ := own
              exact Option.isSome_iff_exists.2 ⟨channel, is⟩
          | _ => cases carrying
      | _ => cases carrying

omit [Transport τ] in
/-- The handles on a buffer that a busy engine holds are those of its command. -/
theorem Watches.holders_of_busy (watches : engine.Watches good turns) (rests : engine.Rests good)
    (booked : engine.Booked False origin) (busy : engine.isBusy = true) :
    ∃ command, lastCommand? engine.desk.past = some command ∧ ∀ buffer,
      engine.holders buffer = if command.buffer? = some buffer then
        (if engine.channel?.isSome then 2 else 1) else 0 := by
  have form := rests.form
  have tidy := watches.tidy
  have commissioned := booked.commissioned
  unfold Engine.holders Engine.channel?
  cases stack : engine.stack with
  | nil => exact absurd stack (isBusy_eq_true_iff.1 busy)
  | cons top below =>
      rw [stack] at form tidy commissioned
      -- of what is on the stack, one operation executes the command and any other holds nothing
      cases form with
      | single _ command waits =>
          obtain ⟨accepted, last, -, serves⟩ := commissioned top List.mem_cons_self command
          refine ⟨accepted, last, fun buffer => ?_⟩
          rw [List.flatMap_singleton]
          exact (tidy top List.mem_cons_self).count_buffers serves buffer
      | entering task parent waits enters =>
          have command := Operation.isSubcommand_of_entering enters
          have second : parent ∈ [Operation.changeDir task, parent] :=
            List.mem_cons_of_mem _ List.mem_cons_self
          obtain ⟨accepted, last, -, serves⟩ := commissioned parent second command
          refine ⟨accepted, last, fun buffer => ?_⟩
          have held := (tidy parent second).count_buffers serves buffer
          rw [(tidy parent second).closed_of_entering enters] at held
          simpa [Behaviour.buffers, Operation.buffers, Behaviour.channel?, Operation.channel?]
            using held
      | retrying task parent waits retries =>
          have second : .connect parent ∈ [Operation.sleep task, .connect parent] :=
            List.mem_cons_of_mem _ List.mem_cons_self
          obtain ⟨accepted, last, -, serves⟩ := commissioned (.connect parent) second rfl
          exact ⟨accepted, last, (tidy _ second).count_buffers serves⟩

omit [Transport τ] in
/-- A wait that moves data through what is open leaves the stack alone, or it leaves the transfer on
top of it with its local end as it is now. -/
theorem afterWait_cases {room : WaitRoom τ}
    (through : Option.Rel Local.Channel.Becomes engine.channel? room.channel) :
    (engine.channel? = none ∧ (engine.afterWait room).stack = engine.stack) ∨
    ∃ task below later, room.channel = some later ∧ task.channel.isSome = true ∧
      engine.stack = .transfer task :: below ∧
      (engine.afterWait room).stack = .transfer { task with channel := some later } :: below := by
  cases left : room.channel with
  | none =>
      have closed : engine.channel? = none := by
        rw [left] at through
        generalize engine.channel? = held at through
        cases through
        rfl
      refine .inl ⟨closed, ?_⟩
      unfold afterWait
      cases engine.stack <;> simp only [left]
  | some later =>
      obtain ⟨former, held⟩ : ∃ former, engine.channel? = some former := by
        rw [left] at through
        generalize engine.channel? = held at through
        cases through
        exact ⟨_, rfl⟩
      unfold channel? at held
      cases stack : engine.stack with
      | nil =>
          rw [stack] at held
          cases held
      | cons top below =>
          rw [stack] at held
          cases top with
          | transfer task =>
              refine .inr ⟨task, below, later, rfl, Option.isSome_of_eq_some held, rfl, ?_⟩
              unfold afterWait
              simp only [stack, left]
              rfl
          | _ => cases held

omit [Transport τ] in
/-- Waiting for a transport that only moves data through the open local end. -/
theorem driftsThrough_afterWait {room : WaitRoom τ} (transport : good room.transport)
    (past : ∃ waits, (∀ happening ∈ waits, happening.isWait = true) ∧
      room.journal.happenings = waits ++ engine.desk.past)
    (through : Option.Rel Local.Channel.Becomes engine.channel? room.channel) :
    engine.DriftsThrough good (engine.afterWait room) := by
  rcases afterWait_cases through with ⟨closed, same⟩ |
    ⟨task, below, later, left, isOpen, stack, now⟩
  · refine ⟨⟨transport, rfl, .inl same, past⟩, ?_⟩
    have after : (engine.afterWait room).channel? = engine.channel? := by
      unfold channel?
      rw [same]
    rw [after, closed]
    exact .none
  · refine ⟨⟨transport, rfl, .inr ⟨_, below, later, stack, isOpen, now⟩, past⟩, ?_⟩
    have after : (engine.afterWait room).channel? = some later := by
      unfold channel?
      rw [now]
      rfl
    rw [after, ← left]
    exact through

omit [Transport τ] in
theorem driftsThrough_pump (transport : good engine.desk.transport) (payload : Local.Bytes) :
    engine.DriftsThrough good (engine.pump payload).2 := by
  have pumped (room : WaitRoom τ) :
      Option.Rel Local.Channel.Becomes room.channel (room.pump payload).2.channel ∧
        (room.pump payload).2.transport = room.transport ∧
          (room.pump payload).2.journal = room.journal := by
    obtain ⟨transport, store, channel, journal⟩ := room
    cases channel with
    | none => exact ⟨.none, rfl, rfl⟩
    | some channel => exact ⟨.some (channel.becomes_pump store payload), rfl, rfl⟩
  obtain ⟨through, same, journal⟩ := pumped engine.waitRoom
  exact driftsThrough_afterWait ((congrArg good.keeps same).mpr transport)
    ⟨[], List.forall_mem_nil _, congrArg Journal.happenings journal⟩ through

/-- In every run over a transport that keeps to its contract, where data goes through what is open
and nothing else is put in its place:

A transfer opens its local end just before it sends its line, when it has been told how the change
into its directory ended. No line that data goes along with has been sent for the command then, and
no local end has been opened for it.

The engine shows a local end exactly while such a line is out, and it takes data the way the line
says.

A busy engine holds a shared buffer once by the sink of its command and once more by the open local
end. An idle one holds none, and neither does it hold those of a command it refuses. Every call
that does not ask to wait leaves the engine idle, unless it refuses a command while another is in
progress. -/
theorem local_ends_opened_once_and_released (conforms : Transport.Conforms good)
    (run : Run good (DriftsThrough good) engine) :
    (∃ turns, Retraced good (DriftsThrough good) turns engine) ∧
    (∀ turns, Retraced good (DriftsThrough good) turns engine →
      ∀ turn earlier, turn :: earlier <:+ turns → ∀ task, turn.top = .transfer task →
        (∀ env, task.Takes good { turn.desk with pending := none } turn.event (turn.step env)) ∧
        (turn.Opens task → turn.OpensInTime earlier task)) ∧
    (∀ channel, engine.channel? = some channel → ∃ request naming text,
      lastCommand? engine.desk.past = some (.transfer request) ∧
      underWay engine.desk.past = [.sent (request.line naming) text .wouldBlock] ∧
      channel.GoesWith request (request.line naming)) ∧
    (∀ line text answer, .sent line text answer ∈ underWay engine.desk.past →
      line.carries = true → engine.channel?.isSome = true) ∧
    (engine.isBusy = true → ∃ command, lastCommand? engine.desk.past = some command ∧
      ∀ buffer, engine.holders buffer = if command.buffer? = some buffer then
        (if engine.channel?.isSome then 2 else 1) else 0) ∧
    (engine.isBusy = false → engine.channel? = none ∧ ∀ buffer, engine.holders buffer = 0) ∧
    (∀ command refusal, engine.accept command = .error refusal →
      ∀ buffer, (engine.execute command).2.holders buffer = engine.holders buffer) ∧
    ∀ call, (engine.make call).1 ≠ .wouldBlock →
      (∀ command, call = .execute command → engine.isBusy = false) →
      (engine.make call).2.isBusy = false ∧ ∀ buffer, (engine.make call).2.holders buffer = 0 := by
  have reachable : engine.Reachable good := run.mono fun _ _ drifts => drifts.toDrifts
  have rests := rests_of_reachable conforms.neverGoesOn reachable
  have one := oneAtATime_of_reachable reachable
  obtain ⟨origin, booked⟩ := booked_of_reachable conforms reachable
  obtain ⟨turns, retraced⟩ := run.exists_retraced
  have watches := watches_of_retraced conforms retraced
  have idle {engine : Engine τ Operation} (idle : engine.isBusy = false) :
      engine.channel? = none ∧ ∀ buffer, engine.holders buffer = 0 := by
    have empty : engine.stack = [] := by simpa [isBusy] using idle
    unfold Engine.channel? Engine.holders
    rw [empty]
    exact ⟨rfl, fun _ => rfl⟩
  refine ⟨⟨turns, retraced⟩, ?_, ?_, ?_, watches.holders_of_busy rests booked, idle, ?_, ?_⟩
  · intro turns retraced turn earlier before task top
    obtain ⟨fits, inTime⟩ := (watches_of_retraced conforms retraced).inTime turn earlier before
    exact ⟨fun env => fits.takes conforms env top, inTime task⟩
  · intro channel opened
    obtain ⟨task, below, naming, stack, at_, fits⟩ := watches.channel opened
    obtain ⟨command, last, valid, rfl⟩ :=
      booked.commissioned (.transfer task) (stack ▸ List.mem_cons_self) rfl
    obtain ⟨request, alone, answer, line⟩ := (booked.pends _ below stack).underWay one.oneByOne
    have out : (Operation.transfer task).line? = some (task.request.line naming) := by
      obtain ⟨request, progress, channel⟩ := task
      obtain rfl : progress = .waiting naming := at_
      rfl
    obtain ⟨text, rfl⟩ := request_eq answer (line.trans out)
    exact ⟨task.request, naming, text, last, alone, fits.goesWith valid naming⟩
  · intro line text answer out carries
    exact watches.channel_of_carrying booked one out carries
  · intro command refusal refused buffer
    unfold execute
    rw [refused]
    rfl
  · intro call ends free
    have quiet : (engine.make call).2.isBusy = false := by
      rw [engine.make_isBusy call]
      cases call with
      | execute command =>
          simp [Call.leavesBusy, free command rfl, ends]
      | resume => simpa [Call.leavesBusy] using ends
      | cancel => rfl
      | connectionLost => rfl
    exact ⟨quiet, (idle quiet).2⟩

/-- A download into memory, while its data comes in. -/
theorem local_ends_opened_once_and_released_download : ∃ engine : Engine Scripted Operation,
    Run Scripted.IsConforming (DriftsThrough Scripted.IsConforming) engine ∧
      engine.channel? = some (.download (.memory 0) true) ∧ engine.holders 0 = 2 ∧
      ∃ request object text, lastCommand? engine.desk.past = some (.transfer request) ∧
        request.flags.contains .fsync = true ∧ (Command.transfer request).buffer? = some 0 ∧
        underWay engine.desk.past = [.sent (.get object) text .wouldBlock] := by
  let request : TransferRequest :=
    { localEnd := .download (.memory "m" 0), path := .root, file := "f", flags := .engineMask }
  let start : Engine Scripted Operation :=
    { desk := { transport := {}, store := { buffers := [[]] } } }
  let opened := start.after (connecting ++ [.execute (.transfer request), .resume])
  let engine := (opened.pump [1, 2]).2
  have keeps : Scripted.IsConforming start.desk.transport :=
    .of_unscripted rfl rfl rfl ⟨by decide, by decide⟩
  have fresh : Run Scripted.IsConforming (DriftsThrough Scripted.IsConforming) start :=
    .fresh ⟨rfl, rfl, rfl⟩ keeps
  have sound : Scripted.IsConforming opened.desk.transport := by decide +kernel
  have run : Run Scripted.IsConforming (DriftsThrough Scripted.IsConforming) engine :=
    (fresh.after _).wait (driftsThrough_pump sound _)
  have held : engine.channel? = some (.download (.memory 0) true) := by decide +kernel
  have busy : engine.isBusy = true := by decide +kernel
  obtain ⟨-, -, outstanding, -, holds, -⟩ :=
    local_ends_opened_once_and_released Scripted.conforms run
  obtain ⟨asked, naming, text, last, alone, ⟨object, gets⟩, synced⟩ := outstanding _ held
  obtain ⟨command, same, count⟩ := holds busy
  obtain rfl : command = .transfer asked := Option.some.inj (same.symm.trans last)
  have twice : engine.holders 0 = 2 := by decide +kernel
  have mine : (Command.transfer asked).buffer? = some 0 := by
    by_contra other
    rw [count 0, if_neg other] at twice
    cases twice
  exact ⟨engine, run, held, twice, asked, object, text, last, synced.symm, mine, gets ▸ alone⟩

end Engine

end Courier
