import Courier.Proofs.Course
import Courier.Proofs.Doubts

/-!
# Attempts to connect

A command to connect makes attempts, with waits between them, until one succeeds or it gives up. It
replies `ok` exactly if there is a connection afterwards. Its reply is a failure exactly if there is
none, but for one case: what a transport reports may be neither success nor failure, such as
`disconnected`. If the command gives up on such a report, it passes the report on as its reply.

Of the transport it is relied upon only that it connects and wakes up later, if at all, and that it
reports outcomes.
-/

namespace Courier

/-! ## Reports that decide nothing -/

/-- Neither success nor a failure. -/
def Reply.isNotice (reply : Reply) : Bool := reply ≠ .ok && !reply.isError

namespace ConnectRequest

/-- `result`, reported when so many reports had been made before, is neither success nor a failure,
and ends the command as it is. Attempts and waits take turns: it is the result of a wait, or that
of an attempt that is the last one and was not rejected. -/
def PassesOn (request : ConnectRequest) (settings : Settings) (before : Nat) (result : Reply) :
    Prop :=
  result.isNotice = true ∧
    (before % 2 = 1 ∨ result.contains .passwordFailed = false ∧
      (request.retry = false ∨ settings.connectRetries < UInt32.ofNat (before / 2 + 1)))

/-- The last report is passed on. -/
def PassesNotice (request : ConnectRequest) (settings : Settings)
    (reports : List (Reply × Local.Store)) : Prop :=
  ∃ earlier result store,
    reports = earlier ++ [(result, store)] ∧ request.PassesOn settings earlier.length result

end ConnectRequest

/-- A transport that connects and wakes up later, if at all, and reports outcomes. -/
structure Transport.Dials {τ : Type} [Transport τ] (good : Transport.States τ) : Prop where
  connect : ∀ t server credentials, good t →
    ((Transport.connect t server credentials).1 = .wouldBlock ∨
      (Transport.connect t server credentials).1.isError = true) ∧
      good (Transport.connect t server credentials).2
  wakeUp : ∀ t seconds, good t →
    ((Transport.wakeUp t seconds).1 = .wouldBlock ∨
      (Transport.wakeUp t seconds).1.isError = true) ∧
      good (Transport.wakeUp t seconds).2
  result : ∀ t, good t → good.reports t →
    Transport.result t ≠ .wouldBlock ∧ Transport.result t ≠ .again

theorem Transport.Conforms.dials {τ : Type} [Transport τ] {good : Transport.States τ}
    (conforms : Transport.Conforms good) : Transport.Dials good :=
  ⟨conforms.connect, conforms.wakeUp, conforms.result⟩

section Verdicts

variable {request : ConnectRequest} {settings : Settings} {earlier : List (Reply × Local.Store)}
  {result reply : Reply} {store : Local.Store}

theorem Reply.isNotice_iff : reply.isNotice = true ↔ reply ≠ .ok ∧ reply.isError = false := by
  simp [isNotice]

/-- A critical reply is a failure. -/
theorem Reply.isError_of_isCritical (critical : reply.isCritical = true) :
    reply.isError = true := by
  have all : reply.bits &&& 6#32 = 6#32 := by
    simpa [isCritical, contains, Bits.contains, Reply.critical] using critical
  have some : reply.bits &&& 2#32 = 2#32 := by
    calc reply.bits &&& 2#32 = (reply.bits &&& 6#32) &&& 2#32 := by rw [BitVec.and_assoc]; rfl
      _ = 2#32 := by rw [all]; rfl
  simp [isError, Bits.intersects, Reply.error, some]

namespace ConnectRequest

theorem passesNotice_append :
    request.PassesNotice settings (earlier ++ [(result, store)]) ↔
      request.PassesOn settings earlier.length result := by
  constructor
  · rintro ⟨others, last, at_, same, passes⟩
    obtain ⟨rfl, only⟩ := List.append_inj' same rfl
    obtain ⟨rfl, -⟩ := Prod.mk.inj (List.singleton_inj.1 only)
    exact passes
  · intro passes
    exact ⟨earlier, result, store, rfl, passes⟩

/-- What the reply of a command to connect says of the connection, given what was reported. -/
inductive Verdict (request : ConnectRequest) (settings : Settings)
    (reports : List (Reply × Local.Store)) : Reply → Session → Prop
  | connected {session : Session} (up : session.connected = true)
      (decided : ¬ request.PassesNotice settings reports) :
      Verdict request settings reports .ok session
  | failed {reply : Reply} (failed : reply.isError = true)
      (decided : ¬ request.PassesNotice settings reports) :
      Verdict request settings reports reply {}
  | passed {reply : Reply} (notice : reply.isNotice = true)
      (passes : request.PassesNotice settings reports) : Verdict request settings reports reply {}

end ConnectRequest

end Verdicts

/-! ## Where the command stands -/

/-- The stack of a command to connect that waits for the next report. -/
inductive ConnectRequest.Awaits (request : ConnectRequest) : Nat → List Operation → Prop
  | attempt (round : Nat) : Awaits request (2 * round)
      [.connect { request, stage := .connecting, attempts := .ofNat (round + 1) }]
  | pause (round seconds : Nat) : Awaits request (2 * round + 1)
      [.sleep { seconds, waiting := true },
        .connect { request, stage := .retryWait, attempts := .ofNat (round + 1) }]

/-- What the wait between two attempts came to: its result, or a failure to wait at all. -/
inductive ConnectRequest.Waited (request : ConnectRequest) (settings : Settings) (round : Nat)
    (reports : List (Reply × Local.Store)) : Reply → Prop
  | refused {reply : Reply} (failed : reply.isError = true)
      (decided : ¬ request.PassesNotice settings reports) :
      Waited request settings round reports reply
  | heard {earlier : List (Reply × Local.Store)} {result : Reply} {store : Local.Store}
      (last : reports = earlier ++ [(result, store)]) (count : earlier.length = 2 * round + 1)
      (wait : result ≠ .wouldBlock) (again : result ≠ .again) :
      Waited request settings round reports result

variable {τ : Type} [Transport τ] {good : Transport.States τ} {request : ConnectRequest}
  {settings : Settings} {reports : List (Reply × Local.Store)}

/-- The turn is one of a command to connect, after these reports. -/
inductive Turn.Tries (request : ConnectRequest) (settings : Settings)
    (reports : List (Reply × Local.Store)) (turn : Turn τ Operation) : Prop
  | dial {round : Nat} (event : turn.event = .send) (alone : turn.below = [])
      (top : turn.top = .connect { request, attempts := .ofNat round })
      (count : reports.length = 2 * round)
      (decided : ¬ request.PassesNotice settings reports)
  | answered {round : Nat} {earlier : List (Reply × Local.Store)} {store : Local.Store}
      (event : turn.event = .completed) (alone : turn.below = [])
      (top : turn.top =
        .connect { request, stage := .connecting, attempts := .ofNat (round + 1) })
      (last : reports = earlier ++ [(turn.desk.result, store)])
      (count : earlier.length = 2 * round)
  | pausing {round seconds : Nat} (event : turn.event = .send) (top : turn.top = .sleep { seconds })
      (under : turn.below =
        [.connect { request, stage := .retryWait, attempts := .ofNat (round + 1) }])
      (count : reports.length = 2 * round + 1)
      (decided : ¬ request.PassesNotice settings reports)
  | paused {round seconds : Nat} {earlier : List (Reply × Local.Store)} {store : Local.Store}
      (event : turn.event = .completed)
      (top : turn.top = .sleep { seconds, waiting := true })
      (under : turn.below =
        [.connect { request, stage := .retryWait, attempts := .ofNat (round + 1) }])
      (last : reports = earlier ++ [(turn.desk.result, store)])
      (count : earlier.length = 2 * round + 1)
  | waited {round : Nat} {reply : Reply} {finished : Operation}
      (event : turn.event = .returned reply finished) (asleep : finished.kind = .sleep)
      (alone : turn.below = [])
      (top : turn.top = .connect { request, stage := .retryWait, attempts := .ofNat (round + 1) })
      (waited : request.Waited settings round reports reply)

/-- What a step of a command to connect comes to. -/
inductive Step.Tries (request : ConnectRequest) (settings : Settings)
    (reports : List (Reply × Local.Store)) (below : List Operation)
    (step : Step τ Operation Operation) : Prop
  | awaits (wait : step.reply = .wouldBlock) (silent : step.desk.pending = none)
      (awaits : request.Awaits reports.length (step.operation :: below))
  | pauses {round seconds : Nat} (again : step.reply = .again)
      (asked : step.desk.pending = some (.sleep { seconds })) (alone : below = [])
      (operation : step.operation =
        .connect { request, stage := .retryWait, attempts := .ofNat (round + 1) })
      (count : reports.length = 2 * round + 1)
      (decided : ¬ request.PassesNotice settings reports)
  | redials {round : Nat} (again : step.reply = .again) (silent : step.desk.pending = none)
      (alone : below = [])
      (operation : step.operation = .connect { request, attempts := .ofNat round })
      (count : reports.length = 2 * round)
      (decided : ¬ request.PassesNotice settings reports)
  | returns {round : Nat} (again : step.reply ≠ .again) (wait : step.reply ≠ .wouldBlock)
      (silent : step.desk.pending = none) (asleep : step.operation.kind = .sleep)
      (under : below = [.connect { request, stage := .retryWait, attempts := .ofNat (round + 1) }])
      (waited : request.Waited settings round reports step.reply)
  | ends (again : step.reply ≠ .again) (wait : step.reply ≠ .wouldBlock)
      (silent : step.desk.pending = none) (alone : below = [])
      (kind : step.operation.kind = .connect)
      (verdict : request.Verdict settings reports step.reply
        (step.desk.session.afterEnd .connect step.reply))

/-! ## Steps -/

section Steps

variable (desk : Desk τ Operation) {env : Env} {round seconds : Nat} {store : Local.Store}
  {earlier : List (Reply × Local.Store)} {reply result : Reply} {task : ConnectTask}

omit [Transport τ]

theorem ConnectRequest.not_passesOn_of_isError (failed : result.isError = true) {before : Nat} :
    ¬ request.PassesOn settings before result := by
  rintro ⟨notice, -⟩
  rw [(Reply.isNotice_iff.1 notice).2] at failed
  cases failed

/-- What is reported of an attempt that was not rejected is passed on if it is the last one. -/
theorem ConnectRequest.passesOn_attempt (stage : ConnectStage) (notice : result.isNotice = true)
    (accepted : result.contains .passwordFailed = false) :
    request.PassesOn env.settings (2 * round) result ↔
      ConnectTask.isFinal env { request, stage, attempts := .ofNat (round + 1) } result = true := by
  have mild : result.isCritical = false := by
    rw [Bool.eq_false_iff]
    intro critical
    have failed := Reply.isError_of_isCritical critical
    rw [(Reply.isNotice_iff.1 notice).2] at failed
    cases failed
  simp [PassesOn, ConnectTask.isFinal, notice, accepted, mild]

/-- The step ends the command. -/
theorem Step.Tries.of_end (clear : desk.pending = none) (again : reply ≠ .again)
    (wait : reply ≠ .wouldBlock)
    (verdict : request.Verdict settings reports reply (desk.session.afterEnd .connect reply)) :
    ((desk.answer reply task).map Operation.connect).Tries request settings reports [] :=
  .ends again wait clear rfl rfl verdict

/-- The step ends the command with what was not a success. -/
theorem Step.Tries.of_failed (clear : desk.pending = none) (again : reply ≠ .again)
    (wait : reply ≠ .wouldBlock) (verdict : request.Verdict settings reports reply {})
    (ok : reply ≠ .ok) :
    ((desk.answer reply task).map Operation.connect).Tries request settings reports [] := by
  refine .of_end desk clear again wait ?_
  rw [Session.afterEnd, if_pos (.inl ⟨rfl, ok⟩)]
  exact verdict

theorem Step.Tries.of_error (clear : desk.pending = none) (failed : reply.isError = true)
    (decided : ¬ request.PassesNotice settings reports) :
    ((desk.answer reply task).map Operation.connect).Tries request settings reports [] :=
  .of_failed desk clear (Reply.ne_again_of_isError failed) (Reply.ne_wouldBlock_of_isError failed)
    (.failed failed decided) (Reply.ne_ok_of_isError failed)

variable [Transport τ]

theorem ConnectTask.send_tries (dials : Transport.Dials good) (transport : good desk.transport)
    (clear : desk.pending = none) (count : reports.length = 2 * round)
    (decided : ¬ request.PassesNotice settings reports) :
    let step := (ConnectTask.send { request, attempts := .ofNat round } desk).map Operation.connect
    step.Tries request settings reports [] ∧ good step.desk.transport := by
  intro step
  obtain ⟨answer, after⟩ := dials.connect _ request.server request.credentials transport
  refine ⟨?_, after⟩
  have next : step.operation =
      .connect { request, stage := .connecting, attempts := .ofNat (round + 1) } := by
    rw [UInt32.ofNat_add]
    rfl
  rcases answer with wait | failed
  · refine .awaits wait clear ?_
    rw [next, count]
    exact .attempt round
  · exact .of_error step.desk clear failed decided

theorem ConnectTask.completed_tries (outcome : desk.result ≠ .wouldBlock ∧ desk.result ≠ .again)
    (transport : good desk.transport) (clear : desk.pending = none)
    (last : reports = earlier ++ [(desk.result, store)])
    (count : earlier.length = 2 * round) :
    let step := (ConnectTask.completed env
      { request, stage := .connecting, attempts := .ofNat (round + 1) } desk).map Operation.connect
    step.Tries request env.settings reports [] ∧ good step.desk.transport := by
  have passes : request.PassesNotice env.settings reports ↔
      request.PassesOn env.settings (2 * round) desk.result := by
    rw [last, ConnectRequest.passesNotice_append, count]
  unfold ConnectTask.completed
  simp only
  by_cases ok : desk.result = .ok
  · rw [if_pos ok]
    refine ⟨.of_end _ clear (by decide) (by decide) (.connected rfl ?_), transport⟩
    rw [passes, ok]
    intro passed
    exact absurd passed.1 (by decide)
  rw [if_neg ok]
  by_cases rejected : desk.result.contains .passwordFailed = true
  · rw [if_pos rejected]
    refine ⟨.of_error _ clear (by decide) ?_, transport⟩
    rw [passes]
    rintro ⟨-, wait | ⟨accepted, -⟩⟩
    · omega
    · rw [accepted] at rejected
      cases rejected
  rw [if_neg rejected]
  have accepted : desk.result.contains .passwordFailed = false := by simpa using rejected
  split
  · rename_i final
    by_cases failed : desk.result.isError = true
    · refine ⟨.of_error desk clear failed ?_, transport⟩
      rw [passes]
      exact ConnectRequest.not_passesOn_of_isError failed
    · have notice : desk.result.isNotice = true :=
        Reply.isNotice_iff.2 ⟨ok, by simpa using failed⟩
      refine ⟨.of_failed desk clear outcome.2 outcome.1 (.passed notice ?_) ok, transport⟩
      rw [passes, ConnectRequest.passesOn_attempt .connecting notice accepted]
      exact final
  · rename_i further
    refine ⟨.pauses rfl (Desk.request_pending _ _) rfl rfl ?_ ?_, ?_⟩
    · rw [last, List.length_append, count]
      rfl
    · rw [passes]
      intro passed
      exact further ((ConnectRequest.passesOn_attempt .connecting passed.1 accepted).1 passed)
    · exact (congrArg good.keeps (Desk.request_transport _ _)).mpr transport

theorem SleepTask.send_tries (dials : Transport.Dials good) (transport : good desk.transport)
    (clear : desk.pending = none) (count : reports.length = 2 * round + 1)
    (decided : ¬ request.PassesNotice settings reports) :
    let step := (SleepTask.send { seconds } desk).map Operation.sleep
    step.Tries request settings reports
      [.connect { request, stage := .retryWait, attempts := .ofNat (round + 1) }] ∧
      good step.desk.transport := by
  intro step
  obtain ⟨answer, after⟩ := dials.wakeUp _ seconds transport
  refine ⟨?_, after⟩
  rcases answer with wait | failed
  · refine .awaits wait clear ?_
    rw [count]
    exact .pause round seconds
  · exact .returns (Reply.ne_again_of_isError failed) (Reply.ne_wouldBlock_of_isError failed)
      clear rfl rfl (.refused failed decided)

theorem SleepTask.completed_tries (outcome : desk.result ≠ .wouldBlock ∧ desk.result ≠ .again)
    (transport : good desk.transport) (clear : desk.pending = none)
    (last : reports = earlier ++ [(desk.result, store)])
    (count : earlier.length = 2 * round + 1) :
    let step := (SleepTask.completed { seconds, waiting := true } desk).map Operation.sleep
    step.Tries request settings reports
      [.connect { request, stage := .retryWait, attempts := .ofNat (round + 1) }] ∧
      good step.desk.transport := by
  exact ⟨.returns outcome.2 outcome.1 clear rfl rfl (.heard last count outcome.1 outcome.2),
    transport⟩

omit [Transport τ] in
theorem ConnectTask.returned_tries {finished : Operation} (asleep : finished.kind = .sleep)
    (clear : desk.pending = none) (waited : request.Waited settings round reports reply) :
    let step := (ConnectTask.returned reply finished
      { request, stage := .retryWait, attempts := .ofNat (round + 1) } desk).map Operation.connect
    step.Tries request settings reports [] ∧ step.desk.transport = desk.transport := by
  unfold ConnectTask.returned
  rw [if_pos ⟨rfl, asleep⟩]
  cases waited with
  | refused failed decided =>
      rw [if_neg (Reply.ne_ok_of_isError failed)]
      exact ⟨.of_error _ clear failed decided, rfl⟩
  | heard last count wait again =>
      have passes : request.PassesNotice settings reports ↔ reply.isNotice = true := by
        rw [last, ConnectRequest.passesNotice_append, count]
        exact and_iff_left (.inl (by omega))
      by_cases ok : reply = .ok
      · rw [if_pos ok]
        refine ⟨.redials rfl clear rfl rfl ?_ ?_, rfl⟩
        · rw [last, List.length_append, count]
          exact (Nat.mul_succ 2 round).symm
        · rw [passes, ok]
          decide
      · rw [if_neg ok]
        by_cases failed : reply.isError = true
        · refine ⟨.of_error _ clear failed ?_, rfl⟩
          rw [passes, Reply.isNotice_iff, failed]
          simp
        · have notice : reply.isNotice = true := Reply.isNotice_iff.2 ⟨ok, by simpa using failed⟩
          exact ⟨.of_failed _ clear again wait (.passed notice (passes.2 notice)) ok, rfl⟩

end Steps

/-! ## Turns -/

/-- What a call of a command to connect comes to. -/
structure Outcome.Tries (good : Transport.States τ) (request : ConnectRequest) (settings : Settings)
    (reports : List (Reply × Local.Store)) (outcome : Outcome τ Operation) : Prop where
  transport : good outcome.desk.transport
  waits : outcome.reply = .wouldBlock → request.Awaits reports.length outcome.stack
  ends : outcome.reply ≠ .wouldBlock → outcome.stack = [] ∧
    request.Verdict settings reports outcome.reply outcome.desk.session

namespace Turn

variable {turn : Turn τ Operation} {env : Env}

theorem Tries.step (tries : turn.Tries request env.settings reports)
    (dials : Transport.Dials good) (transport : good turn.desk.transport)
    (reported : good.Allows turn.event turn.desk.transport) :
    (turn.step env).Tries request env.settings reports turn.below ∧
      good (turn.step env).desk.transport := by
  obtain ⟨budget, below, event, top, desk⟩ := turn
  cases tries with
  | dial event alone top count decided =>
      cases event
      cases alone
      cases top
      exact ConnectTask.send_tries { desk with pending := none } dials transport rfl count
        decided
  | answered event alone top last count =>
      cases event
      cases alone
      cases top
      have outcome := dials.result _ transport (reported rfl)
      exact ConnectTask.completed_tries { desk with pending := none } outcome transport rfl last
        count
  | pausing event top under count decided =>
      cases event
      cases top
      cases under
      exact SleepTask.send_tries { desk with pending := none } dials transport rfl count
        decided
  | paused event top under last count =>
      cases event
      cases top
      cases under
      have outcome := dials.result _ transport (reported rfl)
      exact SleepTask.completed_tries { desk with pending := none } outcome transport rfl last
        count
  | waited event asleep alone top waited =>
      cases event
      cases alone
      cases top
      obtain ⟨tries, same⟩ :=
        ConnectTask.returned_tries { desk with pending := none } asleep rfl waited
      exact ⟨tries, same ▸ transport⟩

/-- A command to connect that may not go on any more fails. -/
theorem giveUp_tries {desk : Desk τ Operation} (env : Env) (task : ConnectTask)
    (transport : good desk.transport) (decided : ¬ request.PassesNotice settings reports) :
    (giveUp env (.connect task) [] desk).Tries good request settings reports := by
  unfold giveUp breakDown
  rw [abandon_eq env (List.forall_mem_nil _)]
  exact ⟨transport, fun wait => absurd wait Reply.internalError_ne_wouldBlock,
    fun _ => ⟨rfl, .failed (show Reply.internalError.isError = true by decide) decided⟩⟩

theorem Tries.next (tries : turn.Tries request env.settings reports)
    (dials : Transport.Dials good) (transport : good turn.desk.transport)
    (reported : good.Allows turn.event turn.desk.transport) :
    (turn.next env).elim (Outcome.Tries good request env.settings reports)
      (fun after => after.Tries request env.settings reports ∧ good after.desk.transport ∧
        good.Allows after.event after.desk.transport) := by
  obtain ⟨step, transport⟩ := tries.step dials transport reported
  rw [Turn.next]
  cases step with
  | awaits wait silent awaits =>
      rw [Step.next_of_waits wait silent]
      exact ⟨transport, fun _ => awaits, fun ends => absurd rfl ends⟩
  | pauses again asked alone operation count decided =>
      rw [alone]
      cases turn.budget with
      | zero =>
          rw [Step.next_of_spent again, operation]
          exact giveUp_tries env _ transport decided
      | succ left =>
          rw [Step.next_of_again again, Step.onward_of_asks asked, operation]
          exact ⟨.pausing rfl rfl rfl count decided, transport, good.allows_send _⟩
  | redials again silent alone operation count decided =>
      rw [alone]
      cases turn.budget with
      | zero =>
          rw [Step.next_of_spent again, operation]
          exact giveUp_tries env _ transport decided
      | succ left =>
          rw [Step.next_of_acts again silent, operation]
          exact ⟨.dial rfl rfl rfl count decided, transport, good.allows_send _⟩
  | returns again wait silent asleep under waited =>
      rw [under, Step.next_of_returns again wait silent]
      exact ⟨.waited rfl asleep rfl rfl waited, transport, good.allows_returned _ _ _⟩
  | ends again wait silent alone kind verdict =>
      obtain ⟨text, finished⟩ := finish_eq (HasKind.kind (turn.step env).operation)
        (turn.step env).reply (turn.step env).noted
      rw [alone, Step.next_of_ends again wait silent, finished,
        show HasKind.kind (turn.step env).operation = CommandKind.connect from kind]
      exact ⟨transport, fun waits => absurd waits wait, fun _ => ⟨rfl, verdict⟩⟩

theorem Tries.drive {first : Turn τ Operation} (tries : first.Tries request env.settings reports)
    (dials : Transport.Dials good) (transport : good first.desk.transport)
    (reported : good.Allows first.event first.desk.transport) :
    (first.drive env).Tries good request env.settings reports := by
  refine Turn.rule_elim (P := fun turn => turn.Tries request env.settings reports ∧
    good turn.desk.transport ∧ good.Allows turn.event turn.desk.transport) ?_
    ⟨tries, transport, reported⟩
  rintro turn ⟨tries, transport, reported⟩
  exact tries.next dials transport reported

end Turn

/-! ## Over the course of the command -/

namespace Engine

variable {engine after start : Engine τ Operation} {reply : Reply}

omit [Transport τ] in
theorem awaits_drifts {count : Nat} (awaits : request.Awaits count engine.stack)
    (drifts : engine.Drifts good after) : request.Awaits count after.stack := by
  rw [drifts.same_stack]
  · exact awaits
  · -- no operation of the command has a local end
    generalize engine.stack = stack at awaits
    cases awaits <;> simp [Behaviour.channel?, Operation.channel?]

/-- The next report reaches whoever is on top. -/
theorem tries_resume (awaits : request.Awaits reports.length engine.stack) (store : Local.Store) :
    ∃ first, engine.opening .resume = some first ∧ first.desk.transport = engine.desk.transport ∧
      first.Tries request engine.settings (reports ++ [(engine.desk.result, store)]) := by
  unfold opening
  generalize stands : engine.stack = stack, heard : reports.length = count at awaits
  cases awaits with
  | attempt round => exact ⟨_, rfl, rfl, .answered rfl rfl rfl rfl heard⟩
  | pause round seconds => exact ⟨_, rfl, rfl, .paused rfl rfl rfl rfl heard⟩

theorem course_tries (dials : Transport.Dials good) (transport : good start.desk.transport)
    {operation : Operation} (accepted : start.accept (.connect request) = .ok operation)
    (course : start.Course (Completes good) (.connect request) reports reply engine) :
    Outcome.Tries good request engine.settings reports ⟨reply, engine.desk, engine.stack⟩ := by
  induction course with
  | execute =>
      obtain ⟨-, -, protocol, -, offered⟩ := accept_eq_ok accepted
      obtain rfl : Operation.connect { request } = operation := Option.some.inj offered
      let first := start.starting (.connect request) (.connect { request })
      have opened : start.opening (.execute (.connect request)) = some first :=
        opening_of_accepted accepted
      have begins : first.Tries request start.env.settings [] := by
        refine .dial rfl rfl (by rfl) (Nat.mul_zero 2).symm ?_
        rintro ⟨earlier, result, store, none, -⟩
        simp at none
      rw [show start.execute (.connect request) = _ from make_of_opening opened]
      exact begins.drive dials transport (good.allows_send _)
  | @resume reports engine after course completes ih =>
      have awaits := awaits_drifts (ih.waits rfl) completes.toDrifts
      obtain ⟨first, opened, same, tries⟩ := tries_resume awaits after.desk.store
      have tries : first.Tries request after.env.settings _ := tries
      rw [show after.resume = _ from make_of_opening opened]
      exact tries.drive dials (same ▸ completes.transport) fun _ => same ▸ completes.reported

/-- When a command to connect has ended, it replied `ok` exactly if there is a connection, and a
failure exactly if there is none, unless it passed on a report that is neither. -/
theorem connect_tells (dials : Transport.Dials good) (transport : good start.desk.transport)
    {operation : Operation} (accepted : start.accept (.connect request) = .ok operation)
    (course : start.Course (Completes good) (.connect request) reports reply engine)
    (ended : reply ≠ .wouldBlock) :
    engine.stack = [] ∧
    (engine.session.connected = true ↔ reply = .ok) ∧
    (engine.session.connected = false → engine.session = {}) ∧
    ((reply.isError = false ↔ engine.session.connected = true) ↔
      ¬ request.PassesNotice engine.settings reports) := by
  obtain ⟨idle, verdict⟩ := (course_tries dials transport accepted course).ends ended
  refine ⟨idle, ?_⟩
  change request.Verdict engine.settings reports reply engine.session at verdict
  generalize engine.session = session at verdict ⊢
  cases verdict with
  | connected up decided =>
      refine ⟨iff_of_true up rfl, ?_, iff_of_true (iff_of_true rfl up) decided⟩
      intro down
      rw [up] at down
      cases down
  | failed failed decided =>
      have down : ¬ (({} : Session).connected = true) := by decide
      refine ⟨iff_of_false down (Reply.ne_ok_of_isError failed), fun _ => rfl, ?_⟩
      refine iff_of_true (iff_of_false ?_ down) decided
      rw [failed]
      decide
  | passed notice passes =>
      have down : ¬ (({} : Session).connected = true) := by decide
      obtain ⟨failed, silent⟩ := Reply.isNotice_iff.1 notice
      refine ⟨iff_of_false down failed, fun _ => rfl, iff_of_false ?_ (not_not_intro passes)⟩
      intro same
      exact down (same.1 silent)

/-! ## Rehearsals -/

/-- The second attempt succeeds. -/
theorem connect_tells_retried :
    ∃ reports engine, (rehearsed {}).Course (Completes Scripted.IsConforming)
        (.connect (.ofServer stage {})) reports .ok engine ∧
      reports.map Prod.fst = [.error, .ok, .ok] ∧ engine.session.connected = true := by
  have alone : ∀ engine after : Engine Scripted Operation,
      engine.CompletesAlone Scripted.IsConforming after →
        engine.Completes Scripted.IsConforming after :=
    fun _ _ alone => alone.toCompletes
  have dialing : (rehearsed {}).Course (Completes Scripted.IsConforming)
      (.connect (.ofServer stage {})) [] .wouldBlock
      ((rehearsed {}).execute (.connect (.ofServer stage {}))).2 := by
    have wait : ((rehearsed {}).execute (.connect (.ofServer stage {}))).1 = .wouldBlock := by
      decide +kernel
    exact wait ▸ .execute
  have failed := dialing.reported alone .error .wouldBlock (by decide +kernel)
    (by decide) (by decide) (by decide +kernel)
  have waited := failed.reported alone .ok .wouldBlock (by decide +kernel)
    (by decide) (by decide) (by decide +kernel)
  have connected := waited.reported alone .ok .ok (by decide +kernel)
    (by decide) (by decide) (by decide +kernel)
  refine ⟨_, _, connected, rfl, ?_⟩
  exact (connect_tells Scripted.conforms.dials (by decide +kernel) rfl connected
    Reply.ok_ne_wouldBlock).2.1.2 rfl

/-- The connection is closed while it is being made, and no other attempt is to follow: the reply is
no failure, but there is no connection. -/
theorem connect_passes_disconnected :
    ∃ reports engine, (rehearsed {}).Course (Completes Scripted.IsConforming)
        (.connect { ConnectRequest.ofServer stage {} with retry := false }) reports .disconnected
        engine ∧
      reports.map Prod.fst = [.disconnected] ∧ Reply.disconnected.isError = false ∧
      engine.isBusy = false ∧ engine.session.connected = false := by
  let command : Command := .connect { ConnectRequest.ofServer stage {} with retry := false }
  have dialing : (rehearsed {}).Course (Completes Scripted.IsConforming) command [] .wouldBlock
      ((rehearsed {}).execute command).2 := by
    have wait : ((rehearsed {}).execute command).1 = .wouldBlock := by decide +kernel
    exact wait ▸ .execute
  have closed := dialing.reported (fun _ _ alone => alone.toCompletes) .disconnected .disconnected
    (by decide +kernel) (by decide) (by decide) (by decide +kernel)
  exact ⟨_, _, closed, rfl, by decide, by decide +kernel, by decide +kernel⟩

end Engine

end Courier
