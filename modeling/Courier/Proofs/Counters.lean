import Courier.Proofs.Completions
import Courier.Proofs.Continuations
import Courier.Proofs.Redialing
import Courier.Proofs.Requests
import Courier.Proofs.Twins

/-!
# How far the engine counts

Two numbers of the engine have 32 bits: how often operations went on without waiting in the present
call, and how many attempts a command to connect has made. Each is raised first and compared with
its limit afterwards, so it comes to one more than the limit before anything is done about it. That
is still a number of 32 bits unless the limit is the largest of them, and settings that have it
pass.
-/

namespace Courier

/-- What is promised of a transport in its good states. -/
abbrev Transport.Promise := {τ : Type} → [Transport τ] → Transport.States τ → Prop

/-- The transport may do as it likes. -/
abbrev Transport.Promise.nothing : Transport.Promise := fun _ => True

/-- If an attempt to connect is made in this turn, the number of attempts is one more after it. -/
def Turn.CountsAttempt {τ : Type} [Transport τ] (env : Env) (turn : Turn τ Operation) : Prop :=
  ∀ task, turn.event = .send → turn.top = .connect task → task.stage = .connect →
    ∃ after, (turn.step env).operation = .connect after ∧
      after.attempts.toNat = task.attempts.toNat + 1

/-- Between two calls the settings stay as they are. -/
structure Engine.DriftsAsSet {τ ω : Type} [Behaviour ω] (good : Transport.States τ)
    (engine after : Engine τ ω) : Prop extends Drifts good engine after where
  settings : after.settings = engine.settings

namespace Settings

/-- With these settings, in every run over such a transport, all attempts are counted. -/
def CountsAttempts (settings : Settings) (promise : Transport.Promise) : Prop :=
  ∀ (τ : Type) [Transport τ] (good : Transport.States τ), promise good →
    ∀ engine : Engine τ Operation, Engine.Run good (Engine.DriftsAsSet good) engine →
      engine.settings = settings →
        ∀ call turn, engine.Takes call turn → turn.CountsAttempt engine.env

/-- With these settings, in every call of a run over such a transport, the steps that go on without
waiting are few enough for their number to have 32 bits. The loop counts down those that are left,
so they are counted over its turns. -/
def CountsGoings (settings : Settings) (promise : Transport.Promise) : Prop :=
  ∀ (τ : Type) [Transport τ] (good : Transport.States τ), promise good →
    ∀ engine : Engine τ Operation, Engine.Run good (Engine.DriftsAsSet good) engine →
      engine.settings = settings →
        ∀ call first turns outcome, engine.MayMake good call → engine.opening call = some first →
          Turn.Through engine.env first turns outcome →
            Turn.goings engine.env turns < UInt32.size

end Settings

variable {τ : Type} [Transport τ] {good : Transport.States τ} {env : Env}

/-! ## Attempts are counted while the limit allows for one more -/

/-- Whatever an operation is told, it does not set out for an attempt that is one too many. -/
theorem Operation.step_within {operation : Operation} {event : Event Operation}
    {desk : Desk τ Operation} (within : operation.Within env.settings.connectRetries.toNat) :
    (operation.step env event desk).operation.Within env.settings.connectRetries.toNat := by
  cases operation with
  | connect task =>
      obtain ⟨request, stage, attempts⟩ := task
      cases event with
      | send =>
          cases stage with
          | connect => exact fun connecting => absurd rfl connecting
          | connecting | retryWait => exact within
      | completed =>
          cases stage with
          | connecting =>
              simp only [step, completed, ConnectTask.completed]
              split
              · exact within
              · split
                · exact within
                · split
                  · exact within
                  · rename_i another
                    exact fun _ => (ConnectTask.not_isFinal another).2.2
          | connect | retryWait => exact within
      | returned reply finished =>
          simp only [step, returned, ConnectTask.returned]
          split
          · rename_i waited
            obtain rfl : stage = .retryWait := waited.1
            split
            · exact fun _ => within (by rintro ⟨⟩)
            · exact within
          · exact within
  | _ => cases event <;> exact trivial

namespace Turn

variable {turn after : Turn τ Operation}

/-- No operation is about to make an attempt that is one too many. -/
def Within (retries : Nat) (turn : Turn τ Operation) : Prop :=
  turn.top.Within retries ∧ ∀ operation ∈ turn.below, operation.Within retries

theorem Within.next (within : turn.Within env.settings.connectRetries.toNat)
    (next : turn.next env = .inr after) : after.Within env.settings.connectRetries.toNat := by
  obtain ⟨top, below⟩ := within
  have stepped : (turn.step env).operation.Within env.settings.connectRetries.toNat :=
    Operation.step_within top
  rcases Step.next_eq_inr next with ⟨-, left, -, rfl⟩ | ⟨-, -, -, parent, rest, under, rfl⟩
  · cases asked : (turn.step env).desk.pending with
    | none =>
        rw [Step.onward_of_silent asked]
        exact ⟨stepped, below⟩
    | some child =>
        -- only a subcommand is asked for, and those make no attempts
        have waits := (turn.step_does Transport.answers_somehow trivial env).waitsFor asked
        rw [Step.onward_of_asks asked]
        exact ⟨Operation.within_of_isSubcommand waits.2.1.isSubcommand,
          List.forall_mem_cons.2 ⟨stepped, below⟩⟩
  · rw [under] at below
    exact List.forall_mem_cons.1 below

/-- What is left on the stack at the end of a call is no nearer to an attempt too many. -/
theorem Within.drive {first : Turn τ Operation}
    (within : first.Within env.settings.connectRetries.toNat) :
    ∀ operation ∈ (first.drive env).stack,
      operation.Within env.settings.connectRetries.toNat := by
  refine rule (P := Within env.settings.connectRetries.toNat)
    (Q := fun outcome => ∀ operation ∈ outcome.stack,
      operation.Within env.settings.connectRetries.toNat) ?_ ?_ within
  · intro turn after within next
    exact within.next next
  · intro turn outcome within next
    rcases Step.next_eq_inl next with ⟨-, -, rfl⟩ | ⟨-, child, -, rfl⟩ | ⟨-, -, rfl⟩ |
      ⟨-, -, -, -, rfl⟩
    · exact List.forall_mem_nil _
    · exact List.forall_mem_nil _
    · exact List.forall_mem_cons.2 ⟨Operation.step_within within.1, within.2⟩
    · exact List.forall_mem_nil _

/-- An attempt is made and counted, in 32 bits. -/
theorem step_attempts {task : ConnectTask} (event : turn.event = .send)
    (top : turn.top = .connect task) (stage : task.stage = .connect) :
    (turn.step env).operation =
      .connect { task with stage := .connecting, attempts := task.attempts + 1 } := by
  rw [Turn.step, event, top]
  simp only [Behaviour.step, Operation.step, Operation.send, ConnectTask.send, stage]
  rfl

/-- The number of attempts can be raised once more while it is within a limit that is not the
largest. -/
theorem Within.countsAttempt (within : turn.Within env.settings.connectRetries.toNat)
    (few : env.settings.connectRetries.toNat + 1 < UInt32.size) : turn.CountsAttempt env := by
  intro task event top stage
  have made : task.attempts.toNat ≤ env.settings.connectRetries.toNat := by
    have allowed := within.1
    rw [top] at allowed
    exact allowed (by rw [stage]; rintro ⟨⟩)
  refine ⟨_, step_attempts event top stage, ?_⟩
  rw [UInt32.toNat_add, UInt32.toNat_one]
  exact Nat.mod_eq_of_lt ((Nat.succ_le_succ made).trans_lt few)

end Turn

namespace Engine

variable {engine : Engine τ Operation}

theorem within_of_opening {call : Call} {first : Turn τ Operation}
    (within : ∀ operation ∈ engine.stack,
      operation.Within engine.settings.connectRetries.toNat)
    (opened : engine.opening call = some first) :
    first.Within engine.settings.connectRetries.toNat := by
  rcases opening_eq_some opened with ⟨command, operation, rfl, accepted, rfl⟩ |
    ⟨top, below, rfl, stack, rfl⟩
  · obtain ⟨-, -, protocol, -, offered⟩ := accept_eq_ok accepted
    exact ⟨(Operation.ofCommand?_due offered _).2, List.forall_mem_nil _⟩
  · rw [stack] at within
    exact List.forall_mem_cons.1 within

/-- With the same settings throughout, no operation is ever about to make an attempt too many. -/
theorem within_of_run (run : Run good (DriftsAsSet good) engine) :
    ∀ operation ∈ engine.stack, operation.Within engine.settings.connectRetries.toNat := by
  induction run with
  | fresh new transport =>
      rw [new.stack]
      exact List.forall_mem_nil _
  | @call engine run call _ within =>
      refine make_rule (P := fun after : Engine τ Operation => ∀ operation ∈ after.stack,
        operation.Within after.settings.connectRetries.toNat) call ?_ ?_ ?_ within ?_
      · intro first opened
        exact (within_of_opening within opened).drive
      · rw [isBusy_eq_false_iff.1 engine.cancel_idle]
        exact List.forall_mem_nil _
      · rw [isBusy_eq_false_iff.1 engine.connectionLost_idle]
        exact List.forall_mem_nil _
      · intro level text
        exact within
  | wait run drifts within =>
      rw [drifts.settings]
      rcases drifts.stack with same | ⟨top, below, channel, before, transfers, now⟩
      · rw [same]
        exact within
      · rw [before] at within
        rw [now]
        obtain ⟨-, below⟩ := List.forall_mem_cons.1 within
        refine List.forall_mem_cons.2 ⟨?_, below⟩
        -- only a transfer has a local end, and it makes no attempts
        cases top with
        | transfer task => trivial
        | _ => cases transfers

/-- As long as the limit is not the largest number of 32 bits, every attempt is counted, over any
transport. -/
theorem attempt_counted (run : Run good (DriftsAsSet good) engine)
    (few : engine.settings.connectRetries.toNat + 1 < UInt32.size) {call : Call}
    {turn : Turn τ Operation} (takes : engine.Takes call turn) :
    turn.CountsAttempt engine.env := by
  obtain ⟨first, opened, leads⟩ := takes
  have within : turn.Within engine.env.settings.connectRetries.toNat :=
    leads.keeps (fun _ _ within next => within.next next)
      (within_of_opening (within_of_run run) opened)
  exact within.countsAttempt few

/-- In a call, operations go on at most once more than they are allowed to. -/
theorem goings_le_succ {call : Call} {first : Turn τ Operation} {turns : List (Turn τ Operation)}
    {outcome : Outcome τ Operation} (opened : engine.opening call = some first)
    (through : Turn.Through engine.env first turns outcome) :
    Turn.goings engine.env turns ≤ engine.settings.maxContinue.toNat + 1 := by
  have counted := through.goings_eq
  rw [opening_budget opened] at counted
  by_cases out : Turn.RunsOut engine.env turns
  · exact (counted.1 out).le
  · exact (counted.2 out).trans (Nat.le_succ _)

end Engine

/-! ## Under the largest limit attempts go on for ever -/

variable {request : ConnectRequest} {attempts : UInt32} {seconds : Nat}

namespace Turn

variable {turn : Turn τ Operation}

/-- An attempt is made and counted. -/
theorem drive_attempts (env : Env) (later : Transport.DialsLater good)
    (transport : good turn.desk.transport) (event : turn.event = .send) (alone : turn.below = [])
    (top : turn.top = .connect { request, attempts }) :
    (turn.drive env).stack =
        [.connect { request, stage := .connecting, attempts := attempts + 1 }] ∧
      (turn.drive env).desk.session = { server := some request.handle } ∧
      good (turn.drive env).desk.transport := by
  have step : turn.step env = (ConnectTask.send { request, attempts }
      { turn.desk with pending := none }).map Operation.connect := by
    rw [Turn.step, event, top]
    rfl
  have connects := later.connect turn.desk.transport request.server request.credentials transport
  have wait : (turn.step env).reply = .wouldBlock := by
    rw [step]
    exact connects.1
  rw [drive_of_waits wait (by rw [step]; rfl), alone, step]
  exact ⟨rfl, rfl, connects.2⟩

/-- A wait begins. -/
theorem drive_sleeps (later : Transport.DialsLater good) (transport : good turn.desk.transport)
    (event : turn.event = .send) (top : turn.top = .sleep { seconds }) :
    (turn.drive env).stack = .sleep { seconds, waiting := true } :: turn.below := by
  have step : turn.step env =
      (SleepTask.send { seconds } { turn.desk with pending := none }).map Operation.sleep := by
    rw [Turn.step, event, top]
    rfl
  have wait : (turn.step env).reply = .wouldBlock := by
    rw [step]
    exact (later.wakeUp _ seconds transport).1
  rw [drive_of_waits wait (by rw [step]; rfl), step]
  rfl

/-- A failed attempt that is not final is followed by a wait. -/
theorem drive_retries (later : Transport.DialsLater good) (transport : good turn.desk.transport)
    (event : turn.event = .completed) (alone : turn.below = [])
    (top : turn.top = .connect { request, stage := .connecting, attempts })
    (steps : 1 ≤ turn.budget) (failed : turn.desk.result = .error)
    (another :
      ¬ ConnectTask.isFinal env { request, stage := .connecting, attempts } .error = true) :
    (turn.drive env).stack =
      [.sleep { seconds := env.settings.retryDelay.toNat, waiting := true },
        .connect { request, stage := .retryWait, attempts }] := by
  let desk : Desk τ Operation := { turn.desk with pending := none }
  have failed : desk.result = .error := failed
  have step : turn.step env = (ConnectTask.completed env
      { request, stage := .connecting, attempts } desk).map Operation.connect := by
    rw [Turn.step, event, top]
    rfl
  have retries : (turn.step env).reply = .again ∧
      (turn.step env).operation = .connect { request, stage := .retryWait, attempts } ∧
      (turn.step env).desk.pending = some (.sleep { seconds := env.settings.retryDelay.toNat }) ∧
      (turn.step env).desk.transport = turn.desk.transport := by
    rw [step]
    unfold ConnectTask.completed
    simp only [failed, if_neg (show Reply.error ≠ .ok by decide),
      if_neg (show ¬ Reply.error.contains .passwordFailed = true by decide), if_neg another]
    exact ⟨rfl, rfl, Desk.request_pending _ _, Desk.request_transport _ _⟩
  obtain ⟨again, operation, asks, same⟩ := retries
  obtain ⟨left, budget⟩ := Nat.exists_eq_succ_of_ne_zero (Nat.one_le_iff_ne_zero.1 steps)
  rw [drive_of_again again budget, Step.onward_of_asks asks, alone, operation]
  refine drive_sleeps later ?_ rfl rfl
  exact same.symm ▸ transport

/-- When the wait is over in time, the turn comes in which the next attempt is made. -/
theorem leads_to_attempt (env : Env) (event : turn.event = .completed)
    (top : turn.top = .sleep { seconds, waiting := true })
    (under : turn.below = [.connect { request, stage := .retryWait, attempts }])
    (steps : 1 ≤ turn.budget) (ok : turn.desk.result = .ok) :
    ∃ dial, turn.Leads env dial ∧ dial.event = .send ∧ dial.below = [] ∧
      dial.top = .connect { request, attempts } ∧
      dial.desk.transport = turn.desk.transport := by
  have step : turn.step env = (SleepTask.completed { seconds, waiting := true }
      { turn.desk with pending := none }).map Operation.sleep := by
    rw [Turn.step, event, top]
    rfl
  have reply : (turn.step env).reply = .ok := by
    rw [step]
    exact ok
  have silent : (turn.step env).desk.pending = none := by
    rw [step]
    rfl
  let told := (turn.step env).upward turn.budget
    (.connect { request, stage := .retryWait, attempts }) []
  have returns : turn.next env = .inr told := by
    rw [next, under]
    exact Step.next_of_returns (reply ▸ Reply.again_ne_ok.symm) (reply ▸ Reply.ok_ne_wouldBlock)
      silent
  -- the attempts hear of it and go on
  have goes : told.step env = (ConnectTask.returned .ok (.sleep { seconds, waiting := true })
      { request, stage := .retryWait, attempts } { told.desk with pending := none }).map
      Operation.connect := by
    rw [Turn.step]
    simp only [told, Step.upward, reply]
    rw [step]
    rfl
  obtain ⟨left, budget⟩ := Nat.exists_eq_succ_of_ne_zero (Nat.one_le_iff_ne_zero.1 steps)
  have acts : told.next env =
      .inr ⟨left, [], .send, (told.step env).operation, (told.step env).noted⟩ := by
    rw [next, show told.budget = left + 1 from budget]
    exact Step.next_of_acts (by rw [goes]; rfl) (by rw [goes]; rfl)
  refine ⟨_, .tail (.tail .refl returns) acts, rfl, rfl, ?_, ?_⟩
  · rw [goes]
    rfl
  · change (told.step env).desk.transport = _
    rw [goes]
    change (turn.step env).desk.transport = _
    rw [step]
    rfl

end Turn

namespace Engine

variable {settings : Settings}

/-- In a run over a transport in such states, with these settings throughout, the stack comes to be
like this. -/
def ComesTo (good : Transport.States τ) (settings : Settings) (stack : List Operation) : Prop :=
  ∃ engine : Engine τ Operation, Run good (DriftsAsSet good) engine ∧ engine.settings = settings ∧
    engine.stack = stack

omit [Transport τ] in
/-- An engine nobody has called yet accepts a command to connect. -/
theorem accept_of_fresh {engine : Engine τ Operation} (new : engine.IsFresh)
    (valid : request.valid = true) :
    engine.accept (.connect request) = .ok (.connect { request }) := by
  have idle : engine.isBusy = false := isBusy_eq_false_iff.2 new.stack
  have served : protocolFor engine.session (.connect request) = .ok request.server.protocol := by
    rw [session, new.session]
    rfl
  unfold accept
  simp only [idle, Bool.false_eq_true, if_false, show (Command.connect request).valid = true from
    valid, Bool.not_true, served]
  rfl

/-- The first attempt is under way. -/
theorem exists_dialing (later : Transport.DialsLater good) {t : τ} (transport : good t)
    (valid : request.valid = true) (settings : Settings) :
    ∃ engine : Engine τ Operation, Run good (DriftsAsSet good) engine ∧
      engine.settings = settings ∧
      engine.stack = [.connect { request, stage := .connecting, attempts := 1 }] ∧
      engine.desk.session = { server := some request.handle } ∧ good engine.desk.transport := by
  let start : Engine τ Operation := { desk := { transport := t, cache := {} }, settings }
  have new : start.IsFresh := ⟨rfl, rfl, rfl⟩
  have opened := opening_of_accepted (accept_of_fresh new valid)
  have dialed := (start.starting (.connect request) (.connect { request })).drive_attempts
    start.env later transport rfl rfl rfl
  have made : start.make (.execute (.connect request)) = _ := make_of_opening opened
  have run : Run good (DriftsAsSet good) start := .fresh new transport
  refine ⟨_, run.call (.execute (.connect request)) (mayMake_execute _), ?_⟩
  rw [made]
  exact ⟨rfl, dialed⟩

/-- A transport that lets every request wait keeps to the contract. -/
theorem isLater_conforms : Transport.Conforms (IsLater : Transport.States Scripted) :=
  have answers := @Scripted.answers (· = .wouldBlock) rfl
    fun result => result ≠ .wouldBlock ∧ result ≠ .again
  { answers with
    send := fun t text kept => ⟨.inl (answers.send t text kept).1, (answers.send t text kept).2⟩
    connect := fun t server credentials kept =>
      have connects := answers.connect t server credentials kept
      ⟨.inl connects.1, connects.2⟩
    wakeUp := fun t seconds kept =>
      have wakes := answers.wakeUp t seconds kept
      ⟨.inl wakes.1, wakes.2⟩ }

/-- A run goes on with an outcome of the outstanding request. -/
theorem Run.reporting {engine : Engine Scripted Operation}
    (run : Run IsLater (DriftsAsSet IsLater) engine) (result : Reply)
    (wait : result ≠ .wouldBlock) (again : result ≠ .again) :
    Run IsLater (DriftsAsSet IsLater) (engine.reporting result) ∧
      IsLater (engine.reporting result).desk.transport := by
  have reachable : engine.Reachable IsLater := run.mono fun _ _ drifts => drifts.toDrifts
  have kept := (rests_of_reachable isLater_conforms.neverGoesOn reachable).transport
  have drifts := (reporting_completesAlone kept ⟨wait, again⟩).toDrifts
  exact ⟨run.wait ⟨drifts, rfl⟩, drifts.transport⟩

/-- No number of attempts exceeds the largest number of 32 bits, so every failed one is followed by
a wait. -/
theorem ComesTo.pause (retry : request.retry = true) (steps : 1 ≤ settings.maxContinue.toNat)
    (most : settings.connectRetries.toNat + 1 = UInt32.size)
    (dialing : ComesTo (IsLater : Transport.States Scripted) settings
      [.connect { request, stage := .connecting, attempts }]) :
    ComesTo (IsLater : Transport.States Scripted) settings
      [.sleep { seconds := settings.retryDelay.toNat, waiting := true },
        .connect { request, stage := .retryWait, attempts }] := by
  obtain ⟨engine, run, rfl, stack⟩ := dialing
  obtain ⟨run, kept⟩ := run.reporting .error (by decide) (by decide)
  have another : ¬ ConnectTask.isFinal (engine.reporting .error).env
      { request, stage := .connecting, attempts } .error = true := by
    have few : attempts.toNat ≤ engine.settings.connectRetries.toNat :=
      Nat.le_of_lt_succ (attempts.toNat_lt.trans_eq most.symm)
    simpa [ConnectTask.isFinal, retry, UInt32.lt_iff_toNat_lt] using ⟨by decide, few⟩
  have stack : (engine.reporting .error).stack = _ := stack
  refine ⟨_, run.call .resume fun _ _ => trivial, (engine.reporting .error).resume_settings, ?_⟩
  rw [show (engine.reporting .error).make .resume = _ from
    make_of_opening (opening_of_stack stack)]
  exact Turn.drive_retries isLater_dialsLater kept rfl rfl rfl steps rfl another

/-- When the wait is over, the next attempt is made, whatever the number of those before it. -/
theorem ComesTo.attempt (steps : 1 ≤ settings.maxContinue.toNat)
    (paused : ComesTo (IsLater : Transport.States Scripted) settings
      [.sleep { seconds, waiting := true }, .connect { request, stage := .retryWait, attempts }]) :
    (∃ (engine : Engine Scripted Operation) (turn : Turn Scripted Operation),
      Run IsLater (DriftsAsSet IsLater) engine ∧ engine.settings = settings ∧
        engine.Takes .resume turn ∧ turn.event = .send ∧
          turn.top = .connect { request, attempts }) ∧
      ComesTo (IsLater : Transport.States Scripted) settings
        [.connect { request, stage := .connecting, attempts := attempts + 1 }] := by
  obtain ⟨engine, run, rfl, stack⟩ := paused
  obtain ⟨run, kept⟩ := run.reporting .ok (by decide) (by decide)
  have stack : (engine.reporting .ok).stack = _ := stack
  have opened := opening_of_stack stack
  obtain ⟨dial, leads, event, alone, top, same⟩ :=
    ((engine.reporting .ok).resuming _ _).leads_to_attempt (engine.reporting .ok).env rfl rfl rfl
      steps rfl
  have resumed := run.call .resume fun _ _ => trivial
  refine ⟨⟨_, dial, run, rfl, ⟨_, opened, leads⟩, event, top⟩, _, resumed,
    (engine.reporting .ok).resume_settings, ?_⟩
  rw [show (engine.reporting .ok).make .resume = _ from make_of_opening opened]
  change (Turn.drive _ _).stack = _
  rw [leads.drive]
  exact (dial.drive_attempts _ isLater_dialsLater (same ▸ kept) event alone top).1

section Retries

variable (request : ConnectRequest) (valid : request.valid = true) (retry : request.retry = true)
  (steps : 1 ≤ settings.maxContinue.toNat)
  (most : settings.connectRetries.toNat + 1 = UInt32.size)

include valid retry steps most

/-- So there is no end to the attempts, and their number wraps around. -/
theorem comesTo_attempts (round : Nat) :
    ComesTo (IsLater : Transport.States Scripted) settings
      [.connect { request, stage := .connecting, attempts := .ofNat (round + 1) }] := by
  induction round with
  | zero =>
      have kept : IsLater {} := .of_unscripted rfl rfl rfl ⟨by decide, by decide⟩
      obtain ⟨engine, run, same, stack, -⟩ :=
        exists_dialing isLater_dialsLater kept valid settings
      exact ⟨engine, run, same, stack⟩
  | succ round dialing =>
      have next := (ComesTo.attempt steps (dialing.pause retry steps most)).2
      rwa [show UInt32.ofNat (round + 1) + 1 = .ofNat (round + 1 + 1) from
        (UInt32.ofNat_add (round + 1) 1).symm] at next

/-- In such a run an attempt is made after the largest number of attempts there is. -/
theorem exists_wrapping :
    ∃ (engine : Engine Scripted Operation) (turn : Turn Scripted Operation),
      Run IsLater (DriftsAsSet IsLater) engine ∧ engine.settings = settings ∧
        engine.Takes .resume turn ∧ turn.event = .send ∧
          turn.top = .connect { request, attempts := 4294967295 } := by
  have dialing := comesTo_attempts request valid retry steps most 4294967294
  exact (ComesTo.attempt steps (dialing.pause retry steps most)).1

end Retries

end Engine

/-! ## Under the largest limit steps go on too often to be counted -/

/-- A transport that connects, and answers every line by telling the operation to go on. -/
structure Urging where

instance : Transport Urging where
  send t _ := (.again, t)
  quote _ name := name
  result _ := .ok
  connect t _ _ := (.wouldBlock, t)
  disconnect t := (.ok, t)
  wakeUp t _ := (.wouldBlock, t)

theorem Urging.dialsLater : Transport.DialsLater (.all Urging) where
  connect := fun _ _ _ _ => ⟨rfl, trivial⟩
  wakeUp := fun _ _ _ => ⟨rfl, trivial⟩
  result := fun _ _ _ => ⟨Reply.ok_ne_wouldBlock, Reply.again_ne_ok.symm⟩

/-- Over it, a change of directory never waits. -/
theorem Urging.changeDir_send (task : ChangeDirTask) {desk : Desk Urging Operation}
    (clear : desk.pending = none) :
    (task.send desk).reply ≠ .wouldBlock ∧ (task.send desk).desk.pending = none := by
  unfold ChangeDirTask.send
  split
  · exact ⟨Reply.internalError_ne_wouldBlock, clear⟩
  · split
    · have failed : Reply.error.isError = true := by decide
      exact ⟨Reply.ne_wouldBlock_of_isError failed, clear⟩
    · split
      · exact ⟨Reply.ok_ne_wouldBlock, clear⟩
      · exact ⟨Reply.again_ne_wouldBlock, clear⟩

namespace Turn

/-- A change of permissions sends its line again and again, or is about to. -/
inductive Circles : Turn Urging Operation → Prop
  | starts {turn : Turn Urging Operation} {request : ChmodRequest} (event : turn.event = .send)
      (alone : turn.below = []) (top : turn.top = .chmod { request }) : Circles turn
  | enters {turn : Turn Urging Operation} {request : ChmodRequest} {task : ChangeDirTask}
      (event : turn.event = .send) (top : turn.top = .changeDir task)
      (under : turn.below = [.chmod { request, progress := .entering }]) : Circles turn
  | learns {turn : Turn Urging Operation} {request : ChmodRequest} {reply : Reply}
      {finished : Operation} (event : turn.event = .returned reply finished)
      (alone : turn.below = []) (top : turn.top = .chmod { request, progress := .entering }) :
      Circles turn
  | sends {turn : Turn Urging Operation} {request : ChmodRequest} {progress : Progress}
      (event : turn.event = .send) (alone : turn.below = [])
      (top : turn.top = .chmod { request, progress })
      (ready : progress.isReady = true ∨ progress.isWaiting = true) : Circles turn

variable {turn after : Turn Urging Operation}

/-- Only the change of directory ends, and the change of permissions hears of it. -/
theorem Circles.step (circles : turn.Circles) (env : Env) :
    ((turn.step env).reply = .again ∧
      ∀ left, ((turn.step env).onward left turn.below).Circles) ∨
    ((turn.step env).reply ≠ .again ∧ (turn.step env).reply ≠ .wouldBlock ∧
      (turn.step env).desk.pending = none ∧ ∃ parent, turn.below = [parent] ∧
        ∀ budget, ((turn.step env).upward budget parent []).Circles) := by
  cases circles with
  | @starts request event alone top =>
      have step : turn.step env = ((⟨request, .start⟩ : ChmodTask).send
          { turn.desk with pending := none }).map Operation.chmod := by
        rw [Turn.step, event, top]
        rfl
      refine .inl ⟨by rw [step]; rfl, fun left => ?_⟩
      have asks : (turn.step env).desk.pending = some (.changeDir { path := request.path }) := by
        rw [step]
        exact Desk.request_pending _ _
      rw [Step.onward_of_asks asks, alone, step]
      exact .enters rfl rfl rfl
  | @enters request task event top under =>
      have step : turn.step env =
          (task.send { turn.desk with pending := none }).map Operation.changeDir := by
        rw [Turn.step, event, top]
        rfl
      have same : (turn.step env).operation =
          .changeDir (task.send { turn.desk with pending := none }).operation := by
        rw [step]
        rfl
      obtain ⟨wait, silent⟩ : (turn.step env).reply ≠ .wouldBlock ∧
          (turn.step env).desk.pending = none := by
        rw [step]
        exact Urging.changeDir_send task rfl
      by_cases again : (turn.step env).reply = .again
      · refine .inl ⟨again, fun left => ?_⟩
        rw [Step.onward_of_silent silent]
        exact .enters rfl same under
      · exact .inr ⟨again, wait, silent, _, under, fun budget => .learns rfl rfl rfl⟩
  | @learns request reply finished event alone top =>
      have step : turn.step env = Operation.returned reply finished
          (.chmod ⟨request, .entering⟩) { turn.desk with pending := none } := by
        rw [Turn.step, event, top]
        rfl
      refine .inl ⟨by rw [step]; rfl, fun left => ?_⟩
      have silent : (turn.step env).desk.pending = none := by
        rw [step]
        exact Operation.returned_asks ..
      rw [Step.onward_of_silent silent, alone, step]
      exact .sends rfl rfl rfl (.inl rfl)
  | @sends request progress event alone top ready =>
      obtain ⟨naming, step⟩ : ∃ naming, turn.step env =
          (((⟨request, progress⟩ : ChmodTask).mark .unknown { turn.desk with pending := none }).send
            (.chmod request.permission ⟨request.path, naming, request.file⟩)
            (⟨request, .waiting naming⟩ : ChmodTask)).map Operation.chmod := by
        rw [Turn.step, event, top]
        cases progress with
        | ready naming | waiting naming => exact ⟨naming, rfl⟩
        | start | entering => rcases ready with ready | ready <;> cases ready
      refine .inl ⟨by rw [step]; rfl, fun left => ?_⟩
      have silent : (turn.step env).desk.pending = none := by
        rw [step]
        exact Desk.tellCache_pending ..
      rw [Step.onward_of_silent silent, alone, step]
      exact .sends rfl rfl rfl (.inr rfl)

theorem Circles.next {env : Env} (circles : turn.Circles) (next : turn.next env = .inr after) :
    after.Circles := by
  rcases circles.step env with ⟨again, goes⟩ | ⟨stops, -, -, parent, under, hears⟩
  · rcases Step.next_eq_inr next with ⟨-, left, -, rfl⟩ | ⟨stops, -⟩
    · exact goes left
    · exact absurd again stops
  · rcases Step.next_eq_inr next with ⟨again, -⟩ | ⟨-, -, -, _, _, below, rfl⟩
    · exact absurd again stops
    · obtain ⟨rfl, rfl⟩ := List.cons.inj (under.symm.trans below)
      exact hears _

/-- Such a call ends only because no more steps are allowed. -/
theorem Circles.runsOut {env : Env} {turns : List (Turn Urging Operation)}
    {outcome : Outcome Urging Operation} (circles : turn.Circles)
    (through : Through env turn turns outcome) : RunsOut env turns := by
  induction through with
  | @last turn outcome ends =>
      refine ⟨turn, rfl, ?_⟩
      rcases circles.step env with ⟨again, -⟩ | ⟨stops, wait, silent, parent, under, -⟩
      · exact again
      · -- what ends above another operation is not the end of the call
        rw [Turn.next, under, Step.next_of_returns stops wait silent] at ends
        cases ends
  | more goes through ih => exact through.runsOut_cons.2 (ih (circles.next goes))

end Turn

namespace Engine

/-- The first attempt succeeds, and the engine is free for another command. -/
theorem exists_idle (valid : request.valid = true) (sftp : request.handle.protocol = .sftp)
    (settings : Settings) :
    ∃ engine : Engine Urging Operation,
      Run (.all Urging) (DriftsAsSet (.all Urging)) engine ∧ engine.settings = settings ∧
        engine.IsIdleOverSftp := by
  obtain ⟨engine, run, rfl, stack, session, -⟩ :=
    exists_dialing Urging.dialsLater (t := ⟨⟩) trivial valid settings
  have opened := opening_of_stack stack
  have made : engine.make .resume = _ := make_of_opening opened
  let turn := engine.resuming (.connect { request, stage := .connecting, attempts := 1 }) []
  have ended : turn.drive engine.env = finish .connect .ok (turn.step engine.env).noted :=
    Turn.drive_of_end Reply.again_ne_ok.symm Reply.ok_ne_wouldBlock rfl rfl
  refine ⟨_, run.call .resume fun _ _ => trivial, engine.resume_settings, ?_⟩
  rw [made, show (turn.drive engine.env) = _ from ended]
  refine ⟨rfl, rfl, request.handle, ?_, sftp⟩
  exact congrArg Session.server session

/-- Once connected, such a change of permissions begins. -/
theorem exists_circling (request : ConnectRequest) (valid : request.valid = true)
    (sftp : request.handle.protocol = .sftp) (settings : Settings) :
    ∃ (engine : Engine Urging Operation) (first : Turn Urging Operation),
      Run (.all Urging) (DriftsAsSet (.all Urging)) engine ∧ engine.settings = settings ∧
        engine.opening (.execute changing) = some first ∧ first.Circles := by
  obtain ⟨engine, run, same, idle⟩ := exists_idle valid sftp settings
  have accepted : engine.accept changing = .ok (.chmod { request := ⟨.root, "f", "644"⟩ }) :=
    accept_of_idle idle (by decide +kernel) (by rintro request ⟨⟩) rfl
  exact ⟨engine, _, run, same, opening_of_accepted accepted, .starts rfl rfl rfl⟩

/-- Over a transport that never tells an operation to go on, there is next to nothing to count. -/
theorem goings_le_three (answers : Transport.NeverGoesOn good) {engine : Engine τ Operation}
    (run : Run good (DriftsAsSet good) engine) {call : Call} {first : Turn τ Operation}
    {turns : List (Turn τ Operation)} {outcome : Outcome τ Operation}
    (may : engine.MayMake good call) (opened : engine.opening call = some first)
    (through : Turn.Through engine.env first turns outcome) :
    Turn.goings engine.env turns ≤ 3 := by
  have reachable : engine.Reachable good := run.mono fun _ _ drifts => drifts.toDrifts
  obtain ⟨last, -, -, most⟩ :=
    through.goings_le answers ((rests_of_reachable answers reachable).opening may opened)
  have start := first.strides_le
  split at most <;> omega

end Engine

/-! ## Which settings are safe -/

namespace Settings

variable {settings : Settings}

theorem countsAttempts (few : settings.connectRetries.toNat + 1 < UInt32.size)
    (promise : Transport.Promise) : settings.CountsAttempts promise := by
  intro τ _ good _ engine run same call turn takes
  exact Engine.attempt_counted run (same ▸ few) takes

theorem not_countsAttempts (valid : settings.validate = .ok ())
    (most : settings.connectRetries.toNat + 1 = UInt32.size) :
    ¬ settings.CountsAttempts Transport.Conforms := by
  intro counts
  obtain ⟨engine, turn, run, same, takes, event, top⟩ :=
    Engine.exists_wrapping (.ofServer Engine.stage {}) (by decide +kernel) rfl
      (maxContinue_pos valid) most
  obtain ⟨after, -, counted⟩ :=
    counts Scripted _ Engine.isLater_conforms engine run same .resume turn takes _ event top rfl
  have small := after.attempts.toNat_lt
  rw [counted] at small
  exact absurd small (by decide)

theorem countsGoings (few : settings.maxContinue.toNat + 1 < UInt32.size)
    (promise : Transport.Promise) : settings.CountsGoings promise := by
  intro τ _ good _ engine run same call first turns outcome _ opened through
  exact (Engine.goings_le_succ opened through).trans_lt (same ▸ few)

theorem not_countsGoings (most : settings.maxContinue.toNat + 1 = UInt32.size) :
    ¬ settings.CountsGoings Transport.Promise.nothing := by
  intro counts
  obtain ⟨engine, first, run, same, opened, circles⟩ :=
    Engine.exists_circling (.ofServer Engine.stage {}) (by decide +kernel) rfl settings
  obtain ⟨turns, outcome, through⟩ := Turn.Through.exists_turns engine.env first
  have few := counts Urging _ trivial engine run same _ first turns outcome
    (Engine.mayMake_execute _) opened through
  rw [through.goings_eq.1 (circles.runsOut through), Engine.opening_budget opened, same, most]
    at few
  exact lt_irrefl _ few

theorem countsGoings_of_neverGoesOn (settings : Settings) :
    settings.CountsGoings Transport.NeverGoesOn := by
  intro τ _ good answers engine run same call first turns outcome may opened through
  exact (Engine.goings_le_three answers run may opened through).trans_lt (by decide)

/-- A limit that is not the largest number of 32 bits leaves room for one more. -/
theorem few_or_most (limit : UInt32) :
    limit.toNat + 1 < UInt32.size ∨ limit.toNat + 1 = UInt32.size :=
  Nat.lt_or_eq_of_le limit.toNat_lt

/-- Of settings that pass, those are safe whose limits are not the largest number of 32 bits. For
attempts this makes no difference between transports: under the largest limit their number wraps
around even over one that keeps to its contract. The steps that go on without waiting become too
many to be counted only over a transport that tells operations to go on. -/
theorem counters_suffice_iff (valid : settings.validate = .ok ()) :
    (settings.CountsAttempts Transport.Promise.nothing ↔
      settings.connectRetries.toNat + 1 < UInt32.size) ∧
    (settings.CountsAttempts Transport.Conforms ↔
      settings.connectRetries.toNat + 1 < UInt32.size) ∧
    (settings.CountsGoings Transport.Promise.nothing ↔
      settings.maxContinue.toNat + 1 < UInt32.size) ∧
    settings.CountsGoings Transport.NeverGoesOn := by
  have needed : settings.CountsAttempts Transport.Conforms →
      settings.connectRetries.toNat + 1 < UInt32.size := fun counts =>
    (few_or_most _).resolve_right fun most => not_countsAttempts valid most counts
  refine ⟨⟨?_, fun few => countsAttempts few _⟩, ⟨needed, fun few => countsAttempts few _⟩,
    ⟨?_, fun few => countsGoings few _⟩, countsGoings_of_neverGoesOn settings⟩
  · intro counts
    exact needed fun τ _ good _ => counts τ good trivial
  · intro counts
    exact (few_or_most _).resolve_right fun most => not_countsGoings most counts

/-- The largest limit on retries, and the limit on steps that everybody starts with: the number of
attempts wraps around, that of the steps does not. -/
theorem counters_suffice_iff_greedy :
    let settings := { Settings.default with connectRetries := 4294967295 }
    settings.validate = .ok () ∧ ¬ settings.CountsAttempts Transport.Conforms ∧
      settings.CountsGoings Transport.Promise.nothing := by
  intro settings
  have valid : settings.validate = .ok () := by decide +kernel
  obtain ⟨-, attempts, goings, -⟩ := counters_suffice_iff valid
  exact ⟨valid, mt attempts.1 (by decide +kernel), goings.2 (by decide +kernel)⟩

/-- Both numbers overflow under settings that pass: the attempts over a transport that keeps to its
contract, the steps that go on without waiting over one that tells operations to go on. -/
theorem counters_overflow :
    let settings :=
      { Settings.default with connectRetries := 4294967295, maxContinue := 4294967295 }
    let request := ConnectRequest.ofServer Engine.stage {}
    settings.validate = .ok () ∧
    (Transport.Conforms (Engine.IsLater : Transport.States Scripted) ∧
      ∃ (engine : Engine Scripted Operation) (turn : Turn Scripted Operation),
        Engine.Run Engine.IsLater (Engine.DriftsAsSet Engine.IsLater) engine ∧
        engine.settings = settings ∧ engine.Takes .resume turn ∧
        turn.event = .send ∧ turn.top = .connect { request, attempts := 4294967295 } ∧
        (turn.step engine.env).operation =
          .connect { request, stage := .connecting, attempts := 0 }) ∧
    ∃ (engine : Engine Urging Operation) (first : Turn Urging Operation)
        (turns : List (Turn Urging Operation)) (outcome : Outcome Urging Operation),
      Engine.Run (.all Urging) (Engine.DriftsAsSet (.all Urging)) engine ∧
      engine.settings = settings ∧ engine.opening (.execute Engine.changing) = some first ∧
      Turn.Through engine.env first turns outcome ∧
      Turn.goings engine.env turns = UInt32.size := by
  intro settings request
  have valid : settings.validate = .ok () := by decide +kernel
  have offered : request.valid = true := by decide +kernel
  refine ⟨valid, ⟨Engine.isLater_conforms, ?_⟩, ?_⟩
  · obtain ⟨engine, turn, run, same, takes, event, top⟩ :=
      Engine.exists_wrapping request offered rfl (maxContinue_pos valid)
        (show settings.connectRetries.toNat + 1 = UInt32.size by decide +kernel)
    have wraps : (4294967295 : UInt32) + 1 = 0 := by decide
    refine ⟨engine, turn, run, same, takes, event, top, ?_⟩
    rw [Turn.step_attempts event top rfl]
    simp only [wraps]
  · obtain ⟨engine, first, run, same, opened, circles⟩ :=
      Engine.exists_circling request offered rfl settings
    obtain ⟨turns, outcome, through⟩ := Turn.Through.exists_turns engine.env first
    refine ⟨engine, first, turns, outcome, run, same, opened, through, ?_⟩
    rw [through.goings_eq.1 (circles.runsOut through), Engine.opening_budget opened, same]
    rfl

end Settings

end Courier
