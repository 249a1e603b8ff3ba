import Courier.Proofs.Course
import Courier.Proofs.Deferring
import Mathlib.Data.List.Flatten
import Mathlib.Order.Bounds.Basic

/-!
# How often a connection is dialed

A command to connect makes one attempt after the other, with a wait of the same length between any
two, until an attempt succeeds, is rejected, fails critically or was the last one allowed. So the
results of the attempts alone decide how many there are and what the command replies.

Attempts are counted from zero: after attempt number `round` as many others were made before it.
-/

namespace Courier

/-! ## The attempts and what they come to -/

/-- An attempt with this result is the last, if so many may follow the first. -/
def Reply.IsLast (limit round : Nat) (result : Reply) : Prop :=
  result = .ok ∨ result.contains .passwordFailed = true ∨ result.isCritical = true ∨ round = limit

/-- What a command to connect makes of the result of its last attempt. -/
def Reply.ofLast (result : Reply) : Reply :=
  if result = .ok then .ok
  else if result.contains .passwordFailed then .critical ||| .passwordFailed
  else result

/-- The command ends with an outcome if the attempt did. -/
theorem Reply.ofLast_ne {result : Reply} (wait : result ≠ .wouldBlock) (again : result ≠ .again) :
    result.ofLast ≠ .wouldBlock ∧ result.ofLast ≠ .again := by
  unfold ofLast
  split
  · exact ⟨by decide, by decide⟩
  · split
    · exact ⟨by decide, by decide⟩
    · exact ⟨wait, again⟩

namespace ConnectRequest

/-- How many attempts may follow the first. -/
def retries (request : ConnectRequest) (settings : Settings) : Nat :=
  if request.retry then settings.connectRetries.toNat else 0

/-- So many attempts, each with a wait after it. -/
def rounds (request : ConnectRequest) (seconds count : Nat) : List Request :=
  (List.replicate count [.connect request.server request.credentials, .wakeUp seconds]).flatten

/-- All attempts up to attempt number `last`, with the waits between them. -/
def dialed (request : ConnectRequest) (seconds last : Nat) : List Request :=
  request.rounds seconds last ++ [.connect request.server request.credentials]

variable (request : ConnectRequest) (seconds round : Nat)

theorem rounds_succ : request.rounds seconds (round + 1) =
    request.dialed seconds round ++ [.wakeUp seconds] := by
  simp [rounds, dialed, List.replicate_succ']

theorem length_rounds : (request.rounds seconds round).length = 2 * round := by
  simp [rounds, Nat.mul_comm]

theorem length_dialed : (request.dialed seconds round).length = 2 * round + 1 := by
  simp [dialed, length_rounds]

theorem dialed_prefix {round last : Nat} (early : round ≤ last) :
    request.dialed seconds round <+: request.dialed seconds last := by
  induction last, early using Nat.le_induction with
  | base => exact List.prefix_rfl
  | succ last _ ih =>
      rw [dialed.eq_1 request seconds (last + 1), rounds_succ, List.append_assoc]
      exact ih.trans (List.prefix_append _ _)

theorem rounds_prefix {round last : Nat} (early : round < last) :
    request.rounds seconds (round + 1) <+: request.dialed seconds last :=
  (List.prefix_append _ _).trans (request.dialed_prefix seconds early)

end ConnectRequest

/-- The first reports to a command whose attempts come to `result` and whose waits are all over in
time. -/
def reported (result : Nat → Reply) (count : Nat) : List Reply :=
  (List.range count).map fun index => if index % 2 = 0 then result (index / 2) else .ok

theorem reported_succ (result : Nat → Reply) (count : Nat) :
    reported result (count + 1) = reported result count ++
      [if count % 2 = 0 then result (count / 2) else .ok] := by
  simp [reported, List.range_succ]

theorem length_reported (result : Nat → Reply) (count : Nat) :
    (reported result count).length = count := by
  simp [reported]

/-- From `origin` to `past` the transport was asked for this, in this order. -/
def Asked (origin past : List Happening) (asked : List Request) : Prop :=
  ∃ since, past = since ++ origin ∧ (requests since).reverse = asked

namespace Asked

variable {origin past : List Happening} {asked : List Request}

theorem nothing (origin : List Happening) : Asked origin origin [] := ⟨[], rfl, rfl⟩

theorem silent (before : Asked origin past asked) (silence : List Happening)
    (nothing : requests silence = []) : Asked origin (silence ++ past) asked := by
  obtain ⟨since, rfl, rfl⟩ := before
  refine ⟨silence ++ since, (List.append_assoc _ _ _).symm, ?_⟩
  rw [requests, List.filterMap_append, ← requests, ← requests, nothing, List.nil_append]

theorem more (before : Asked origin past asked) {happening : Happening} {request : Request}
    (is : happening.request? = some request) :
    Asked origin (happening :: past) (asked ++ [request]) := by
  obtain ⟨since, rfl, rfl⟩ := before
  refine ⟨happening :: since, rfl, ?_⟩
  rw [requests, List.filterMap_cons_some is, List.reverse_cons]
  rfl

end Asked

/-! ## Where the command stands -/

/-- A transport that connects and wakes up later, and reports outcomes. -/
structure Transport.DialsLater {τ : Type} [Transport τ] (good : Transport.States τ) : Prop where
  connect : ∀ t server credentials, good t →
    (Transport.connect t server credentials).1 = .wouldBlock ∧
      good (Transport.connect t server credentials).2
  wakeUp : ∀ t seconds, good t →
    (Transport.wakeUp t seconds).1 = .wouldBlock ∧ good (Transport.wakeUp t seconds).2
  result : ∀ t, good t → good.reports t →
    Transport.result t ≠ .wouldBlock ∧ Transport.result t ≠ .again

/-- After so many reports as expected, the reply, the operations and what was asked so far. -/
inductive ConnectRequest.Stands (request : ConnectRequest) (seconds : Nat) (result : Nat → Reply)
    (last : Nat) : Nat → Reply → List Operation → List Request → Prop
  | dialing {round : Nat} (early : round ≤ last) :
      Stands request seconds result last (2 * round) .wouldBlock
        [.connect { request, stage := .connecting, attempts := .ofNat (round + 1) }]
        (request.dialed seconds round)
  | pausing {round : Nat} (early : round < last) :
      Stands request seconds result last (2 * round + 1) .wouldBlock
        [.sleep { seconds, waiting := true },
          .connect { request, stage := .retryWait, attempts := .ofNat (round + 1) }]
        (request.rounds seconds (round + 1))
  | settled (outcome : (result last).ofLast ≠ .wouldBlock) :
      Stands request seconds result last (2 * last + 1) (result last).ofLast []
        (request.dialed seconds last)

variable {τ : Type} [Transport τ] {good : Transport.States τ} {request : ConnectRequest}
  {seconds : Nat} {result : Nat → Reply} {last round : Nat} {origin : List Happening} {env : Env}

/-- What a call of the command comes to, when so many reports were made as expected. -/
def Outcome.Redials (request : ConnectRequest) (seconds : Nat) (result : Nat → Reply) (last : Nat)
    (origin : List Happening) (count : Nat) (outcome : Outcome τ Operation) : Prop :=
  ∃ asked, request.Stands seconds result last count outcome.reply outcome.stack asked ∧
    Asked origin outcome.desk.past asked

/-! ## The calls -/

section Steps

variable {reply : Reply} {desk : Desk τ Operation}

omit [Transport τ] in
/-- The attempt is final by the count exactly if it is the last one allowed. -/
theorem ConnectTask.isFinal_iff (early : round ≤ request.retries env.settings)
    (few : env.settings.connectRetries.toNat + 1 < UInt32.size) :
    ConnectTask.isFinal env { request, stage := .connecting, attempts := .ofNat (round + 1) }
      reply = true ↔ reply.isCritical = true ∨ round = request.retries env.settings := by
  have small : round + 1 < UInt32.size := by
    have most : request.retries env.settings ≤ env.settings.connectRetries.toNat := by
      unfold ConnectRequest.retries
      split <;> simp
    omega
  unfold ConnectRequest.retries at early ⊢
  simp only [isFinal, Bool.or_eq_true, decide_eq_true_eq, UInt32.lt_iff_toNat_lt,
    UInt32.toNat_ofNat_of_lt' small, or_assoc]
  refine or_congr_right ?_
  by_cases retry : request.retry = true
  · rw [if_pos retry] at early ⊢
    simp only [retry, Bool.not_true, Bool.false_eq_true, false_or]
    omega
  · rw [if_neg retry] at early ⊢
    simp only [retry, Bool.not_false, true_or, true_iff]
    omega

/-- After the last attempt the command ends. -/
theorem ConnectTask.completed_last (early : round ≤ request.retries env.settings)
    (few : env.settings.connectRetries.toNat + 1 < UInt32.size)
    (is : desk.result.IsLast (request.retries env.settings) round) :
    let step := ConnectTask.completed env
      { request, stage := .connecting, attempts := .ofNat (round + 1) } desk
    step.reply = desk.result.ofLast ∧ step.desk.pending = desk.pending ∧
      step.desk.past = desk.past := by
  unfold ConnectTask.completed Reply.ofLast
  simp only
  by_cases ok : desk.result = .ok
  · simp only [if_pos ok]
    exact ⟨rfl, rfl, rfl⟩
  by_cases rejected : desk.result.contains .passwordFailed = true
  · simp only [if_neg ok, if_pos rejected]
    exact ⟨rfl, rfl, rfl⟩
  have final := (ConnectTask.isFinal_iff early few).2 ((is.resolve_left ok).resolve_left rejected)
  simp only [if_neg ok, if_neg rejected, if_pos final]
  exact ⟨rfl, rfl, rfl⟩

/-- After any other a wait begins. -/
theorem ConnectTask.completed_further (early : round ≤ request.retries env.settings)
    (few : env.settings.connectRetries.toNat + 1 < UInt32.size)
    (further : ¬ desk.result.IsLast (request.retries env.settings) round) :
    let step := ConnectTask.completed env
      { request, stage := .connecting, attempts := .ofNat (round + 1) } desk
    step.reply = .again ∧
      step.operation = { request, stage := .retryWait, attempts := .ofNat (round + 1) } ∧
      step.desk.pending = some (.sleep { seconds := env.settings.retryDelay.toNat }) ∧
      step.desk.past = desk.past ∧ step.desk.transport = desk.transport := by
  obtain ⟨ok, rejected, open_⟩ : desk.result ≠ .ok ∧
      desk.result.contains .passwordFailed ≠ true ∧
      ¬ (desk.result.isCritical = true ∨ round = request.retries env.settings) := by
    simpa only [Reply.IsLast, not_or] using further
  have open_ := mt (ConnectTask.isFinal_iff early few).1 open_
  unfold ConnectTask.completed
  simp only [if_neg ok, if_neg rejected, if_neg open_]
  exact ⟨rfl, rfl, Desk.request_pending _ _, Desk.request_past _ _, Desk.request_transport _ _⟩

end Steps

omit [Transport τ] in
/-- A call in which the command ends. -/
theorem Outcome.Redials.of_finish {desk : Desk τ Operation} {kind : CommandKind} {reply : Reply}
    {asked : List Request} (is : reply = (result last).ofLast) (wait : reply ≠ .wouldBlock)
    (asks : Asked origin desk.past asked) (all : asked = request.dialed seconds last) :
    (finish kind reply desk).Redials request seconds result last origin (2 * last + 1) := by
  obtain ⟨text, finished⟩ := finish_eq kind reply desk
  subst all is
  rw [finished]
  exact ⟨_, .settled wait, asks⟩

namespace Turn

variable {turn : Turn τ Operation}

/-- An attempt is made. -/
theorem drive_dials (later : Transport.DialsLater good) (transport : good turn.desk.transport)
    (event : turn.event = .send) (alone : turn.below = [])
    (top : turn.top = .connect { request, attempts := .ofNat round }) (early : round ≤ last)
    (asked : Asked origin turn.desk.past (request.rounds seconds round)) :
    (turn.drive env).Redials request seconds result last origin (2 * round) := by
  have step : turn.step env = (ConnectTask.send { request, attempts := .ofNat round }
      { turn.desk with pending := none }).map Operation.connect := by
    rw [Turn.step, event, top]
    rfl
  have wait : (turn.step env).reply = .wouldBlock := by
    rw [step]
    exact (later.connect _ _ _ transport).1
  rw [drive_of_waits wait (by rw [step]; rfl), alone, step]
  refine ⟨request.dialed seconds round, ?_, asked.more rfl⟩
  show request.Stands seconds result last (2 * round) .wouldBlock
    [.connect { request, stage := .connecting, attempts := .ofNat round + 1 }] _
  rw [show UInt32.ofNat round + 1 = .ofNat (round + 1) from (UInt32.ofNat_add round 1).symm]
  exact .dialing early

/-- The wait between two attempts begins. -/
theorem drive_pauses (later : Transport.DialsLater good) (transport : good turn.desk.transport)
    (event : turn.event = .send) (top : turn.top = .sleep { seconds })
    (under : turn.below =
      [.connect { request, stage := .retryWait, attempts := .ofNat (round + 1) }])
    (early : round < last) (asked : Asked origin turn.desk.past (request.dialed seconds round)) :
    (turn.drive env).Redials request seconds result last origin (2 * round + 1) := by
  have step : turn.step env =
      (SleepTask.send { seconds } { turn.desk with pending := none }).map Operation.sleep := by
    rw [Turn.step, event, top]
    rfl
  have wait : (turn.step env).reply = .wouldBlock := by
    rw [step]
    exact (later.wakeUp _ seconds transport).1
  rw [drive_of_waits wait (by rw [step]; rfl), under, step]
  refine ⟨request.rounds seconds (round + 1), .pausing early, ?_⟩
  rw [ConnectRequest.rounds_succ]
  exact asked.more rfl

/-- The result of an attempt is reported: it was the last one, or a wait begins. -/
theorem drive_answered (later : Transport.DialsLater good) (transport : good turn.desk.transport)
    (outcome : turn.desk.result ≠ .wouldBlock ∧ turn.desk.result ≠ .again)
    (event : turn.event = .completed) (alone : turn.below = [])
    (top : turn.top = .connect { request, stage := .connecting, attempts := .ofNat (round + 1) })
    (steps : 1 ≤ turn.budget) (told : turn.desk.result = result round) (early : round ≤ last)
    (few : env.settings.connectRetries.toNat + 1 < UInt32.size)
    (delay : env.settings.retryDelay.toNat = seconds)
    (least : IsLeast {round | (result round).IsLast (request.retries env.settings) round} last)
    (asked : Asked origin turn.desk.past (request.dialed seconds round)) :
    (turn.drive env).Redials request seconds result last origin (2 * round + 1) := by
  let desk : Desk τ Operation := { turn.desk with pending := none }
  have told : desk.result = result round := told
  have allowed : round ≤ request.retries env.settings :=
    early.trans (least.2 (.inr (.inr (.inr rfl))))
  have step : turn.step env = (ConnectTask.completed env
      { request, stage := .connecting, attempts := .ofNat (round + 1) } desk).map
      Operation.connect := by
    rw [Turn.step, event, top]
    rfl
  by_cases is : desk.result.IsLast (request.retries env.settings) round
  · -- no attempt follows
    obtain ⟨reply, silent, past⟩ := ConnectTask.completed_last allowed few is
    rw [told] at is reply
    obtain rfl : round = last := le_antisymm early (least.2 is)
    have stops := Reply.ofLast_ne outcome.1 outcome.2
    rw [show turn.desk.result = result round from told] at stops
    have ends : (turn.step env).reply = (result round).ofLast := by
      rw [step]
      exact reply
    rw [drive_of_end (ends ▸ stops.2) (ends ▸ stops.1) (by rw [step]; exact silent) alone]
    refine .of_finish ends (ends ▸ stops.1) ?_ rfl
    rw [step]
    exact past ▸ asked
  · obtain ⟨again, operation, asks, past, same⟩ := ConnectTask.completed_further allowed few is
    rw [told] at is
    have further : round < last := by
      refine lt_of_le_of_ne early ?_
      rintro rfl
      exact is least.1
    obtain ⟨left, budget⟩ := Nat.exists_eq_succ_of_ne_zero (Nat.one_le_iff_ne_zero.1 steps)
    rw [drive_of_again (by rw [step]; exact again) budget,
      Step.onward_of_asks (by rw [step]; exact asks), delay, alone]
    refine drive_pauses later ?_ rfl rfl ?_ further ?_
    · rw [step]
      exact same.symm ▸ transport
    · rw [step]
      exact congrArg (fun task => [Operation.connect task]) operation
    · rw [step]
      exact past.symm ▸ asked

/-- The wait is over, which the attempts are told. -/
theorem drive_wakes (env : Env)
    (outcome : turn.desk.result ≠ .wouldBlock ∧ turn.desk.result ≠ .again)
    (event : turn.event = .completed) (top : turn.top = .sleep { seconds, waiting := true })
    {task : ConnectTask} (under : turn.below = [.connect task]) :
    ∃ after : Turn τ Operation, turn.drive env = after.drive env ∧
      after.step env = (ConnectTask.returned turn.desk.result
        (.sleep { seconds, waiting := true }) task { after.desk with pending := none }).map
        Operation.connect ∧
      after.budget = turn.budget ∧ after.below = [] ∧
      after.desk.past = turn.desk.past ∧ after.desk.transport = turn.desk.transport := by
  have step : turn.step env = (SleepTask.completed { seconds, waiting := true }
      { turn.desk with pending := none }).map Operation.sleep := by
    rw [Turn.step, event, top]
    rfl
  have again : (turn.step env).reply ≠ .again := step ▸ outcome.2
  have wait : (turn.step env).reply ≠ .wouldBlock := step ▸ outcome.1
  have silent : (turn.step env).desk.pending = none := by
    rw [step]
    rfl
  refine ⟨_, drive_of_returns again wait silent under, ?_, rfl, rfl, ?_, ?_⟩
  · rw [step]
    rfl
  · rw [step]
    rfl
  · rw [step]
    rfl

/-- If it is over in time, the next attempt is made. -/
theorem drive_redials (later : Transport.DialsLater good) (transport : good turn.desk.transport)
    (outcome : turn.desk.result ≠ .wouldBlock ∧ turn.desk.result ≠ .again)
    (event : turn.event = .completed) (top : turn.top = .sleep { seconds, waiting := true })
    (under : turn.below =
      [.connect { request, stage := .retryWait, attempts := .ofNat (round + 1) }])
    (steps : 1 ≤ turn.budget) (ok : turn.desk.result = .ok) (early : round < last)
    (asked : Asked origin turn.desk.past (request.rounds seconds (round + 1))) :
    (turn.drive env).Redials request seconds result last origin (2 * (round + 1)) := by
  obtain ⟨after, driven, step, budget, alone, past, same⟩ :=
    drive_wakes env outcome event top under
  obtain ⟨left, spare⟩ := Nat.exists_eq_succ_of_ne_zero (Nat.one_le_iff_ne_zero.1 steps)
  rw [ok] at step
  have again : (after.step env).reply = .again := step ▸ rfl
  have silent : (after.step env).desk.pending = none := by
    rw [step]
    rfl
  rw [driven, drive_of_again again (budget.trans spare), Step.onward_of_silent silent, alone]
  refine drive_dials later ?_ rfl rfl ?_ early ?_
  · rw [step]
    exact same.symm ▸ transport
  · rw [step]
    rfl
  · rw [step]
    exact past.symm ▸ asked

/-- If it is not, the command ends with what the wait came to. -/
theorem drive_woken
    (outcome : turn.desk.result ≠ .wouldBlock ∧ turn.desk.result ≠ .again)
    (event : turn.event = .completed) (top : turn.top = .sleep { seconds, waiting := true })
    (under : turn.below =
      [.connect { request, stage := .retryWait, attempts := .ofNat (round + 1) }])
    (failed : turn.desk.result ≠ .ok) :
    (turn.drive env).reply = turn.desk.result ∧ (turn.drive env).stack = [] ∧
      (turn.drive env).desk.past = turn.desk.past := by
  obtain ⟨after, driven, step, -, alone, past, -⟩ :=
    drive_wakes env outcome event top under
  have ends : (after.step env).reply = turn.desk.result ∧
      (after.step env).desk.pending = none ∧
      (after.step env).desk.past = after.desk.past := by
    rw [step]
    unfold ConnectTask.returned
    rw [if_pos ⟨rfl, rfl⟩, if_neg failed]
    exact ⟨rfl, rfl, rfl⟩
  obtain ⟨reply, silent, kept⟩ := ends
  rw [driven, drive_of_end (reply ▸ outcome.2) (reply ▸ outcome.1) silent alone]
  obtain ⟨text, finished⟩ := finish_eq (HasKind.kind (after.step env).operation)
    (after.step env).reply (after.step env).noted
  rw [finished]
  exact ⟨reply, rfl, kept.trans past⟩

end Turn

/-! ## Over the course of the command -/

namespace Engine

variable {start engine : Engine τ Operation} {reports : List (Reply × Local.Store)}
  {reply : Reply}

/-- Between two calls only the transport acts, which is done with the request, the settings for
retries stay as they are, and a step without waiting is allowed. -/
structure DriftsBetweenAttempts (good : Transport.States τ) (engine after : Engine τ Operation) :
    Prop where
  drifts : engine.Completes good after
  retries : after.settings.connectRetries = engine.settings.connectRetries
  delay : after.settings.retryDelay = engine.settings.retryDelay
  steps : 1 ≤ after.settings.maxContinue.toNat

variable {after : Engine τ Operation} {count : Nat}

omit [Transport τ] in
/-- Nothing is asked of the transport while it is waited for. -/
theorem DriftsBetweenAttempts.asked {asked : List Request}
    (drifts : engine.DriftsBetweenAttempts good after)
    (before : Asked origin engine.desk.past asked) (result : Reply) :
    Asked origin (.completed result :: after.desk.past) asked := by
  obtain ⟨waits, all, past⟩ := drifts.drifts.past
  rw [past]
  refine before.silent (.completed result :: waits) ?_
  refine List.filterMap_eq_nil_iff.2 ?_
  intro happening mem
  rcases List.mem_cons.1 mem with rfl | mem
  · rfl
  · have wait := all happening mem
    cases happening <;> first | rfl | cases wait

omit [Transport τ] in
/-- No operation of the command has a local end. -/
theorem DriftsBetweenAttempts.stack {asked : List Request}
    (drifts : engine.DriftsBetweenAttempts good after)
    (stands : request.Stands seconds result last count .wouldBlock engine.stack asked) :
    after.stack = engine.stack := by
  refine drifts.drifts.same_stack ?_
  generalize engine.stack = stack, Reply.wouldBlock = reply at stands
  cases stands <;> simp [Behaviour.channel?, Operation.channel?]

/-- No call changes the settings. -/
theorem resume_settings (engine : Engine τ Operation) :
    engine.resume.2.settings = engine.settings := by
  unfold resume
  split <;> rfl

/-- With the report that is expected next the command goes on. -/
theorem resume_redials (later : Transport.DialsLater good)
    (stands : Outcome.Redials request after.settings.retryDelay.toNat result last origin count
      ⟨.wouldBlock, engine.desk, engine.stack⟩)
    (drifts : engine.DriftsBetweenAttempts good after)
    (few : after.settings.connectRetries.toNat + 1 < UInt32.size)
    (least : IsLeast {round | (result round).IsLast (request.retries after.settings) round} last)
    (told : after.desk.result = if count % 2 = 0 then result (count / 2) else .ok) :
    Outcome.Redials request after.settings.retryDelay.toNat result last origin (count + 1)
      ⟨after.resume.1, after.resume.2.desk, after.resume.2.stack⟩ := by
  obtain ⟨asked, stands, asks⟩ := stands
  have same := drifts.stack stands
  have asks := drifts.asked asks after.desk.result
  have transport := drifts.drifts.transport
  have outcome := later.result _ transport drifts.drifts.reported
  generalize wait : Reply.wouldBlock = reply, is : engine.stack = stack at stands
  rw [is] at same
  cases stands with
  | @dialing round early =>
      have told : after.desk.result = result round := by
        rw [told, if_pos (Nat.mul_mod_right 2 round), Nat.mul_div_cancel_left round Nat.two_pos]
      rw [show after.resume = _ from make_of_opening (opening_of_stack same)]
      exact Turn.drive_answered later transport outcome rfl rfl rfl drifts.steps told early few
        rfl least asks
  | @pausing round early =>
      have told : after.desk.result = .ok := by
        rw [told, if_neg (by omega)]
      rw [show after.resume = _ from make_of_opening (opening_of_stack same)]
      exact Turn.drive_redials later transport outcome rfl rfl rfl drifts.steps told early asks
  | settled outcome => exact absurd wait.symm outcome

/-- If a wait is not over in time, the command ends. -/
theorem resume_woken (later : Transport.DialsLater good)
    (stands : Outcome.Redials request seconds result last origin (2 * round + 1)
      ⟨.wouldBlock, engine.desk, engine.stack⟩)
    (drifts : engine.DriftsBetweenAttempts good after) (failed : after.desk.result ≠ .ok) :
    after.resume.1 = after.desk.result ∧ after.resume.2.stack = [] ∧ round < last ∧
      Asked origin after.resume.2.desk.past (request.rounds seconds (round + 1)) := by
  obtain ⟨asked, stands, asks⟩ := stands
  have same := drifts.stack stands
  have asks := drifts.asked asks after.desk.result
  have transport := drifts.drifts.transport
  have outcome := later.result _ transport drifts.drifts.reported
  generalize wait : Reply.wouldBlock = reply, is : engine.stack = stack,
    odd : 2 * round + 1 = count at stands
  rw [is] at same
  cases stands with
  | dialing early => omega
  | @pausing other early =>
      obtain rfl : other = round := by omega
      rw [show after.resume = _ from make_of_opening (opening_of_stack same)]
      let turn := after.resuming (.sleep { seconds, waiting := true })
        [.connect { request, stage := .retryWait, attempts := .ofNat (other + 1) }]
      have failed : turn.desk.result ≠ .ok := failed
      have outcome : turn.desk.result ≠ .wouldBlock ∧ turn.desk.result ≠ .again := outcome
      obtain ⟨reply, idle, past⟩ := Turn.drive_woken outcome rfl rfl rfl failed
      exact ⟨reply, idle, early, past ▸ asks⟩
  | settled outcome => exact absurd wait.symm outcome

/-- As long as the reports are as expected, the command stands where they say. -/
theorem course_redials (later : Transport.DialsLater good) (transport : good start.desk.transport)
    {operation : Operation} (accepted : start.accept (.connect request) = .ok operation)
    (few : start.settings.connectRetries.toNat + 1 < UInt32.size)
    (least : IsLeast {round | (result round).IsLast (request.retries start.settings) round} last)
    (course : start.Course (DriftsBetweenAttempts good) (.connect request) reports reply engine) :
    engine.settings.connectRetries = start.settings.connectRetries ∧
      engine.settings.retryDelay = start.settings.retryDelay ∧
      ∀ count, reports.map Prod.fst = reported result count →
        Outcome.Redials request start.settings.retryDelay.toNat result last start.desk.past count
          ⟨reply, engine.desk, engine.stack⟩ := by
  induction course with
  | execute =>
      obtain ⟨-, -, protocol, -, offered⟩ := accept_eq_ok accepted
      obtain rfl : Operation.connect { request } = operation := Option.some.inj offered
      rw [show start.execute (.connect request) = _ from
        make_of_opening (opening_of_accepted accepted)]
      refine ⟨rfl, rfl, ?_⟩
      intro count heard
      obtain rfl : 0 = count := by
        simpa [length_reported] using congrArg List.length heard
      refine Turn.drive_dials later ?_ rfl rfl rfl (Nat.zero_le last) ?_
      · exact transport
      · exact (Asked.nothing _).silent [.started _] rfl
  | @resume reports engine after course drifts ih =>
      obtain ⟨retries, delay, stands⟩ := ih
      have retries := drifts.retries.trans retries
      have delay := drifts.delay.trans delay
      rw [after.resume_settings]
      refine ⟨retries, delay, ?_⟩
      intro count heard
      obtain ⟨count, rfl⟩ : ∃ before, count = before + 1 := by
        have length := congrArg List.length heard
        simp only [List.map_append, List.length_append, length_reported] at length
        exact ⟨_, length.symm⟩
      rw [List.map_append, reported_succ] at heard
      obtain ⟨heard, told⟩ := List.append_inj' heard rfl
      have stands := stands count heard
      rw [← delay] at stands ⊢
      have limit : request.retries after.settings = request.retries start.settings := by
        rw [ConnectRequest.retries, retries]
        rfl
      exact resume_redials later stands drifts (retries ▸ few) (limit ▸ least)
        (List.singleton_inj.1 told)

/-- A command to connect makes attempts up to the first one that succeeds, is rejected, fails
critically or is the last one allowed, with one wait between any two, and ends with what it makes of
the result of that one. If a wait is not over in time, the command ends with what it came to, and no
attempt follows. -/
theorem connect_redials (later : Transport.DialsLater good) (transport : good start.desk.transport)
    {operation : Operation} (accepted : start.accept (.connect request) = .ok operation)
    (few : start.settings.connectRetries.toNat + 1 < UInt32.size)
    (least : IsLeast {round | (result round).IsLast (request.retries start.settings) round} last)
    (course : start.Course (DriftsBetweenAttempts good) (.connect request) reports reply engine) :
    (∀ count, reports.map Prod.fst = reported result count →
      (reply = .wouldBlock → count < 2 * last + 1 ∧ ∃ asked,
        asked <+: request.dialed start.settings.retryDelay.toNat last ∧ asked.length = count + 1 ∧
          Asked start.desk.past engine.desk.past asked) ∧
      (reply ≠ .wouldBlock → count = 2 * last + 1 ∧ reply = (result last).ofLast ∧
        engine.stack = [] ∧
        Asked start.desk.past engine.desk.past
          (request.dialed start.settings.retryDelay.toNat last))) ∧
    ∀ round waited, waited ≠ .ok →
      reports.map Prod.fst = reported result (2 * round + 1) ++ [waited] →
      reply = waited ∧ engine.stack = [] ∧ round < last ∧
        Asked start.desk.past engine.desk.past
          (request.rounds start.settings.retryDelay.toNat (round + 1)) := by
  constructor
  · intro count heard
    obtain ⟨-, -, stands⟩ := course_redials later transport accepted few least course
    obtain ⟨asked, stands, asks⟩ := stands count heard
    change request.Stands _ result last count reply engine.stack asked at stands
    generalize engine.stack = stack at stands
    cases stands with
    | dialing early =>
        refine ⟨fun _ => ⟨by omega, _, request.dialed_prefix _ early, ?_, asks⟩,
          fun ends => absurd rfl ends⟩
        exact request.length_dialed _ _
    | pausing early =>
        refine ⟨fun _ => ⟨by omega, _, request.rounds_prefix _ early, ?_, asks⟩,
          fun ends => absurd rfl ends⟩
        exact request.length_rounds _ _
    | settled outcome => exact ⟨fun wait => absurd wait outcome, fun _ => ⟨rfl, rfl, rfl, asks⟩⟩
  · intro round waited failed heard
    cases course with
    | execute =>
        have length := congrArg List.length heard
        simp at length
    | @resume reports before after course drifts =>
        rw [List.map_append] at heard
        obtain ⟨earlier, told⟩ := List.append_inj' heard rfl
        obtain rfl : after.desk.result = waited := List.singleton_inj.1 told
        obtain ⟨-, -, stands⟩ := course_redials later transport accepted few least course
        exact resume_woken later (stands _ earlier) drifts failed

/-! ## A rehearsal -/

/-- The script lets every request wait. -/
abbrev IsLater : Scripted → Prop :=
  Scripted.Keeps (· = .wouldBlock) fun result => result ≠ .wouldBlock ∧ result ≠ .again

theorem isLater_dialsLater : Transport.DialsLater (IsLater : Transport.States Scripted) :=
  have answers := @Scripted.answers (· = .wouldBlock) rfl
    fun result => result ≠ .wouldBlock ∧ result ≠ .again
  ⟨answers.connect, answers.wakeUp, answers.result⟩

/-- A request completes, and nothing else happens. -/
theorem reporting_driftsBetweenAttempts {engine : Engine Scripted Operation}
    (kept : IsLater engine.desk.transport) (steps : 1 ≤ engine.settings.maxContinue.toNat)
    {result : Reply} (wait : result ≠ .wouldBlock) (again : result ≠ .again) :
    engine.DriftsBetweenAttempts IsLater (engine.reporting result) :=
  ⟨(reporting_completesAlone kept ⟨wait, again⟩).toCompletes, rfl, rfl, steps⟩

/-- The first attempt fails and the second succeeds. -/
theorem connect_redials_once :
    let request := ConnectRequest.ofServer stage {}
    let result := fun round : Nat => if round = 0 then Reply.error else .ok
    ∃ reports engine,
      (rehearsed {}).Course (DriftsBetweenAttempts IsLater) (.connect request) reports .ok engine ∧
      reports.map Prod.fst = reported result 3 ∧
      IsLeast {round | (result round).IsLast (request.retries .default) round} 1 ∧
      Asked (rehearsed {}).desk.past engine.desk.past
        [.connect stage {}, .wakeUp 5, .connect stage {}] := by
  intro request result
  have dialing : (rehearsed {}).Course (DriftsBetweenAttempts IsLater) (.connect request) []
      .wouldBlock ((rehearsed {}).execute (.connect request)).2 := .begun (by decide +kernel)
  have failed := dialing.responded .error .wouldBlock
    (reporting_driftsBetweenAttempts (by decide +kernel) (by decide +kernel) (by decide)
      (by decide)) (by decide +kernel)
  have waited := failed.responded .ok .wouldBlock
    (reporting_driftsBetweenAttempts (by decide +kernel) (by decide +kernel) (by decide)
      (by decide)) (by decide +kernel)
  have connected := waited.responded .ok .ok
    (reporting_driftsBetweenAttempts (by decide +kernel) (by decide +kernel) (by decide)
      (by decide)) (by decide +kernel)
  have least : IsLeast {round | (result round).IsLast (request.retries .default) round} 1 := by
    constructor
    · exact .inl rfl
    · rintro (_ | round) last
      · rcases last with ok | rejected | critical | limit
        · exact absurd ok (by decide)
        · exact absurd rejected (by decide)
        · exact absurd critical (by decide)
        · exact absurd limit (by decide)
      · omega
  refine ⟨_, _, connected, by decide, least, ?_⟩
  have told := (connect_redials isLater_dialsLater (by decide +kernel) rfl (by decide +kernel) least
    connected).1 3 (by decide)
  exact (told.2 Reply.ok_ne_wouldBlock).2.2.2

end Engine

end Courier
