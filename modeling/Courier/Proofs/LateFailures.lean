import Courier.Proofs.Failures

/-!
# The call in which a failure is told

Where a request failed at once, the same call goes on from there. Where the failure is told late,
another call does, at a later time and with all steps left that are allowed. The operation that
hears of the failure ends with it, and the one below, if there is one, makes one more request or
ends; so neither the time nor the number of steps makes a difference.
-/

namespace Courier

variable {τ : Type} [Transport τ] {settled : Bool}

omit [Transport τ] in
theorem Desk.withPending_none {desk : Desk τ Operation} (h : desk.pending = none) :
    ({ desk with pending := none } : Desk τ Operation) = desk := by
  obtain ⟨transport, cache, session, store, journal, pending⟩ := desk
  cases h
  rfl

omit [Transport τ] in
/-- Notes make no difference. -/
theorem Desk.Like.quiet {desk : Desk τ Operation} {twin after : Desk (Deferring τ) Operation}
    (like : desk.Like settled twin) (quiet : twin.Quiet after) : desk.Like settled after := by
  obtain ⟨notes, rfl⟩ := quiet
  exact ⟨like.inner, like.held, like.settled, like.cache, like.session, like.store, like.pending,
    like.requests⟩

/-! ## What is left of a call -/

section Ends

variable {step : Step τ Operation Operation} {twin : Step (Deferring τ) Operation Operation}

/-- Without an operation below, a step that does not go on ends the call, whatever is left of the
steps that are allowed. -/
theorem Step.Same.ends (same : step.Same settled twin) (stops : step.reply ≠ .again)
    (asks : step.desk.pending = none) (env later : Env) (budget left : Nat) :
    ∃ outcome other, step.next env budget [] = .inl outcome ∧
      twin.next later left [] = .inl other ∧ outcome.Like settled other := by
  have noted := same.noted
  unfold Step.next
  rw [noted.pending, same.reply, same.operation, Step.noted_pending, asks, if_neg stops,
    if_neg stops]
  by_cases wait : step.reply = .wouldBlock
  · simp only [wait, if_true]
    exact ⟨_, _, rfl, rfl, rfl, rfl, noted⟩
  · simp only [wait, if_false]
    exact ⟨_, _, rfl, rfl, noted.finish _ _⟩

/-- A failure is handed down, or ends the call. -/
theorem Step.next_of_failed (fails : step.reply.isError = true)
    (asks : step.desk.pending = none) (env : Env) (budget : Nat) (below : List Operation) :
    step.next env budget below =
      match below with
      | [] => .inl (finish step.operation.kind step.reply step.noted)
      | parent :: rest => .inr (step.upward budget parent rest) := by
  have again := Reply.ne_again_of_isError fails
  have wait := Reply.ne_wouldBlock_of_isError fails
  cases below with
  | nil => exact Step.next_of_ends again wait asks
  | cons parent rest => exact Step.next_of_returns again wait asks

end Ends

namespace Turn

variable {parting : Turn τ Operation} {env later : Env} {good : Transport.States τ}

section Alike

variable {desk : Desk τ Operation} {twin : Desk (Deferring τ) Operation} {budget left : Nat}

/-- An operation that has begun acts alike at desks that are alike, at any time and whatever is
left of the steps that are allowed: it makes a request or ends. -/
theorem drive_begun (conforms : Transport.Conforms good) {operation : Operation}
    (fits : Fits good ⟨budget, [], .send, operation, desk⟩) (begun : operation.hasBegun = true)
    (alike : desk.Like true twin) :
    (drive env ⟨budget, [], .send, operation, desk⟩).Like true
      (drive later ⟨left, [], .send, operation, twin⟩) := by
  have sound := fits.sound conforms.neverGoesOn env
  let turn : Turn τ Operation := ⟨budget, [], .send, operation, desk⟩
  let acting : Turn (Deferring τ) Operation := ⟨left, [], .send, operation, twin⟩
  have steps : (turn.step env).Same true (acting.step later) := by
    change (operation.send env { desk with pending := none }).Same true
      (operation.send later { twin with pending := none })
    have timeless : operation.send later { twin with pending := none } =
        operation.send env { twin with pending := none } := Operation.send_congr begun later
    rw [timeless]
    rcases operation.send_like (alike.withPending none) env with same | ⟨early, -⟩
    · exact same
    · cases early
  have stops : (turn.step env).reply ≠ .again := by
    intro again
    have acts : (operation.send env { desk with pending := none }).reply = .again := again
    have idle : operation.hasBegun = false := by
      refine Operation.send_again conforms.neverGoesOn ?_ acts
      exact fits.transport
    exact absurd (begun.symm.trans idle) (by decide)
  obtain ⟨outcome, other, here, there, like⟩ :=
    steps.ends stops (sound.stops stops) env later budget left
  rw [drive_next, drive_next, show next env _ = _ from here, show next later _ = _ from there]
  exact like

/-- An operation that hears of the end of the one above goes on alike at desks that are alike, if
steps are left where it goes on. -/
theorem drive_returned (conforms : Transport.Conforms good) {failure : Reply}
    {finished other parent : Operation}
    (fits : Fits good ⟨budget, [], .returned failure finished, parent, desk⟩)
    (alike : desk.Like true twin) (same : other.kind = finished.kind)
    (enough : (Operation.returned failure finished parent
      { desk with pending := none }).reply = .again → 0 < budget ∧ 0 < left) :
    (drive env ⟨budget, [], .returned failure finished, parent, desk⟩).Like true
      (drive later ⟨left, [], .returned failure other, parent, twin⟩) := by
  let turn : Turn τ Operation := ⟨budget, [], .returned failure finished, parent, desk⟩
  let heard : Turn (Deferring τ) Operation := ⟨left, [], .returned failure other, parent, twin⟩
  have steps : (turn.step env).Same true (heard.step later) := by
    change (Operation.returned failure finished parent { desk with pending := none }).Same true
      (Operation.returned failure other parent { twin with pending := none })
    rw [Operation.returned_congr same]
    exact Operation.returned_like (alike.withPending none) failure finished parent
  have asks : (turn.step env).desk.pending = none :=
    Operation.returned_asks failure finished parent { desk with pending := none }
  change (turn.drive env).Like true (heard.drive later)
  by_cases again : (turn.step env).reply = .again
  · obtain ⟨some_left, some_left'⟩ := enough again
    obtain ⟨budget, rfl⟩ := Nat.exists_eq_add_one.2 some_left
    obtain ⟨left, rfl⟩ := Nat.exists_eq_add_one.2 some_left'
    have here : turn.next env = _ := Step.next_of_acts again asks
    have there : heard.next later = _ :=
      Step.next_of_acts (steps.reply.trans again) (steps.desk.pending.trans asks)
    rw [drive_next, drive_next, here, there, steps.operation]
    exact drive_begun conforms (fits.next conforms.neverGoesOn here)
      (Operation.returned_again_begun again) steps.noted
  · obtain ⟨outcome, other, here, there, like⟩ := steps.ends again asks env later budget left
    rw [drive_next, drive_next, show turn.next env = _ from here,
      show heard.next later = _ from there]
    exact like

end Alike

/-- A deletion that hears that the last file could not be removed ends in one more turn. -/
theorem drive_last {desk : Desk τ Operation} {task : DeleteTask} {naming : RemotePath.Naming}
    (asks : desk.pending = none) (at_ : task.progress = .waiting naming)
    (last : task.rest.tail = []) (result : desk.result = .error) (env : Env) (budget : Nat) :
    ∃ after, desk.Quiet after ∧
      drive env ⟨budget + 1, [], .completed, .delete task, desk⟩ =
        finish .delete .error after := by
  let first : Turn τ Operation := ⟨budget + 1, [], .completed, .delete task, desk⟩
  obtain ⟨between, quiet, completed⟩ : ∃ between, desk.Quiet between ∧ first.step env =
      ⟨.again, .delete { task with
        rest := task.rest.tail, failed := task.failed + 1, progress := .ready naming },
          between⟩ := by
    change ∃ between, desk.Quiet between ∧
      (Operation.delete task).completed env { desk with pending := none } = _
    rw [Desk.withPending_none asks]
    exact Operation.completed_unremoved at_ result
  have asks : (first.step env).desk.pending = none := by
    rw [completed]
    exact quiet.pending.trans asks
  have goes : first.next env = _ := Step.next_of_acts (congrArg Step.reply completed) asks
  let second : Turn τ Operation :=
    ⟨budget, [], .send, (first.step env).operation, (first.step env).noted⟩
  obtain ⟨after, quiet', sent⟩ : ∃ after, (first.step env).noted.Quiet after ∧
      second.step env = ⟨.error, (first.step env).operation, after⟩ := by
    change ∃ after, (first.step env).noted.Quiet after ∧
      (first.step env).operation.send env { (first.step env).noted with pending := none } = _
    rw [Desk.withPending_none (show (first.step env).noted.pending = none from asks), completed]
    exact Operation.send_emptied rfl last (Nat.succ_ne_zero _)
  have fails : (second.step env).reply.isError = true := by
    rw [sent]
    exact (by decide : Reply.error.isError = true)
  have idle : (second.step env).desk.pending = none := by
    rw [sent]
    exact quiet'.pending.trans asks
  have ends := Step.next_of_failed fails idle env budget []
  rw [completed] at quiet'
  refine ⟨(second.step env).noted, ?_, ?_⟩
  · rw [sent]
    exact (quiet.note _ _).trans (quiet'.note _ _)
  · rw [drive_next, goes]
    change second.drive env = _
    rw [drive_next, show second.next env = _ from ends, sent, completed]
    rfl

/-! ## The call in which the failure is told -/

namespace Parts

theorem kind (env : Env) (parting : Turn τ Operation) :
    (parting.step env).operation.kind = parting.top.kind :=
  Operation.step_kind env parting.event parting.top _

section Facts

variable {outcome : Outcome (Deferring τ) Operation} (fits : parting.Fits good)
  (parts : parting.Parts env outcome)

include fits parts

theorem asks (conforms : Transport.Conforms good) : (parting.step env).desk.pending = none :=
  (fits.sound conforms.neverGoesOn env).stops (Reply.ne_again_of_isError parts.fails)

/-- It is no disconnection that has failed. -/
theorem opens : (parting.step env).operation.kind ≠ .disconnect := by
  obtain ⟨budget, below, event, top, desk⟩ := parting
  obtain rfl : event = .send := parts.event
  have sent : (top.send env { desk with pending := none }).reply.isError = true := parts.fails
  rw [kind]
  exact Operation.send_disconnect fits.expected sent

/-- A deletion whose line has failed was ready to send it. -/
theorem begun (deletes : parting.top.kind = .delete) : parting.top.hasBegun = true := by
  obtain ⟨budget, below, event, top, desk⟩ := parting
  obtain rfl : event = .send := parts.event
  have sent : (top.send env { desk with pending := none }).reply.isError = true := parts.fails
  cases top with
  | delete task =>
      cases begun : (Operation.delete task).hasBegun with
      | true => rfl
      | false =>
          have idle : (Operation.delete task).progress? = some .start := by
            simpa [Operation.hasBegun] using begun
          obtain ⟨path, after, -, -, started⟩ :=
            Operation.send_start { desk with pending := none } env idle
          exact absurd (congrArg Step.reply started) (Reply.ne_again_of_isError sent)
  | _ => cases deletes

end Facts

section Told

variable {outcome : Outcome (Deferring τ) Operation} {heard : Desk (Deferring τ) Operation}
  (conforms : Transport.Conforms good) (fits : parting.Fits good)
  (parts : parting.Parts env outcome) (alike : (parting.step env).noted.Like true heard)
  (result : heard.result = (parting.step env).reply)

include conforms fits parts alike result

/-- The step of the operation that hears of the failure. -/
theorem hears (waits : (parting.step env).operation.awaitsCompletion = true)
    (treats : (parting.step env).operation.FailsAlike later (parting.step env).reply)
    (fatal : (parting.step env).operation.kind = .delete →
      DeleteTask.isFatal (parting.step env).reply = true) (allowed : Nat) :
    ∃ out after, heard.Quiet after ∧ out.kind = (parting.step env).operation.kind ∧
      step later ⟨allowed, parting.below, .completed, (parting.step env).operation, heard⟩ =
        ⟨(parting.step env).reply, out, after⟩ := by
  have fails := parts.fails
  rw [← result] at fails treats fatal ⊢
  obtain ⟨out, after, quiet, completed⟩ :=
    Operation.completed_of_failure waits (parts.opens fits) fails treats fatal
  have same := Operation.step_kind later .completed (parting.step env).operation heard
  refine ⟨out, after, quiet, ?_, ?_⟩
  · rw [← same]
    exact congrArg (fun step => step.operation.kind) completed.symm
  · change (parting.step env).operation.completed later { heard with pending := none } = _
    rw [Desk.withPending_none (alike.pending.trans (parts.asks fits conforms))]
    exact completed

variable (thrifty : parting.Thrifty env.settings.maxContinue.toNat)
  (settings : later.settings = env.settings)

include thrifty settings

omit alike result conforms fits in
/-- Steps are left where the operation below goes on because a directory could not be entered. -/
theorem steps_left (treats : (parting.step env).operation.FailsAlike later (parting.step env).reply)
    {parent : Operation} (asked : parent.WaitsFor (parting.step env).operation)
    {desk : Desk τ Operation}
    (again : (Operation.returned (parting.step env).reply (parting.step env).operation parent
      desk).reply = .again) :
    0 < parting.budget ∧ 0 < later.settings.maxContinue.toNat := by
  have enters := Operation.returned_again asked parts.fails again
  have one_left := thrifty.enters parts.event ((kind env parting).symm.trans enters)
  have several := treats.of_changeDir enters
  rw [settings] at several ⊢
  have several : env.settings.maxContinue.toNat ≠ 1 := fun one => several (UInt32.toNat_inj.1 one)
  constructor <;> omega

/-- The operation that hears of the failure ends with it, late as at once. -/
theorem told_ends (waits : (parting.step env).operation.awaitsCompletion = true)
    (treats : (parting.step env).operation.FailsAlike later (parting.step env).reply)
    (fatal : (parting.step env).operation.kind = .delete →
      DeleteTask.isFatal (parting.step env).reply = true) :
    (parting.drive env).Like true
      (drive later ⟨later.settings.maxContinue.toNat, parting.below, .completed,
        (parting.step env).operation, heard⟩) := by
  let hearing : Turn (Deferring τ) Operation := ⟨later.settings.maxContinue.toNat, parting.below,
    .completed, (parting.step env).operation, heard⟩
  obtain ⟨out, after, quiet, kind, stepped⟩ : ∃ out after, heard.Quiet after ∧
      out.kind = (parting.step env).operation.kind ∧
        hearing.step later = ⟨(parting.step env).reply, out, after⟩ :=
    parts.hears conforms fits alike result waits treats fatal _
  have asks := parts.asks fits conforms
  have noted : (parting.step env).noted.Like true (hearing.step later).noted := by
    rw [stepped]
    exact alike.quiet (quiet.note _ _)
  have fails : (hearing.step later).reply.isError = true := by
    rw [stepped]
    exact parts.fails
  have here : parting.next env = _ :=
    Step.next_of_failed parts.fails asks env parting.budget parting.below
  have there : hearing.next later = _ :=
    Step.next_of_failed fails (noted.pending.trans asks) later _ parting.below
  change (parting.drive env).Like true (hearing.drive later)
  rw [drive_next, drive_next]
  cases below : parting.below with
  | nil =>
      simp only [below] at here there
      rw [here, there]
      have ended := noted.finish (parting.step env).operation.kind (parting.step env).reply
      rw [stepped] at ended ⊢
      rw [kind]
      exact ended
  | cons parent rest =>
      have sound := fits.sound conforms.neverGoesOn env
      obtain ⟨asked, rfl⟩ := (below ▸ fits.below.succeeds sound.succeeds).asked
      simp only [below] at here there
      rw [here, there]
      have next := fits.next conforms.neverGoesOn here
      rw [stepped] at noted ⊢
      exact drive_returned conforms next (noted.note _ _ _ _) kind fun again =>
        parts.steps_left thrifty settings treats asked again

/-- The deletion that hears that its last file could not be removed has nothing left to do. -/
theorem told_last {task : DeleteTask} (is : (parting.step env).operation = .delete task)
    (waits : task.progress.isWaiting = true) (last : task.rest.tail = [])
    (failure : (parting.step env).reply = .error) :
    (parting.drive env).Like true
      (drive later ⟨later.settings.maxContinue.toNat, parting.below, .completed,
        (parting.step env).operation, heard⟩) := by
  have asks := parts.asks fits conforms
  have deletes : parting.top.kind = .delete := by
    rw [← kind env parting, is]
    rfl
  obtain ⟨deletion, top⟩ : ∃ deletion, parting.top = .delete deletion := by
    cases top : parting.top with
    | delete deletion => exact ⟨deletion, rfl⟩
    | _ =>
        rw [top] at deletes
        cases deletes
  -- a deletion that makes a request is ready to, so somebody has gone on in this call
  have spent : parting.budget < env.settings.maxContinue.toNat := by
    refine thrifty.ready parts.event (parts.begun fits deletes) ?_
    rw [top]
    rintro ⟨⟩
  obtain ⟨left, allowed⟩ : ∃ left, later.settings.maxContinue.toNat = left + 1 := by
    rw [settings]
    exact Nat.exists_eq_add_one.2 (by omega)
  have below : parting.below = [] := by
    refine fits.below.of_command ?_
    rw [top]
    rfl
  obtain ⟨naming, at_⟩ : ∃ naming, task.progress = .waiting naming := by
    cases progress : task.progress with
    | waiting naming => exact ⟨naming, rfl⟩
    | _ =>
        rw [progress] at waits
        cases waits
  obtain ⟨after, quiet, ended⟩ :=
    drive_last (alike.pending.trans asks) at_ last (result.trans failure) later left
  have here : parting.next env = _ :=
    Step.next_of_failed parts.fails asks env parting.budget parting.below
  rw [drive_next]
  simp only [below] at here ⊢
  rw [here, is, allowed, ended, failure]
  exact (alike.quiet quiet).finish .delete .error

/-- The call in which the twin hears of the failure comes to what the call has come to in which the
request was made. -/
theorem told (waits : (parting.step env).operation.awaitsCompletion = true)
    (treats : (parting.step env).operation.FailsAlike later (parting.step env).reply) :
    (parting.drive env).Like true
      (drive later ⟨later.settings.maxContinue.toNat, parting.below, .completed,
        (parting.step env).operation, heard⟩) := by
  have ends := parts.told_ends conforms fits alike result thrifty settings waits treats
  cases is : (parting.step env).operation with
  | delete task =>
      rw [is] at ends treats waits
      rcases treats with fatal | ⟨last, failure⟩
      · exact ends fun _ => fatal
      · rw [← is]
        exact parts.told_last conforms fits alike result thrifty settings is waits last failure
  | _ =>
      rw [is] at ends
      exact ends (by rintro ⟨⟩)

end Told

end Parts

end Turn

end Courier
