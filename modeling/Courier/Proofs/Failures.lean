import Courier.Proofs.Allowance
import Courier.Proofs.Doubts
import Courier.Proofs.Lockstep

/-!
# Failures that are told at once and failures that are told late

The runs of a command over a transport and over one that tells of one failure late go the same way
until that request. Then the one goes on in the same call, while the other waits, hears of the
failure and goes on from there. Most operations make no difference between the two, so the runs
come together again. Three do: a connection attempt is repeated only if the failure is told late,
the failure to remove a file does not stop the others only if it is told late, and where a
directory could not be entered, going on without a wait uses up the steps that are allowed.
-/

namespace Courier

variable {τ : Type} [Transport τ] {settled : Bool}

/-! ## Turns that are alike -/

/-- The calls come to the same. -/
structure Outcome.Like (settled : Bool) (outcome : Outcome τ Operation)
    (twin : Outcome (Deferring τ) Operation) : Prop where
  reply : twin.reply = outcome.reply
  stack : twin.stack = outcome.stack
  desk : outcome.desk.Like settled twin.desk

structure Turn.Like (settled : Bool) (turn : Turn τ Operation)
    (twin : Turn (Deferring τ) Operation) : Prop where
  budget : twin.budget = turn.budget
  below : twin.below = turn.below
  event : twin.event = turn.event
  top : twin.top = turn.top
  desk : turn.desk.Like settled twin.desk
  result : turn.event = .completed → twin.desk.result = turn.desk.result

namespace Desk.Like

variable {desk : Desk τ Operation} {twin : Desk (Deferring τ) Operation}

omit [Transport τ] in
theorem doubt (like : desk.Like settled twin) (line? : Option WireLine) :
    (desk.doubt line?).Like settled (twin.doubt line?) := by
  unfold Desk.doubt
  generalize line?.elim [] WireLine.doubts = calls
  induction calls generalizing desk twin with
  | nil => exact like
  | cons call rest ih => exact ih (like.tellCache call)

theorem abandon (like : desk.Like settled twin) (env : Env) (stack : List Operation) :
    (abandon env stack desk).Like settled (abandon env stack twin) := by
  have given : (stack.foldl (fun desk operation =>
      (Behaviour.cancel env operation { desk with pending := none }).2) desk).Like settled
      (stack.foldl (fun desk operation =>
        (Behaviour.cancel env operation { desk with pending := none }).2) twin) := by
    induction stack generalizing desk twin with
    | nil => exact like
    | cons operation rest ih =>
        refine ih ?_
        have doubted := (like.withPending none).doubt operation.line?
        rw [← operation.cancel_eq, ← operation.cancel_eq] at doubted
        exact doubted
  unfold Courier.abandon
  simp only
  split
  · exact (given.withPending none).withSession fun _ => {}
  · exact given.withPending none

omit [Transport τ] in
theorem finish (like : desk.Like settled twin) (kind : CommandKind) (reply : Reply) :
    (finish kind reply desk).Like settled (finish kind reply twin) := by
  obtain ⟨text, ended⟩ := finish_eq kind reply desk
  obtain ⟨text', ended'⟩ := finish_eq kind reply twin
  rw [ended, ended']
  exact ⟨rfl, rfl, (like.withSession fun session => session.afterEnd kind reply).note _ _ _ _⟩

theorem breakDown (like : desk.Like settled twin) (env : Env) (text : String)
    (stack : List Operation) :
    (breakDown env text stack desk).Like settled (breakDown env text stack twin) :=
  ⟨rfl, rfl, (like.note _ _ _ _).abandon env stack⟩

end Desk.Like

namespace Step.Same

variable {step : Step τ Operation Operation} {twin : Step (Deferring τ) Operation Operation}

omit [Transport τ] in
theorem noted (same : step.Same settled twin) : step.noted.Like settled twin.noted :=
  same.desk.note _ _ _ _

theorem onward (same : step.Same settled twin) (budget : Nat) (below : List Operation) :
    (step.onward budget below).Like settled (twin.onward budget below) := by
  have noted := same.noted
  unfold Step.onward
  rw [noted.pending, same.operation]
  cases step.noted.pending with
  | some child =>
      exact ⟨rfl, rfl, rfl, rfl, (noted.note _ _ _ _).withPending none, by rintro ⟨⟩⟩
  | none => exact ⟨rfl, rfl, rfl, rfl, noted, by rintro ⟨⟩⟩

theorem upward (same : step.Same settled twin) (budget : Nat) (parent : Operation)
    (rest : List Operation) :
    (step.upward budget parent rest).Like settled (twin.upward budget parent rest) := by
  have event : Event.returned twin.reply twin.operation =
      .returned step.reply step.operation := by rw [same.reply, same.operation]
  exact ⟨rfl, rfl, event, rfl, same.noted.note _ _ _ _, by rintro ⟨⟩⟩

/-- Steps that come to the same end their calls alike or lead to turns that are alike. -/
theorem next (same : step.Same settled twin) (env : Env) (budget : Nat) (below : List Operation) :
    match step.next env budget below, twin.next env budget below with
    | .inl outcome, .inl other => outcome.Like settled other
    | .inr turn, .inr other => turn.Like settled other
    | _, _ => False := by
  have noted := same.noted
  have pending := noted.pending
  unfold Step.next Step.broken giveUp
  rw [pending, same.reply, same.operation]
  by_cases again : step.reply = .again
  · simp only [again, if_true]
    cases budget with
    | zero => exact noted.breakDown env _ _
    | succ left => exact same.onward left below
  · simp only [again, if_false]
    cases step.noted.pending with
    | some child => exact noted.breakDown env _ _
    | none =>
        by_cases wait : step.reply = .wouldBlock
        · simp only [wait, if_true]
          exact ⟨rfl, rfl, noted⟩
        · simp only [wait, if_false]
          cases below with
          | nil => exact noted.finish _ _
          | cons parent rest => exact same.upward budget parent rest

end Step.Same

namespace Turn

variable {turn parting : Turn τ Operation} {twin : Turn (Deferring τ) Operation} {env : Env}
  {good : Transport.States τ}

/-- The turn made the request in question, which failed; the call of the twin ended with it. -/
structure Parts (env : Env) (parting : Turn τ Operation)
    (outcome : Outcome (Deferring τ) Operation) : Prop where
  event : parting.event = .send
  fails : (parting.step env).reply.isError = true
  reply : outcome.reply = .wouldBlock
  stack : outcome.stack = (parting.step env).operation :: parting.below
  held : outcome.desk.transport.held = some (parting.step env).reply
  desk : (parting.step env).noted.Like true outcome.desk.tells

/-- The calls that begin with turns that are alike come to the same, or part at the request in
question. -/
theorem Like.drive (conforms : Transport.Conforms good) (fits : turn.Fits good)
    (like : turn.Like settled twin) :
    (turn.drive env).Like settled (twin.drive env) ∨
      (settled = false ∧ ∃ parting, turn.Leads env parting ∧ parting.Fits good ∧
        parting.Parts env (twin.drive env)) := by
  refine Turn.induction env (motive := fun turn => ∀ twin : Turn (Deferring τ) Operation,
    turn.Fits good → turn.Like settled twin → (turn.drive env).Like settled (twin.drive env) ∨
      (settled = false ∧ ∃ parting, turn.Leads env parting ∧ parting.Fits good ∧
        parting.Parts env (twin.drive env))) ?_ turn twin fits like
  rintro turn ih ⟨_, _, _, _, desk⟩ fits ⟨rfl, rfl, rfl, rfl, alike, result⟩
  rw [drive_next, drive_next]
  rcases turn.top.step_like (alike.withPending none) env turn.event result with
    same | ⟨early, acts, parts⟩
  · -- the steps come to the same, and so does what follows
    have next := Step.Same.next same env turn.budget turn.below
    change match turn.next env, Turn.next env
      ⟨turn.budget, turn.below, turn.event, turn.top, desk⟩ with
      | .inl outcome, .inl other => outcome.Like settled other
      | .inr turn, .inr other => turn.Like settled other
      | _, _ => False at next
    split at next
    · rename_i outcome other here there
      rw [here, there]
      exact .inl next
    · rename_i after other here there
      rw [here, there]
      rcases ih after here other (fits.next conforms.neverGoesOn here) next with
        same | ⟨early, parting, leads, parts⟩
      · exact .inl same
      · exact .inr ⟨early, parting, .head here leads, parts⟩
    · exact next.elim
  · refine .inr ⟨early, turn, .refl, fits, ?_⟩
    have sound := fits.sound conforms.neverGoesOn env
    have asks : (turn.step env).desk.pending = none :=
      sound.stops (Reply.ne_again_of_isError parts.fails)
    let twin : Turn (Deferring τ) Operation :=
      ⟨turn.budget, turn.below, turn.event, turn.top, desk⟩
    have ended : twin.next env =
        .inl ⟨.wouldBlock, (twin.step env).noted, (twin.step env).operation :: turn.below⟩ :=
      Step.next_of_waits parts.waits (parts.desk.pending.trans asks)
    rw [ended]
    refine ⟨acts, parts.fails, rfl, ?_, parts.held, parts.desk.note _ _ _ _⟩
    exact congrArg (· :: turn.below) parts.operation

end Turn

/-! ## Operations that treat failures alike -/

namespace Operation

variable {operation : Operation} {desk : Desk τ Operation} {env : Env}

/-- For the operation it makes no difference whether it is told of this failure at once or late. -/
def FailsAlike (env : Env) (failure : Reply) : Operation → Prop
  | connect task =>
    if failure.contains .passwordFailed then failure = (.critical ||| .passwordFailed)
    else task.isFinal env failure = true
  | delete task => DeleteTask.isFatal failure = true ∨ (task.rest.tail = [] ∧ failure = .error)
  | changeDir _ => env.settings.maxContinue ≠ 1
  | _ => True

/-- Then it ends with the failure if it is told late, as it does if it is told at once, unless it is
about a file. -/
theorem completed_of_failure (waits : operation.awaitsCompletion = true)
    (opens : operation.kind ≠ .disconnect) (fails : desk.result.isError = true)
    (alike : operation.FailsAlike env desk.result)
    (fatal : operation.kind = .delete → DeleteTask.isFatal desk.result = true) :
    ∃ out after, desk.Quiet after ∧ operation.completed env desk = ⟨desk.result, out, after⟩ := by
  have failed : desk.result ≠ .ok := Reply.ne_ok_of_isError fails
  have ended (naming : RemotePath.Naming) (at_ : operation.progress? = some (.waiting naming))
      (after : operation.after naming desk.result = .inl desk.result) :
      ∃ out after, desk.Quiet after ∧ operation.completed env desk = ⟨desk.result, out, after⟩ := by
    have completed := completed_waiting desk env at_
    rw [after] at completed
    obtain ⟨after, out, quiet, -, eq⟩ := completed
    exact ⟨out, after, quiet, eq⟩
  cases operation with
  | connect task =>
      have stage : task.stage = .connecting := by simpa [awaitsCompletion] using waits
      simp only [FailsAlike] at alike
      simp only [completed, ConnectTask.completed, stage, if_neg failed]
      split
      · rename_i rejected
        rw [if_pos rejected] at alike
        rw [alike]
        exact ⟨_, _, .note (.refl desk) _ _, rfl⟩
      · rename_i accepted
        rw [if_neg accepted] at alike
        rw [if_pos alike]
        exact ⟨_, desk, .refl desk, rfl⟩
  | disconnect task => exact absurd rfl opens
  | sleep task =>
      have waiting : task.waiting = true := waits
      simp only [completed, SleepTask.completed, waiting, if_true]
      exact ⟨_, desk, .refl desk, rfl⟩
  | changeDir task =>
      have waiting : task.waiting = true := waits
      simp only [completed, ChangeDirTask.completed, waiting, if_true, if_neg failed]
      exact ⟨_, desk, .refl desk, rfl⟩
  | list task =>
      obtain ⟨request, progress⟩ := task
      cases progress with
      | waiting target =>
          simp only [completed, ListTask.completed, fails, if_true]
          exact ⟨_, desk, .refl desk, rfl⟩
      | _ => cases waits
  | transfer task =>
      obtain ⟨request, progress, channel⟩ := task
      cases progress with
      | waiting naming => exact ended naming rfl rfl
      | _ => cases waits
  | delete task =>
      obtain ⟨path, total, rest, failed, progress⟩ := task
      cases progress with
      | waiting naming => exact ended naming rfl (by simp only [after, fails, fatal rfl, if_true])
      | _ => cases waits
  | removeDir task =>
      obtain ⟨request, progress⟩ := task
      cases progress with
      | waiting naming => exact ended naming rfl rfl
      | _ => cases waits
  | makeDir task =>
      obtain ⟨request, stage⟩ := task
      cases stage with
      | waiting => exact ⟨_, desk, .refl desk, rfl⟩
      | _ => cases waits
  | rename task =>
      obtain ⟨request, progress⟩ := task
      cases progress with
      | waiting naming => exact ended naming rfl rfl
      | _ => cases waits
  | chmod task =>
      obtain ⟨request, progress⟩ := task
      cases progress with
      | ready naming | waiting naming => exact ⟨_, desk, .refl desk, rfl⟩
      | _ => cases waits
  | raw task =>
      have waiting : task.waiting = true := waits
      simp only [completed, RawTask.completed, waiting, if_true]
      exact ⟨_, desk, .refl desk, rfl⟩

/-- No more is asked than that: an operation that ends with a failure it is told of late treats it
alike, unless it is to enter a directory. -/
theorem failsAlike_of_completed (waits : operation.awaitsCompletion = true)
    (fails : desk.result.isError = true) (enters : operation.kind ≠ .changeDir)
    (ends : (operation.completed env desk).reply = desk.result) :
    operation.FailsAlike env desk.result := by
  cases operation with
  | connect task =>
      have stage : task.stage = .connecting := by simpa [awaitsCompletion] using waits
      simp only [completed, ConnectTask.completed, stage,
        if_neg (Reply.ne_ok_of_isError fails)] at ends
      simp only [FailsAlike]
      split
      · rename_i rejected
        rw [if_pos rejected] at ends
        exact ends.symm
      · rename_i accepted
        rw [if_neg accepted] at ends
        split at ends
        · assumption
        · exact absurd ends.symm (Reply.ne_again_of_isError fails)
  | delete task =>
      obtain ⟨path, total, rest, failed, progress⟩ := task
      cases progress with
      | waiting naming =>
          simp only [completed, DeleteTask.completed, fails, if_true] at ends
          split at ends
          · rename_i fatal
            exact .inl fatal
          · exact absurd ends.symm (Reply.ne_again_of_isError fails)
      | _ => cases waits
  | changeDir task => exact absurd rfl enters
  | _ => trivial

/-- To disconnect never fails. -/
theorem send_disconnect (acts : operation.acts = true)
    (fails : (operation.send env desk).reply.isError = true) : operation.kind ≠ .disconnect := by
  cases operation with
  | disconnect task =>
      have idle : task.waiting = false := by simpa [Operation.acts] using acts
      simp only [send, DisconnectTask.send, idle, Bool.false_eq_true, if_false] at fails
      split at fails
      · rename_i blocks
        exact absurd blocks (Reply.ne_wouldBlock_of_isError fails)
      · exact absurd (show Reply.ok.isError = true from fails) (by decide)
  | _ => rintro ⟨⟩

omit [Transport τ] in
/-- Of an operation that ended only the kind is seen by the one below. -/
theorem returned_congr {finished other : Operation} (same : other.kind = finished.kind)
    (reply : Reply) (operation : Operation) (desk : Desk τ Operation) :
    returned reply other operation desk = returned reply finished operation desk := by
  cases operation <;> simp only [returned, ConnectTask.returned, unexpectedReturn, same]

/-- The clock and the settings matter only to who has not begun. -/
theorem send_congr (begun : operation.hasBegun = true) (other : Env) :
    operation.send other desk = operation.send env desk := by
  cases operation with
  | list task =>
      obtain ⟨request, progress⟩ := task
      cases progress with
      | start => cases begun
      | _ => rfl
  | _ => rfl

omit [Transport τ] in
/-- Who waited for a subcommand that failed goes on only if that was to enter a directory. -/
theorem returned_again {reply : Reply} {child : Operation} (waits : operation.WaitsFor child)
    (fails : reply.isError = true)
    (again : (returned reply child operation desk).reply = .again) : child.kind = .changeDir := by
  cases child with
  | changeDir task => rfl
  | sleep task =>
      obtain ⟨connect, rfl, stage⟩ := isRetrying_eq_true waits
      have retries : connect.stage = .retryWait ∧ (sleep task).kind = .sleep := ⟨stage, rfl⟩
      simp only [returned, ConnectTask.returned, if_pos retries,
        if_neg (Reply.ne_ok_of_isError fails)] at again
      exact absurd again (Reply.ne_again_of_isError fails)
  | _ => exact waits.elim

end Operation

theorem Operation.FailsAlike.of_changeDir {operation : Operation} {env : Env} {failure : Reply}
    (alike : operation.FailsAlike env failure) (enters : operation.kind = .changeDir) :
    env.settings.maxContinue ≠ 1 := by
  cases operation <;> first | exact alike | cases enters

theorem Operation.FailsAlike.of_settings {operation : Operation} {env later : Env}
    {failure : Reply} (alike : operation.FailsAlike env failure)
    (same : later.settings = env.settings) : operation.FailsAlike later failure := by
  cases operation with
  | connect task => simpa only [Operation.FailsAlike, ConnectTask.isFinal, same] using alike
  | changeDir task => simpa only [Operation.FailsAlike, same] using alike
  | _ => exact alike

/-! ## The last file -/

section Last

variable {task : DeleteTask} {naming : RemotePath.Naming} {desk : Desk τ Operation} {env : Env}

/-- A deletion that hears that a file could not be removed counts it and goes on. -/
theorem Operation.completed_unremoved (at_ : task.progress = .waiting naming)
    (result : desk.result = .error) :
    ∃ after, desk.Quiet after ∧ (Operation.delete task).completed env desk =
      ⟨.again, .delete { task with
        rest := task.rest.tail, failed := task.failed + 1, progress := .ready naming }, after⟩ := by
  have waiting : (Operation.delete task).progress? = some (.waiting naming) := congrArg some at_
  have completed := Operation.completed_waiting desk env waiting
  rw [result] at completed
  exact completed

/-- A deletion that has no file left ends with an error if one could not be removed. -/
theorem Operation.send_emptied (at_ : task.progress = .ready naming) (empty : task.rest = [])
    (failed : task.failed ≠ 0) :
    ∃ after, desk.Quiet after ∧
      (Operation.delete task).send env desk = ⟨.error, .delete task, after⟩ := by
  have waiting : (Operation.delete task).progress? = some (.ready naming) := congrArg some at_
  have ends : (Operation.delete task).next? naming desk.store = some (.inl .error) := by
    simp [Operation.next?, empty, failed]
  have ready := Operation.send_ready desk env waiting
  rw [ends] at ready
  exact ready

end Last

end Courier
