import Courier.Proofs.OperationDirectories
import Courier.Proofs.Stack

/-!
# What a directory may cost

An operation has to prepare for its work in the first step of a call only. So when it asks to enter
a directory, that is the first time in the call that somebody goes on, and all other steps that are
allowed are left.
-/

namespace Courier

variable {τ : Type} [Transport τ] {good : Transport.States τ}

namespace Operation

/-- The operation has prepared for its work, or has nothing to prepare. -/
def hasBegun : Operation → Bool
  | list task => task.progress ≠ .start
  | makeDir task => task.stage ≠ .start
  | operation => operation.progress? ≠ some .start

variable {operation : Operation} {desk : Desk τ Operation} {env : Env}

/-! ## Who goes on has begun -/

theorem send_again_begun (again : (operation.send env desk).reply = .again) :
    (operation.send env desk).operation.hasBegun = true := by
  cases operation with
  | connect task | disconnect task | sleep task | changeDir task | raw task => rfl
  | list task =>
      obtain ⟨request, progress⟩ := task
      cases progress with
      | start =>
          simp only [send, ListTask.send] at again ⊢
          split at again
          · cases again
          · rename_i stale
            rw [if_neg stale]
            split
            · split <;> rfl
            · rfl
      | _ => rfl
  | makeDir task =>
      obtain ⟨request, stage⟩ := task
      cases stage <;> rfl
  | transfer task =>
      obtain ⟨request, progress, channel⟩ := task
      cases progress with
      | ready naming =>
          simp only [send, TransferTask.send]
          split <;> rfl
      | _ => rfl
  | delete task =>
      obtain ⟨path, total, rest, failed, progress⟩ := task
      cases progress with
      | ready naming =>
          simp only [send, DeleteTask.send]
          cases rest with
          | nil =>
              simp only
              split <;> rfl
          | cons file files => rfl
      | _ => rfl
  | removeDir task =>
      obtain ⟨request, progress⟩ := task
      cases progress <;> rfl
  | rename task =>
      obtain ⟨request, progress⟩ := task
      cases progress <;> rfl
  | chmod task =>
      obtain ⟨request, progress⟩ := task
      cases progress <;> rfl

theorem completed_again_begun (again : (operation.completed env desk).reply = .again) :
    (operation.completed env desk).operation.hasBegun = true := by
  cases operation with
  | connect task | disconnect task | sleep task | changeDir task | raw task => rfl
  | list task =>
      obtain ⟨request, progress⟩ := task
      cases progress with
      | waiting target =>
          simp only [completed, ListTask.completed]
          split <;> rfl
      | _ => cases again
  | makeDir task =>
      obtain ⟨request, stage⟩ := task
      cases stage with
      | waiting => rfl
      | _ => cases again
  | transfer task =>
      obtain ⟨request, progress, channel⟩ := task
      cases progress <;> first | rfl | cases again
  | delete task =>
      obtain ⟨path, total, rest, failed, progress⟩ := task
      cases progress with
      | waiting naming =>
          simp only [completed, DeleteTask.completed]
          split
          · split <;> rfl
          · rfl
      | _ => cases again
  | removeDir task =>
      obtain ⟨request, progress⟩ := task
      cases progress <;> first | rfl | cases again
  | rename task =>
      obtain ⟨request, progress⟩ := task
      cases progress <;> first | rfl | cases again
  | chmod task =>
      obtain ⟨request, progress⟩ := task
      cases progress <;> first | rfl | cases again

omit [Transport τ] in
theorem returned_again_begun {reply : Reply} {finished : Operation}
    (again : (returned reply finished operation desk).reply = .again) :
    (returned reply finished operation desk).operation.hasBegun = true := by
  cases operation with
  | connect task | disconnect task | sleep task | changeDir task | raw task => rfl
  | makeDir task => cases again
  | list task =>
      obtain ⟨request, progress⟩ := task
      cases progress with
      | entering target =>
          simp only [returned, ListTask.returned]
          split
          · rfl
          · split
            · rfl
            · split <;> rfl
      | _ => cases again
  | transfer task =>
      obtain ⟨request, progress, channel⟩ := task
      cases progress <;> first | rfl | cases again
  | delete task =>
      obtain ⟨path, total, rest, failed, progress⟩ := task
      cases progress <;> first | rfl | cases again
  | removeDir task =>
      obtain ⟨request, progress⟩ := task
      cases progress <;> first | rfl | cases again
  | rename task =>
      obtain ⟨request, progress⟩ := task
      cases progress <;> first | rfl | cases again
  | chmod task =>
      obtain ⟨request, progress⟩ := task
      cases progress <;> first | rfl | cases again

theorem step_again_begun {event : Event Operation}
    (again : (operation.step env event desk).reply = .again) :
    (operation.step env event desk).operation.hasBegun = true := by
  cases event with
  | send => exact send_again_begun again
  | completed => exact completed_again_begun again
  | returned reply finished => exact returned_again_begun again

/-! ## Who is told to act and goes on had not begun -/

/-- A directory command that is ready does not go on without a request. -/
theorem send_ready_ne_again (answers : Transport.NeverGoesOn good) (transport : good desk.transport)
    {naming : RemotePath.Naming} (at_ : operation.progress? = some (.ready naming)) :
    (operation.send env desk).reply ≠ .again := by
  have ready := send_ready desk env at_
  split at ready
  · rename_i reply next
    obtain ⟨after, -, sent⟩ := ready
    rw [sent]
    exact (next_inl next).1
  · obtain ⟨before, out, prepares, -, sent⟩ := ready
    rw [sent]
    exact (answers.send _ _ (prepares.good_transport answers transport)).1
  · exact ready.elim

/-- Who is told to act and goes on has just begun. -/
theorem send_again (answers : Transport.NeverGoesOn good) (transport : good desk.transport)
    (again : (operation.send env desk).reply = .again) :
    operation.hasBegun = false := by
  have told (call : Server → DirectoryCache.Call) : good (desk.tellCache call).transport := by
    rw [desk.tellCache_transport]
    exact transport
  cases operation with
  | connect task =>
      obtain ⟨request, stage, attempts⟩ := task
      cases stage with
      | connect => exact absurd again (answers.connect _ _ _ transport).1
      | connecting | retryWait => cases again
  | disconnect task =>
      simp only [send, DisconnectTask.send] at again
      split at again
      · cases again
      · split at again
        · rename_i blocks
          exact absurd (again.symm.trans blocks) Reply.again_ne_wouldBlock
        · split at again <;> cases again
  | sleep task =>
      simp only [send, SleepTask.send] at again
      split at again
      · cases again
      · exact absurd again (answers.wakeUp _ _ transport).1
  | changeDir task =>
      simp only [send, ChangeDirTask.send] at again
      split at again
      · cases again
      · split at again
        · cases again
        · split at again
          · cases again
          · exact absurd again (answers.send _ _ transport).1
  | list task =>
      obtain ⟨request, progress⟩ := task
      cases progress with
      | start => exact rfl
      | ready target => exact absurd again (answers.send _ _ transport).1
      | entering target | waiting target => cases again
  | makeDir task =>
      obtain ⟨request, stage⟩ := task
      cases stage with
      | start => exact rfl
      | ready =>
          have marked : good ((⟨request, .ready⟩ : MakeDirTask).mark .unknown desk).transport := by
            unfold MakeDirTask.mark
            split
            · exact told _
            · exact transport
          exact absurd again (answers.send _ _ marked).1
      | waiting => cases again
  | raw task =>
      simp only [send, RawTask.send] at again
      split at again
      · cases again
      · refine absurd again (answers.send _ _ ?_).1
        change good ((desk.note _ _).tellCache _).transport
        rw [Desk.tellCache_transport]
        exact transport
  | chmod task =>
      obtain ⟨request, progress⟩ := task
      cases progress with
      | start => exact rfl
      | ready naming | waiting naming => exact absurd again (answers.send _ _ (told _)).1
      | entering => cases again
  | transfer task =>
      obtain ⟨request, progress, channel⟩ := task
      cases progress with
      | start => exact rfl
      | ready naming => exact absurd again (send_ready_ne_again answers transport rfl)
      | entering | waiting naming => cases again
  | delete task =>
      obtain ⟨path, total, rest, failed, progress⟩ := task
      cases progress with
      | start => exact rfl
      | ready naming => exact absurd again (send_ready_ne_again answers transport rfl)
      | entering | waiting naming => cases again
  | removeDir task =>
      obtain ⟨request, progress⟩ := task
      cases progress with
      | start => exact rfl
      | ready naming => exact absurd again (send_ready_ne_again answers transport rfl)
      | entering | waiting naming => cases again
  | rename task =>
      obtain ⟨request, progress⟩ := task
      cases progress with
      | start => exact rfl
      | ready naming => exact absurd again (send_ready_ne_again answers transport rfl)
      | entering | waiting naming => cases again

/-! ## Who asks to enter a directory is told to act -/

/-- What is asked for when a request completes is a wait. -/
theorem completed_asks {child : Operation} (clear : desk.pending = none)
    (asks : (operation.completed env desk).desk.pending = some child) : child.kind = .sleep := by
  -- without a request the place is as empty as it was
  have none_asked : ∀ after : Desk τ Operation, after.pending = desk.pending →
      after.pending = some child → child.kind = .sleep := by
    intro after same asks
    rw [same, clear] at asks
    cases asks
  cases operation with
  | connect task =>
      obtain ⟨request, stage, attempts⟩ := task
      cases stage with
      | connecting =>
          simp only [completed, ConnectTask.completed] at asks
          split at asks
          · exact none_asked _ rfl asks
          · split at asks
            · exact none_asked _ rfl asks
            · split at asks
              · exact none_asked _ rfl asks
              · obtain rfl : Operation.sleep _ = child :=
                  Option.some.inj ((Desk.request_pending ..).symm.trans asks)
                rfl
      | connect | retryWait => exact none_asked _ rfl asks
  | disconnect task =>
      simp only [completed, DisconnectTask.completed] at asks
      split at asks <;> exact none_asked _ rfl asks
  | sleep task =>
      simp only [completed, SleepTask.completed] at asks
      split at asks <;> exact none_asked _ rfl asks
  | changeDir task =>
      simp only [completed, ChangeDirTask.completed] at asks
      split at asks
      · split at asks <;> exact none_asked _ rfl asks
      · exact none_asked _ rfl asks
  | list task =>
      obtain ⟨request, progress⟩ := task
      cases progress with
      | waiting target =>
          simp only [completed, ListTask.completed] at asks
          split at asks
          · exact none_asked _ rfl asks
          · split at asks
            · exact none_asked (desk.takeListing.2.tellCache _) (Desk.tellCache_pending ..) asks
            · exact none_asked _ rfl asks
      | start | entering target | ready target => exact none_asked _ rfl asks
  | transfer task =>
      obtain ⟨request, progress, channel⟩ := task
      cases progress with
      | waiting naming =>
          simp only [completed, TransferTask.completed] at asks
          split at asks <;> exact none_asked _ rfl asks
      | start | entering | ready naming => exact none_asked _ rfl asks
  | delete task =>
      obtain ⟨path, total, rest, failed, progress⟩ := task
      cases progress with
      | waiting naming =>
          simp only [completed, DeleteTask.completed] at asks
          split at asks
          · split at asks <;> exact none_asked _ rfl asks
          · exact none_asked _ rfl asks
      | start | entering | ready naming => exact none_asked _ rfl asks
  | removeDir task =>
      obtain ⟨request, progress⟩ := task
      cases progress <;> exact none_asked _ rfl asks
  | makeDir task =>
      obtain ⟨request, stage⟩ := task
      cases stage <;> exact none_asked _ rfl asks
  | rename task =>
      obtain ⟨request, progress⟩ := task
      cases progress <;> exact none_asked _ rfl asks
  | chmod task =>
      obtain ⟨request, progress⟩ := task
      cases progress <;> exact none_asked _ rfl asks
  | raw task =>
      simp only [completed, RawTask.completed] at asks
      split at asks <;> exact none_asked _ rfl asks

omit [Transport τ] in
theorem returned_asks (reply : Reply) (finished operation : Operation) (desk : Desk τ Operation) :
    (returned reply finished operation desk).desk.pending = desk.pending := by
  have entered : ∀ consequence,
      (desk.noteEntered reply consequence).pending = desk.pending := by
    intro consequence
    unfold Desk.noteEntered
    split <;> rfl
  cases operation with
  | connect task =>
      simp only [returned, ConnectTask.returned]
      split
      · split <;> rfl
      · rfl
  | list task =>
      obtain ⟨request, progress⟩ := task
      cases progress with
      | entering target =>
          simp only [returned, ListTask.returned]
          split
          · rfl
          · split
            · rfl
            · split
              · rfl
              · exact entered _
      | start | ready target | waiting target => rfl
  | transfer task =>
      obtain ⟨request, progress, channel⟩ := task
      cases progress <;> first | rfl | exact entered _
  | delete task =>
      obtain ⟨path, total, rest, failed, progress⟩ := task
      cases progress <;> rfl
  | removeDir task =>
      obtain ⟨request, progress⟩ := task
      cases progress <;> first | rfl | exact entered _
  | rename task =>
      obtain ⟨request, progress⟩ := task
      cases progress <;> first | rfl | exact entered _
  | chmod task =>
      obtain ⟨request, progress⟩ := task
      cases progress <;> first | rfl | exact entered _
  | disconnect task | sleep task | changeDir task | makeDir task | raw task => rfl

theorem asks_changeDir {event : Event Operation} {child : Operation} (clear : desk.pending = none)
    (asks : (operation.step env event desk).desk.pending = some child)
    (enters : child.kind = .changeDir) : event = .send := by
  cases event with
  | send => rfl
  | completed =>
      rw [completed_asks clear asks] at enters
      cases enters
  | returned reply finished =>
      have same := (returned_asks reply finished operation desk).trans clear
      rw [show (returned reply finished operation desk).desk.pending = some child from asks] at same
      cases same

theorem isSubcommand_of_changeDir (h : operation.kind = .changeDir) :
    operation.isSubcommand = true := by
  cases operation <;> first | rfl | cases h

/-- A directory command starts from the beginning. -/
theorem ofCommand?_idle {command : Command} {protocol : Protocol}
    (h : ofCommand? command protocol = some operation) (works : operation.progress? ≠ none) :
    ¬ operation.hasBegun = true := by
  unfold ofCommand? at h
  split at h <;> cases h <;> first
    | exact absurd rfl works
    | simp [hasBegun, progress?, DeleteTask.ofRequest]

theorem WaitsFor.child_progress? {parent child : Operation} (h : parent.WaitsFor child) :
    child.progress? = none := by
  cases child <;> first | rfl | exact h.elim

theorem WaitsFor.child_hasBegun {parent child : Operation} (h : parent.WaitsFor child) :
    child.hasBegun = true := by
  cases child <;> first | rfl | exact h.elim

end Operation

/-! ## Along the turns of a call -/

namespace Turn

/-- Of so many steps that are allowed in a call, all are left when an operation begins, all but one
when a directory is entered, and not all when a directory command is ready. -/
structure Thrifty (allowed : Nat) (turn : Turn τ Operation) : Prop where
  within : turn.budget ≤ allowed
  begins : turn.event = .send → turn.top.hasBegun = false → turn.budget = allowed
  enters : turn.event = .send → turn.top.kind = .changeDir → turn.budget + 1 = allowed
  ready : turn.event = .send → turn.top.hasBegun = true → turn.top.progress? ≠ none →
    turn.budget < allowed

theorem Thrifty.next {allowed : Nat} {turn after : Turn τ Operation} {env : Env}
    (answers : Transport.NeverGoesOn good) (fits : turn.Fits good) (thrifty : turn.Thrifty allowed)
    (next : turn.next env = .inr after) : after.Thrifty allowed := by
  have sound := fits.sound answers env
  have within := thrifty.within
  rcases Step.next_eq_inr next with ⟨again, left, budget, rfl⟩ | ⟨-, -, -, parent, rest, -, rfl⟩
  · obtain ⟨command, goesOn⟩ := sound.goesOn again
    unfold Step.onward
    rw [Step.noted_pending]
    cases asked : (turn.step env).desk.pending with
    | none =>
        -- the same operation is told to act, which has begun and is no change of directory
        refine ⟨?_, fun _ idle => ?_, fun _ enters => ?_, fun _ _ _ => ?_⟩
        · change left ≤ allowed
          omega
        · have begun : (turn.step env).operation.hasBegun = true :=
            Operation.step_again_begun again
          exact absurd (begun.symm.trans idle) (by decide)
        · have same : turn.top.isSubcommand = true := by
            rw [← sound.succeeds.isSubcommand]
            exact Operation.isSubcommand_of_changeDir enters
          exact absurd (same.symm.trans command) (by decide)
        · change left < allowed
          omega
    | some child =>
        simp only [asked] at goesOn
        refine ⟨?_, fun _ idle => ?_, fun _ enters => ?_, fun _ _ works => ?_⟩
        · change left ≤ allowed
          omega
        · exact absurd (goesOn.1.child_hasBegun.symm.trans idle) (by decide)
        · have acts : turn.event = .send := Operation.asks_changeDir rfl asked enters
          have stepped : (turn.top.step env turn.event
              { turn.desk with pending := none }).reply = .again := again
          have idle : turn.top.hasBegun = false := by
            rw [acts] at stepped
            refine Operation.send_again answers ?_ stepped
            exact fits.transport
          exact budget.symm.trans (thrifty.begins acts idle)
        · exact absurd goesOn.1.child_progress? works
  · exact ⟨within, by rintro ⟨⟩, by rintro ⟨⟩, by rintro ⟨⟩⟩

end Turn

namespace Engine

theorem opening_thrifty {engine : Engine τ Operation} {call : Call} {first : Turn τ Operation}
    (h : engine.opening call = some first) : first.Thrifty engine.settings.maxContinue.toNat := by
  rcases opening_eq_some h with ⟨command, operation, rfl, accepted, rfl⟩ |
    ⟨top, below, rfl, stack, rfl⟩
  · obtain ⟨-, -, protocol, -, offered⟩ := accept_eq_ok accepted
    have command := (Operation.ofCommand?_eq_some offered).2
    refine ⟨Nat.le_refl _, fun _ _ => rfl, fun _ enters => ?_, fun _ begun works => ?_⟩
    · have enters := Operation.isSubcommand_of_changeDir enters
      exact absurd (enters.symm.trans command) (by decide)
    · exact absurd begun (Operation.ofCommand?_idle offered works)
  · exact ⟨Nat.le_refl _, by rintro ⟨⟩, by rintro ⟨⟩, by rintro ⟨⟩⟩

end Engine

end Courier
