import Courier.Proofs.Runs
import Courier.Transport.Scripted

/-!
# What a call answers

The owner of an engine goes by the replies of its calls: it waits for the transport exactly as long
as they are `wouldBlock`. So a call must not answer that when there is nothing to wait for, nor
anything else when there is. Nothing is relied upon here, neither of the transport nor of the
operations: the loop has several ends, and each of them leaves reply and stack in step.
-/

namespace Courier

variable {τ ω : Type} [Transport τ] [Behaviour ω]

/-! ## The ends of the loop -/

/-- The reply tells whether operations are left, and is none that is meant for the engine alone. -/
structure Outcome.Settled (outcome : Outcome τ ω) : Prop where
  waits : outcome.reply = .wouldBlock ↔ outcome.stack ≠ []
  stops : outcome.reply ≠ .again

omit [Transport τ] [Behaviour ω] in
/-- With no operation left, any reply will do that is an outcome. -/
theorem Outcome.Settled.of_empty {outcome : Outcome τ ω} (empty : outcome.stack = [])
    (again : outcome.reply ≠ .again) (wait : outcome.reply ≠ .wouldBlock) : outcome.Settled := by
  refine ⟨?_, again⟩
  constructor
  · intro waits
    exact absurd waits wait
  · intro left
    exact absurd empty left

theorem breakDown_settled (env : Env) (text : String) (stack : List ω) (desk : Desk τ ω) :
    (breakDown env text stack desk).Settled :=
  .of_empty rfl (by decide : Reply.internalError ≠ .again) Reply.internalError_ne_wouldBlock

theorem Step.settled_of_next {env : Env} {budget : Nat} {below : List ω} {step : Step τ ω ω}
    {outcome : Outcome τ ω} (next : step.next env budget below = .inl outcome) :
    outcome.Settled := by
  rcases Step.next_eq_inl next with ⟨-, -, rfl⟩ | ⟨-, subcommand, -, rfl⟩ | ⟨-, -, rfl⟩ |
    ⟨again, wait, -, -, rfl⟩
  · exact breakDown_settled env _ _ _
  · exact breakDown_settled env _ _ _
  · -- the operation that waits is still there
    refine ⟨?_, Reply.again_ne_wouldBlock.symm⟩
    constructor
    · intro _
      exact List.cons_ne_nil _ _
    · intro _
      rfl
  · exact .of_empty rfl again wait

theorem Turn.drive_settled (env : Env) (turn : Turn τ ω) : (turn.drive env).Settled := by
  refine Turn.rule (P := fun _ => True) ?_ ?_ trivial
  · intro _ _ _ _
    trivial
  · intro turn outcome _ next
    exact Step.settled_of_next next

/-! ## The calls -/

namespace Engine

omit [Transport τ] [Behaviour ω] in
theorem isBusy_eq_false_iff {engine : Engine τ ω} : engine.isBusy = false ↔ engine.stack = [] := by
  simp [isBusy]

omit [Transport τ] [Behaviour ω] in
theorem isBusy_eq_true_iff {engine : Engine τ ω} : engine.isBusy = true ↔ engine.stack ≠ [] := by
  simp [isBusy]

omit [Transport τ] in
/-- A busy engine refuses any command. -/
theorem accept_of_busy {engine : Engine τ ω} (busy : engine.isBusy = true) (command : Command) :
    engine.accept command = .error .busy := by
  unfold accept
  rw [if_pos busy]

/-- What is driven from its beginning was started by an idle engine. -/
theorem idle_of_opening {engine : Engine τ ω} {command : Command} {first : Turn τ ω}
    (opened : engine.opening (.execute command) = some first) : engine.isBusy = false := by
  cases busy : engine.isBusy with
  | false => rfl
  | true =>
      unfold opening at opened
      simp [accept_of_busy busy] at opened

theorem cancel_idle (engine : Engine τ ω) : engine.cancel.2.isBusy = false := by
  unfold cancel
  by_cases busy : engine.isBusy = true
  · rw [if_pos busy]
    rfl
  · rw [if_neg busy]
    simpa using busy

theorem connectionLost_idle (engine : Engine τ ω) : engine.connectionLost.2.isBusy = false := by
  unfold connectionLost
  by_cases busy : engine.isBusy = true
  · rw [if_pos busy]
    rfl
  · rw [if_neg busy]
    simpa [isBusy] using busy

theorem cancel_reply (engine : Engine τ ω) :
    engine.cancel.1 = .canceled ∨ engine.cancel.1 = .ok := by
  unfold cancel
  by_cases busy : engine.isBusy = true
  · rw [if_pos busy]
    exact .inl rfl
  · rw [if_neg busy]
    exact .inr rfl

theorem connectionLost_reply (engine : Engine τ ω) :
    engine.connectionLost.1 = .error ||| .disconnected ∨
      engine.connectionLost.1 = .disconnected := by
  unfold connectionLost
  by_cases busy : engine.isBusy = true
  · rw [if_pos busy]
    exact .inl rfl
  · rw [if_neg busy]
    exact .inr rfl

/-- A command that is refused, and a completion where nothing waits for one, leave no more than a
note. -/
theorem make_of_not_opened {engine : Engine τ ω} {call : Call} (h : engine.opening call = none)
    (stays : call ≠ .cancel) (connected : call ≠ .connectionLost) :
    ∃ reply desk, engine.make call = (reply, { engine with desk }) ∧ reply.isError = true ∧
      (desk = engine.desk ∨ ∃ level text, desk = engine.desk.note level text) := by
  cases call with
  | execute command =>
      obtain ⟨refusal, desk, refused, same | ⟨level, text, -, noted⟩⟩ := execute_of_refused h
      · exact ⟨_, desk, refused, refusal.reply_isError, .inl same⟩
      · exact ⟨_, desk, refused, refusal.reply_isError, .inr ⟨level, text, noted⟩⟩
  | resume =>
      exact ⟨.internalError, _, resume_of_idle (stack_of_not_resumed h), by decide,
        .inr ⟨_, _, rfl⟩⟩
  | cancel => exact absurd rfl stays
  | connectionLost => exact absurd rfl connected

/-- A call that does not drive the stack answers with an outcome. -/
theorem reply_of_not_opened {engine : Engine τ ω} {call : Call}
    (h : engine.opening call = none) :
    (engine.make call).1 ≠ .again ∧ (engine.make call).1 ≠ .wouldBlock := by
  cases call with
  | cancel =>
      change engine.cancel.1 ≠ .again ∧ engine.cancel.1 ≠ .wouldBlock
      rcases engine.cancel_reply with reply | reply
      · rw [reply]
        exact ⟨by decide, by decide⟩
      · rw [reply]
        exact ⟨by decide, by decide⟩
  | connectionLost =>
      change engine.connectionLost.1 ≠ .again ∧ engine.connectionLost.1 ≠ .wouldBlock
      rcases engine.connectionLost_reply with reply | reply
      · rw [reply]
        exact ⟨by decide, by decide⟩
      · rw [reply]
        exact ⟨by decide, by decide⟩
  | _ =>
      obtain ⟨reply, desk, made, failed, -⟩ := make_of_not_opened h nofun nofun
      rw [made]
      exact ⟨Reply.ne_again_of_isError failed, Reply.ne_wouldBlock_of_isError failed⟩

/-- What an owner who hears only the replies makes of one: whether a command is in progress after
the call, given whether one was before. -/
def Call.leavesBusy (busy : Bool) (reply : Reply) : Call → Bool
  | .execute _ => busy || reply = .wouldBlock
  | .resume => reply = .wouldBlock
  | .cancel | .connectionLost => false

/-- The replies tell whether a command is in progress. -/
theorem make_isBusy (engine : Engine τ ω) (call : Call) :
    (engine.make call).2.isBusy = call.leavesBusy engine.isBusy (engine.make call).1 := by
  cases opened : engine.opening call with
  | some first =>
      have settled := first.drive_settled engine.env
      rw [make_of_opening opened]
      have waits : (engine.take (first.drive engine.env)).2.isBusy =
          decide ((first.drive engine.env).reply = .wouldBlock) := by
        rw [Bool.eq_iff_iff, isBusy_eq_true_iff, decide_eq_true_iff]
        exact settled.waits.symm
      rw [waits]
      cases call with
      | execute command =>
          -- the command was accepted, so none was in progress
          rw [Call.leavesBusy, idle_of_opening opened, Bool.false_or]
          rfl
      | resume => rfl
      | cancel => cases opened
      | connectionLost => cases opened
  | none =>
      have answered : (engine.make call).1 ≠ .wouldBlock := (reply_of_not_opened opened).2
      cases call with
      | execute command =>
          obtain ⟨refusal, desk, refused, -⟩ := execute_of_refused opened
          rw [Call.leavesBusy, decide_eq_false answered, Bool.or_false, make, refused]
          rfl
      | resume =>
          have empty := stack_of_not_resumed opened
          rw [Call.leavesBusy, decide_eq_false answered, isBusy_eq_false_iff, make,
            resume_of_idle empty]
          exact empty
      | cancel => exact engine.cancel_idle
      | connectionLost => exact engine.connectionLost_idle

theorem reply_ne_again (engine : Engine τ ω) (call : Call) : (engine.make call).1 ≠ .again := by
  cases opened : engine.opening call with
  | some first =>
      rw [make_of_opening opened]
      exact (first.drive_settled engine.env).stops
  | none => exact (reply_of_not_opened opened).1

/-- The owner makes a call and goes by its reply; whether it believes the engine to be busy comes
first. -/
def goByReply (belief : Bool × Engine τ ω) (call : Call) : Bool × Engine τ ω :=
  (call.leavesBusy belief.1 (belief.2.make call).1, (belief.2.make call).2)

/-- After any calls, an owner who went by the replies knows whether a command is in progress. -/
theorem goByReply_knows (engine : Engine τ ω) (calls : List Call) :
    (calls.foldl goByReply (engine.isBusy, engine)).1 =
      (calls.foldl goByReply (engine.isBusy, engine)).2.isBusy := by
  induction calls generalizing engine with
  | nil => rfl
  | cons call rest ih =>
      rw [List.foldl_cons, goByReply, ← engine.make_isBusy call]
      exact ih (engine.make call).2

/-- A busy engine refuses any command, which changes nothing but the notes. -/
theorem execute_of_busy {engine : Engine τ ω} (busy : engine.isBusy = true) (command : Command) :
    (engine.execute command).1 = .busy ∧ (engine.execute command).2.stack = engine.stack := by
  unfold execute
  simp only [accept_of_busy busy]
  exact ⟨rfl, trivial⟩

/-- Nobody is asked to wait for nothing. -/
theorem isBusy_of_wouldBlock {engine : Engine τ ω} {call : Call}
    (wait : (engine.make call).1 = .wouldBlock) : (engine.make call).2.isBusy = true := by
  rw [engine.make_isBusy call]
  cases call with
  | execute command => exact Bool.or_eq_true_iff.2 (.inr (decide_eq_true wait))
  | resume => exact decide_eq_true wait
  | cancel => exact absurd wait (reply_of_not_opened rfl).2
  | connectionLost => exact absurd wait (reply_of_not_opened rfl).2

/-- Whatever the operations do and whatever the transport answers, in every state of an engine: a
command that is started, or gone on with, is answered by `wouldBlock` exactly if it is in progress
afterwards; a busy engine lets no other command on its stack; and giving up leaves nothing behind.
No call answers what is meant for the engine alone, and none asks its owner to wait for nothing. -/
theorem reply_tells_busy (engine : Engine τ ω) :
    (engine.isBusy = false → ∀ command,
      ((engine.execute command).1 = .wouldBlock ↔
        (engine.execute command).2.isBusy = true)) ∧
    (engine.isBusy = true →
      (engine.resume.1 = .wouldBlock ↔ engine.resume.2.isBusy = true) ∧
      ∀ command, (engine.execute command).1 = .busy ∧
        (engine.execute command).2.stack = engine.stack) ∧
    engine.cancel.2.isBusy = false ∧
    engine.connectionLost.2.isBusy = false ∧
    ∀ call, (engine.make call).1 ≠ .again ∧
      ((engine.make call).1 = .wouldBlock → (engine.make call).2.isBusy = true) := by
  have resumes : engine.resume.1 = .wouldBlock ↔ engine.resume.2.isBusy = true := by
    have told := engine.make_isBusy .resume
    change engine.resume.2.isBusy = decide (engine.resume.1 = .wouldBlock) at told
    rw [told, decide_eq_true_iff]
  refine ⟨?_, ?_, engine.cancel_idle, engine.connectionLost_idle, ?_⟩
  · intro idle command
    have told := engine.make_isBusy (.execute command)
    rw [idle] at told
    change (engine.execute command).2.isBusy =
      decide ((engine.execute command).1 = .wouldBlock) at told
    rw [told, decide_eq_true_iff]
  · intro busy
    exact ⟨resumes, execute_of_busy busy⟩
  · intro call
    exact ⟨engine.reply_ne_again call, isBusy_of_wouldBlock⟩

end Engine

/-! ## Operations that misbehave -/

/-- An operation that makes the same of whatever it is told. -/
structure Stubborn where
  reply : Reply
  /-- It asks for another one of its kind as well. -/
  asks : Bool

instance : HasKind Stubborn := ⟨fun _ => .sleep⟩

instance : Behaviour Stubborn where
  stage := fun _ => "stubborn"
  ofCommand? := fun _ _ => none
  step := fun _ _ operation desk =>
    (if operation.asks then desk.request operation else desk).answer operation.reply operation
  cancel := fun _ operation desk => (operation, desk)
  channel? := fun _ => none
  withChannel := fun _ operation => operation
  buffers := fun _ => []

namespace Engine

/-- An engine with such an operation in progress. -/
def stubborn (operation : Stubborn) : Engine Scripted Stubborn :=
  { desk := { transport := {} }, stack := [operation] }

/-- Whether an operation asks to wait and for a subcommand at once, or goes round in circles, the
engine gives it up and says so. -/
theorem reply_tells_busy_stubborn :
    (stubborn ⟨.wouldBlock, true⟩).resume.2.isBusy = false ∧
      (stubborn ⟨.again, true⟩).resume.2.isBusy = false ∧
      (stubborn ⟨.wouldBlock, false⟩).resume.2.isBusy = true := by
  have resumes : ∀ operation, (stubborn operation).resume.1 = .wouldBlock ↔
      (stubborn operation).resume.2.isBusy = true := fun operation =>
    ((reply_tells_busy (stubborn operation)).2.1 rfl).1
  refine ⟨?_, ?_, (resumes _).1 (by decide +kernel)⟩
  · rw [Bool.eq_false_iff, Ne, ← resumes]
    decide +kernel
  · rw [Bool.eq_false_iff, Ne, ← resumes]
    decide +kernel

end Engine

end Courier
