import Courier.Proofs.Steps

/-!
# Expected steps are sound

One lemma for each operation and event: a step the operation has a use for keeps the promises of
`Step.Sound`, over a transport that never tells an operation to go on. An event it has no use for
leads to nothing but a note of the defect.
-/

namespace Courier

variable {τ : Type} [Transport τ] {good : Transport.States τ} {start desk : Desk τ Operation}
  {reply : Reply}

/-! ## Connecting, disconnecting and waiting -/

namespace ConnectTask

variable {task : ConnectTask}

theorem send_sound (answers : Transport.NeverGoesOn good) (clear : Desk.Clear good start desk)
    (h : (Operation.connect task).acts = true) :
    ((task.send desk).map .connect).Sound good start (.connect task) := by
  have stage : task.stage = .connect := by simpa [Operation.acts] using h
  simp only [send, stage]
  exact ((clear.note _ (by decide)).withSession _).connect answers _ _ rfl (.of_command rfl rfl)

theorem completed_sound (env : Env) (clear : Desk.Clear good start desk)
    (again : desk.result ≠ .again) (h : (Operation.connect task).awaitsCompletion = true) :
    ((task.completed env desk).map .connect).Sound good start (.connect task) := by
  have stage : task.stage = .connecting := by simpa [Operation.awaitsCompletion] using h
  simp only [completed, stage]
  split
  · exact ((clear.note _ (by decide)).withSession _).ends (by decide) (by decide)
      (.of_command rfl rfl)
  · split
    · exact (clear.note _ (by decide)).ends (by decide) (by decide) (.of_command rfl rfl)
    · split
      · exact clear.answer again (fun _ => h) (.of_command rfl rfl)
      · exact (clear.note _ (by decide)).request rfl rfl rfl (.of_command rfl rfl)

omit [Transport τ] in
theorem returned_sound (again : reply ≠ .again) (wait : reply ≠ .wouldBlock)
    (finished : Operation) (clear : Desk.Clear good start desk)
    (h : (Operation.connect task).expects (.returned reply finished) = true) :
    ((task.returned reply finished desk).map .connect).Sound good start (.connect task) := by
  have stage : task.stage = .retryWait ∧ finished.kind = .sleep := by
    simpa [Operation.expects, Operation.entering?, Operation.isRetrying] using h
  simp only [returned, stage, and_self, if_true]
  split
  · exact clear.answerAgain rfl rfl (.of_command rfl rfl)
  · exact (clear.note _ (by decide)).ends again wait (.of_command rfl rfl)

end ConnectTask

namespace DisconnectTask

variable {task : DisconnectTask}

theorem send_sound (answers : Transport.NeverGoesOn good) (clear : Desk.Clear good start desk)
    (h : (Operation.disconnect task).acts = true) :
    ((task.send desk).map .disconnect).Sound good start (.disconnect task) := by
  have idle : task.waiting = false := by simpa [Operation.acts] using h
  have asked : Desk.Clear good start (desk.note .info "Disconnecting").disconnect.2 :=
    (clear.note _ (by decide)).disconnect answers
  simp only [send, idle, Bool.false_eq_true, if_false]
  split
  · rename_i blocks
    exact asked.answer (fun h => absurd (h.symm.trans blocks) Reply.again_ne_wouldBlock)
      (fun _ => rfl) (.of_command rfl rfl)
  · split
    · exact ((asked.note _ (by decide)).withSession _).ends (by decide) (by decide)
        (.of_command rfl rfl)
    · exact (asked.withSession _).ends (by decide) (by decide) (.of_command rfl rfl)

omit [Transport τ] in
theorem completed_sound (clear : Desk.Clear good start desk)
    (h : (Operation.disconnect task).awaitsCompletion = true) :
    ((task.completed desk).map .disconnect).Sound good start (.disconnect task) := by
  have waiting : task.waiting = true := by simpa [Operation.awaitsCompletion] using h
  simp only [completed, waiting, if_true]
  exact (clear.withSession _).ends (by decide) (by decide) (.of_command rfl rfl)

end DisconnectTask

namespace SleepTask

variable {task : SleepTask}

theorem send_sound (answers : Transport.NeverGoesOn good) (clear : Desk.Clear good start desk)
    (h : (Operation.sleep task).acts = true) :
    ((task.send desk).map .sleep).Sound good start (.sleep task) := by
  have idle : task.waiting = false := by simpa [Operation.acts] using h
  simp only [send, idle, Bool.false_eq_true, if_false]
  exact (clear.note _ (by decide)).wakeUp answers _ rfl ⟨rfl, fun _ h => h⟩

theorem completed_sound (clear : Desk.Clear good start desk)
    (again : desk.result ≠ .again) (h : (Operation.sleep task).awaitsCompletion = true) :
    ((task.completed desk).map .sleep).Sound good start (.sleep task) := by
  have waiting : task.waiting = true := by simpa [Operation.awaitsCompletion] using h
  simp only [completed, waiting, if_true]
  exact clear.answer again (fun _ => h) ⟨rfl, fun _ h => h⟩

end SleepTask

/-! ## Changing the remote working directory -/

namespace ChangeDirTask

variable {task : ChangeDirTask}

theorem send_sound (answers : Transport.NeverGoesOn good) (clear : Desk.Clear good start desk)
    (h : (Operation.changeDir task).acts = true) :
    ((task.send desk).map .changeDir).Sound good start (.changeDir task) := by
  have idle : task.waiting = false := by simpa [Operation.acts] using h
  simp only [send, idle, Bool.false_eq_true, if_false]
  split
  · exact (clear.note _ (by decide)).ends (by decide) (by decide) ⟨rfl, fun _ h => h⟩
  · split
    · exact (clear.note _ (by decide)).ends (by decide) (by decide) ⟨rfl, fun _ h => h⟩
    · exact (clear.withSession _).send answers _ rfl ⟨rfl, fun _ h => h⟩

theorem completed_sound (clear : Desk.Clear good start desk)
    (again : desk.result ≠ .again) (h : (Operation.changeDir task).awaitsCompletion = true) :
    ((task.completed desk).map .changeDir).Sound good start (.changeDir task) := by
  have waiting : task.waiting = true := by simpa [Operation.awaitsCompletion] using h
  simp only [completed, waiting, if_true]
  split
  · exact (clear.withSession _).answer again (fun _ => h)
      ⟨rfl, fun _ h => h⟩
  · exact clear.answer again (fun _ => h) ⟨rfl, fun _ h => h⟩

end ChangeDirTask

/-! ## Listing -/

namespace ListTask

variable {task : ListTask}

omit [Transport τ] in
theorem discard_clear (clear : Desk.Clear good start desk) (flags : ListFlags)
    (target : Option RemotePath) : Desk.Clear good start (discard flags target desk) := by
  unfold discard
  cases target with
  | none => exact clear
  | some path =>
      simp only
      split
      · exact clear.tellCache _
      · exact clear

omit [Transport τ] in
theorem consultCache_clear (clear : Desk.Clear good start desk) (env : Env) (flags : ListFlags)
    (target : Option RemotePath) :
    Desk.Clear good start (consultCache env flags target desk).2 := by
  unfold consultCache
  split
  · exact clear
  · cases target with
    | none => exact clear
    | some path => exact clear.lookup path

theorem send_sound (answers : Transport.NeverGoesOn good) (env : Env)
    (clear : Desk.Clear good start desk) (h : (Operation.list task).acts = true) :
    ((task.send env desk).map .list).Sound good start (.list task) := by
  obtain ⟨request, progress⟩ := task
  cases progress with
  | start =>
      have consulted := consultCache_clear
        (discard_clear clear request.flags (request.target? desk.session.directory)) env
        request.flags (request.target? desk.session.directory)
      simp only [send]
      split
      · exact (consulted.note _ (by decide)).ends (by decide) (by decide) (.of_command rfl rfl)
      · split
        · split
          · exact consulted.answerAgain rfl rfl (.of_command rfl rfl)
          · exact consulted.request rfl rfl rfl (.of_command rfl rfl)
        · exact consulted.answerAgain rfl rfl (.of_command rfl rfl)
  | ready target => exact (clear.note _ (by decide)).send answers _ rfl (.of_command rfl rfl)
  | entering target => cases h
  | waiting target => cases h

theorem completed_sound (answers : Transport.NeverGoesOn good) (env : Env)
    (clear : Desk.Clear good start desk) (again : desk.result ≠ .again)
    (h : (Operation.list task).awaitsCompletion = true) :
    ((task.completed env desk).map .list).Sound good start (.list task) := by
  have awaits := h
  obtain ⟨request, progress⟩ := task
  cases progress with
  | waiting target =>
      simp only [completed]
      split
      · exact clear.answer again (fun _ => awaits) (.of_command rfl rfl)
      · split
        · exact ((clear.takeListing answers).tellCache _).answer again
            (fun _ => awaits) (.of_command rfl rfl)
        · exact (clear.takeListing answers).answer again
            (fun _ => awaits) (.of_command rfl rfl)
  | start => cases h
  | entering target => cases h
  | ready target => cases h

omit [Transport τ] in
theorem returned_sound (again : reply ≠ .again) (wait : reply ≠ .wouldBlock)
    (clear : Desk.Clear good start desk)
    (h : (Operation.list task).entering?.isSome = true) :
    ((task.returned reply desk).map .list).Sound good start (.list task) := by
  obtain ⟨request, progress⟩ := task
  cases progress with
  | entering target =>
      simp only [returned]
      split
      · exact clear.answerAgain rfl rfl (.of_command rfl rfl)
      · split
        · exact (clear.note _ (by decide)).ends (by decide) (by decide) (.of_command rfl rfl)
        · split
          · exact clear.ends again wait (.of_command rfl rfl)
          · exact (clear.noteEntered _ _).answerAgain rfl rfl (.of_command rfl rfl)
  | start => cases h
  | ready target => cases h
  | waiting target => cases h

end ListTask

/-! ## Transferring -/

namespace TransferTask

variable {task : TransferTask}

omit [Transport τ] in
theorem mark_clear (clear : Desk.Clear good start desk) (freshness : Freshness) :
    Desk.Clear good start (task.mark freshness desk) := by
  unfold mark
  split
  · exact clear
  · exact clear.tellCache _

omit [Transport τ] in
theorem openChannel_ok {channel : Local.Channel} {after : Desk τ Operation}
    (opened : task.openChannel desk = .ok (channel, after)) :
    ∃ store, after = { desk with store } := by
  unfold openChannel at opened
  split at opened
  · split at opened
    · cases opened
      exact ⟨desk.store, rfl⟩
    · cases opened
  · split at opened
    · cases opened
      exact ⟨_, rfl⟩
    · cases opened

omit [Transport τ] in
/-- What cannot be opened is a critical failure, of writing for a sink. -/
theorem openChannel_error {after : Desk τ Operation}
    (refused : task.openChannel desk = .error (reply, after)) :
    (reply = .critical ∨ reply = .critical ||| .writeFailed) ∧
      ∃ text, after = desk.note .warn text := by
  unfold openChannel at refused
  split at refused
  · split at refused
    · cases refused
    · cases refused
      exact ⟨.inl rfl, _, rfl⟩
  · split at refused
    · cases refused
    · cases refused
      exact ⟨.inr rfl, _, rfl⟩

theorem send_sound (answers : Transport.NeverGoesOn good) (clear : Desk.Clear good start desk)
    (h : (Operation.transfer task).acts = true) :
    ((task.send desk).map .transfer).Sound good start (.transfer task) := by
  obtain ⟨request, progress, channel⟩ := task
  cases progress with
  | start =>
      simp only [send]
      refine Desk.Clear.request (Desk.Clear.note ?_ _ (by decide)) rfl rfl rfl (.of_command rfl rfl)
      split
      · exact clear.note _ (by decide)
      · exact clear
  | ready naming =>
      simp only [send]
      split
      · rename_i reply after refused
        obtain ⟨critical, text, rfl⟩ := openChannel_error refused
        -- the failure is an outcome: it neither goes on nor waits
        have failed : reply.isError = true := by
          rcases critical with rfl | rfl <;> decide
        exact (clear.note _ (by decide)).ends (Reply.ne_again_of_isError failed)
          (Reply.ne_wouldBlock_of_isError failed) (.of_command rfl rfl)
      · rename_i opened
        obtain ⟨store, rfl⟩ := openChannel_ok opened
        exact ((mark_clear (clear.withStore store) _).announce answers _).send answers _ rfl
          (.of_command rfl rfl)
  | entering => cases h
  | waiting naming => cases h

theorem completed_sound (clear : Desk.Clear good start desk)
    (again : desk.result ≠ .again) (h : (Operation.transfer task).awaitsCompletion = true) :
    ((task.completed desk).map .transfer).Sound good start (.transfer task) := by
  obtain ⟨request, progress, channel⟩ := task
  cases progress with
  | waiting naming =>
      simp only [completed]
      split
      · exact (clear.note _ (by decide)).answer again (fun _ => rfl)
          (.of_command rfl rfl)
      · exact clear.answer again (fun _ => rfl) (.of_command rfl rfl)
  | start => cases h
  | entering => cases h
  | ready naming => cases h

omit [Transport τ] in
theorem returned_sound (clear : Desk.Clear good start desk)
    (h : (Operation.transfer task).entering?.isSome = true) :
    ((task.returned reply desk).map .transfer).Sound good start (.transfer task) := by
  obtain ⟨request, progress, channel⟩ := task
  cases progress with
  | entering => exact (clear.noteEntered _ _).answerAgain rfl rfl (.of_command rfl rfl)
  | start => cases h
  | ready naming => cases h
  | waiting naming => cases h

end TransferTask

/-! ## Removing -/

namespace DeleteTask

variable {task : DeleteTask}

theorem send_sound (answers : Transport.NeverGoesOn good) (clear : Desk.Clear good start desk)
    (h : (Operation.delete task).acts = true) :
    ((task.send desk).map .delete).Sound good start (.delete task) := by
  obtain ⟨path, total, rest, failed, progress⟩ := task
  cases progress with
  | start => exact (clear.note _ (by decide)).request rfl rfl rfl (.of_command rfl rfl)
  | ready naming =>
      cases rest with
      | nil =>
          simp only [send]
          split
          · exact clear.ends (by decide) (by decide) (.of_command rfl rfl)
          · exact (clear.note _ (by decide)).ends (by decide) (by decide) (.of_command rfl rfl)
      | cons file files => exact (clear.tellCache _).send answers _ rfl (.of_command rfl rfl)
  | entering => cases h
  | waiting naming => cases h

theorem completed_sound (clear : Desk.Clear good start desk)
    (again : desk.result ≠ .again) (h : (Operation.delete task).awaitsCompletion = true) :
    ((task.completed desk).map .delete).Sound good start (.delete task) := by
  obtain ⟨path, total, rest, failed, progress⟩ := task
  cases progress with
  | waiting naming =>
      simp only [completed]
      split
      · rename_i error
        split
        · exact clear.ends again (Reply.ne_wouldBlock_of_isError error)
            (.of_command rfl rfl)
        · exact (clear.note _ (by decide)).answerAgain rfl rfl (.of_command rfl rfl)
      · exact clear.answerAgain rfl rfl (.of_command rfl rfl)
  | start => cases h
  | entering => cases h
  | ready naming => cases h

omit [Transport τ] in
theorem returned_sound (clear : Desk.Clear good start desk)
    (h : (Operation.delete task).entering?.isSome = true) :
    ((task.returned reply desk).map .delete).Sound good start (.delete task) := by
  obtain ⟨path, total, rest, failed, progress⟩ := task
  cases progress with
  | entering => exact clear.answerAgain rfl rfl (.of_command rfl rfl)
  | start => cases h
  | ready naming => cases h
  | waiting naming => cases h

end DeleteTask

namespace RemoveDirTask

variable {task : RemoveDirTask}

theorem send_sound (answers : Transport.NeverGoesOn good) (clear : Desk.Clear good start desk)
    (h : (Operation.removeDir task).acts = true) :
    ((task.send desk).map .removeDir).Sound good start (.removeDir task) := by
  obtain ⟨request, progress⟩ := task
  cases progress with
  | start => exact (clear.note _ (by decide)).request rfl rfl rfl (.of_command rfl rfl)
  | ready naming => exact (clear.tellCache _).send answers _ rfl (.of_command rfl rfl)
  | entering => cases h
  | waiting naming => cases h

theorem completed_sound (clear : Desk.Clear good start desk)
    (again : desk.result ≠ .again) (h : (Operation.removeDir task).awaitsCompletion = true) :
    ((task.completed desk).map .removeDir).Sound good start (.removeDir task) := by
  obtain ⟨request, progress⟩ := task
  cases progress with
  | waiting naming =>
      exact clear.answer again (fun _ => rfl) (.of_command rfl rfl)
  | start => cases h
  | entering => cases h
  | ready naming => cases h

omit [Transport τ] in
theorem returned_sound (clear : Desk.Clear good start desk)
    (h : (Operation.removeDir task).entering?.isSome = true) :
    ((task.returned reply desk).map .removeDir).Sound good start (.removeDir task) := by
  obtain ⟨request, progress⟩ := task
  cases progress with
  | entering => exact (clear.noteEntered _ _).answerAgain rfl rfl (.of_command rfl rfl)
  | start => cases h
  | ready naming => cases h
  | waiting naming => cases h

end RemoveDirTask

/-! ## Altering the remote tree -/

namespace MakeDirTask

variable {task : MakeDirTask}

omit [Transport τ] in
theorem mark_clear (clear : Desk.Clear good start desk) (freshness : Freshness) :
    Desk.Clear good start (task.mark freshness desk) := by
  unfold mark
  split
  · exact clear.tellCache _
  · exact clear

theorem send_sound (answers : Transport.NeverGoesOn good) (clear : Desk.Clear good start desk)
    (h : (Operation.makeDir task).acts = true) :
    ((task.send desk).map .makeDir).Sound good start (.makeDir task) := by
  obtain ⟨request, stage⟩ := task
  cases stage with
  | start => exact (clear.note _ (by decide)).answerAgain rfl rfl (.of_command rfl rfl)
  | ready => exact (mark_clear clear _).send answers _ rfl (.of_command rfl rfl)
  | waiting => cases h

theorem completed_sound (clear : Desk.Clear good start desk)
    (again : desk.result ≠ .again) (h : (Operation.makeDir task).awaitsCompletion = true) :
    ((task.completed desk).map .makeDir).Sound good start (.makeDir task) := by
  obtain ⟨request, stage⟩ := task
  cases stage with
  | waiting =>
      exact clear.answer again (fun _ => rfl) (.of_command rfl rfl)
  | start => cases h
  | ready => cases h

end MakeDirTask

namespace RenameTask

variable {task : RenameTask}

theorem send_sound (answers : Transport.NeverGoesOn good) (clear : Desk.Clear good start desk)
    (h : (Operation.rename task).acts = true) :
    ((task.send desk).map .rename).Sound good start (.rename task) := by
  obtain ⟨request, progress⟩ := task
  cases progress with
  | start => exact (clear.note _ (by decide)).request rfl rfl rfl (.of_command rfl rfl)
  | ready naming => exact (clear.tellCache _).send answers _ rfl (.of_command rfl rfl)
  | entering => cases h
  | waiting naming => cases h

theorem completed_sound (clear : Desk.Clear good start desk)
    (again : desk.result ≠ .again) (h : (Operation.rename task).awaitsCompletion = true) :
    ((task.completed desk).map .rename).Sound good start (.rename task) := by
  obtain ⟨request, progress⟩ := task
  cases progress with
  | waiting naming =>
      exact clear.answer again (fun _ => rfl) (.of_command rfl rfl)
  | start => cases h
  | entering => cases h
  | ready naming => cases h

omit [Transport τ] in
theorem returned_sound (clear : Desk.Clear good start desk)
    (h : (Operation.rename task).entering?.isSome = true) :
    ((task.returned reply desk).map .rename).Sound good start (.rename task) := by
  obtain ⟨request, progress⟩ := task
  cases progress with
  | entering => exact (clear.noteEntered _ _).answerAgain rfl rfl (.of_command rfl rfl)
  | start => cases h
  | ready naming => cases h
  | waiting naming => cases h

end RenameTask

namespace ChmodTask

variable {task : ChmodTask}

theorem send_sound (answers : Transport.NeverGoesOn good) (clear : Desk.Clear good start desk)
    (h : (Operation.chmod task).acts = true) :
    ((task.send desk).map .chmod).Sound good start (.chmod task) := by
  obtain ⟨request, progress⟩ := task
  cases progress with
  | start => exact (clear.note _ (by decide)).request rfl rfl rfl (.of_command rfl rfl)
  | ready naming => exact (clear.tellCache _).send answers _ rfl (.of_command rfl rfl)
  | waiting naming => exact (clear.tellCache _).send answers _ rfl (.of_command rfl rfl)
  | entering => cases h

theorem completed_sound (clear : Desk.Clear good start desk)
    (again : desk.result ≠ .again) (h : (Operation.chmod task).awaitsCompletion = true) :
    ((task.completed desk).map .chmod).Sound good start (.chmod task) := by
  obtain ⟨request, progress⟩ := task
  cases progress with
  | ready naming =>
      exact clear.answer again (fun _ => rfl) (.of_command rfl rfl)
  | waiting naming =>
      exact clear.answer again (fun _ => rfl) (.of_command rfl rfl)
  | start => cases h
  | entering => cases h

omit [Transport τ] in
theorem returned_sound (clear : Desk.Clear good start desk)
    (h : (Operation.chmod task).entering?.isSome = true) :
    ((task.returned reply desk).map .chmod).Sound good start (.chmod task) := by
  obtain ⟨request, progress⟩ := task
  cases progress with
  | entering => exact (clear.noteEntered _ _).answerAgain rfl rfl (.of_command rfl rfl)
  | start => cases h
  | ready naming => cases h
  | waiting naming => cases h

end ChmodTask

namespace RawTask

variable {task : RawTask}

theorem send_sound (answers : Transport.NeverGoesOn good) (clear : Desk.Clear good start desk)
    (h : (Operation.raw task).acts = true) :
    ((task.send desk).map .raw).Sound good start (.raw task) := by
  have idle : task.waiting = false := by simpa [Operation.acts] using h
  simp only [send, idle, Bool.false_eq_true, if_false]
  exact (((clear.note _ (by decide)).tellCache _).withSession _).send answers _ rfl
    (.of_command rfl rfl)

theorem completed_sound (clear : Desk.Clear good start desk)
    (again : desk.result ≠ .again) (h : (Operation.raw task).awaitsCompletion = true) :
    ((task.completed desk).map .raw).Sound good start (.raw task) := by
  have waiting : task.waiting = true := by simpa [Operation.awaitsCompletion] using h
  simp only [completed, waiting, if_true]
  exact clear.answer again (fun _ => h) (.of_command rfl rfl)

end RawTask

/-! ## All operations -/

/-- What a subcommand ended with was an outcome. -/
def Event.IsOutcome : Event Operation → Prop
  | .returned reply _ => reply ≠ .again ∧ reply ≠ .wouldBlock
  | .send | .completed => True

namespace Operation

variable {operation finished : Operation}

theorem send_sound (answers : Transport.NeverGoesOn good) (env : Env)
    (clear : Desk.Clear good start desk) (h : operation.acts = true) :
    (operation.send env desk).Sound good start operation := by
  cases operation with
  | connect task => exact ConnectTask.send_sound answers clear h
  | disconnect task => exact DisconnectTask.send_sound answers clear h
  | sleep task => exact SleepTask.send_sound answers clear h
  | changeDir task => exact ChangeDirTask.send_sound answers clear h
  | list task => exact ListTask.send_sound answers env clear h
  | transfer task => exact TransferTask.send_sound answers clear h
  | delete task => exact DeleteTask.send_sound answers clear h
  | removeDir task => exact RemoveDirTask.send_sound answers clear h
  | makeDir task => exact MakeDirTask.send_sound answers clear h
  | rename task => exact RenameTask.send_sound answers clear h
  | chmod task => exact ChmodTask.send_sound answers clear h
  | raw task => exact RawTask.send_sound answers clear h

theorem completed_sound (answers : Transport.NeverGoesOn good) (env : Env)
    (clear : Desk.Clear good start desk) (again : desk.result ≠ .again)
    (h : operation.awaitsCompletion = true) :
    (operation.completed env desk).Sound good start operation := by
  cases operation with
  | connect task => exact ConnectTask.completed_sound env clear again h
  | disconnect task => exact DisconnectTask.completed_sound clear h
  | sleep task => exact SleepTask.completed_sound clear again h
  | changeDir task => exact ChangeDirTask.completed_sound clear again h
  | list task => exact ListTask.completed_sound answers env clear again h
  | transfer task => exact TransferTask.completed_sound clear again h
  | delete task => exact DeleteTask.completed_sound clear again h
  | removeDir task => exact RemoveDirTask.completed_sound clear again h
  | makeDir task => exact MakeDirTask.completed_sound clear again h
  | rename task => exact RenameTask.completed_sound clear again h
  | chmod task => exact ChmodTask.completed_sound clear again h
  | raw task => exact RawTask.completed_sound clear again h

omit [Transport τ] in
theorem returned_sound (again : reply ≠ .again) (wait : reply ≠ .wouldBlock)
    (clear : Desk.Clear good start desk)
    (h : operation.expects (.returned reply finished) = true) :
    (returned reply finished operation desk).Sound good start operation := by
  -- all but a connection wait for nothing but to enter a directory
  have enters : operation.isRetrying = false → operation.entering?.isSome = true := by
    intro idle
    simpa [expects, idle] using h
  cases operation with
  | connect task => exact ConnectTask.returned_sound again wait finished clear h
  | list task => exact ListTask.returned_sound again wait clear (enters rfl)
  | transfer task => exact TransferTask.returned_sound clear (enters rfl)
  | delete task => exact DeleteTask.returned_sound clear (enters rfl)
  | removeDir task => exact RemoveDirTask.returned_sound clear (enters rfl)
  | rename task => exact RenameTask.returned_sound clear (enters rfl)
  | chmod task => exact ChmodTask.returned_sound clear (enters rfl)
  | disconnect task => cases h
  | sleep task => cases h
  | changeDir task => cases h
  | makeDir task => cases h
  | raw task => cases h

/-- Every expected step is sound. -/
theorem step_sound (answers : Transport.NeverGoesOn good) (env : Env) {event : Event Operation}
    (outcome : event.IsOutcome) (clear : Desk.Clear good start desk)
    (reported : good.Allows event desk.transport) (h : operation.expects event = true) :
    (step env event operation desk).Sound good start operation := by
  cases event with
  | send => exact send_sound answers env clear h
  | completed =>
      exact completed_sound answers env clear (answers.result _ clear.transport (reported rfl)) h
  | returned reply finished => exact returned_sound outcome.1 outcome.2 clear h

theorem send_unexpected (env : Env) (h : operation.acts = false) :
    ∃ text, operation.send env desk =
      (desk.note .error text).answer .internalError operation := by
  cases operation with
  | connect task =>
      obtain ⟨request, stage, attempts⟩ := task
      cases stage with
      | connect => cases h
      | connecting => exact ⟨_, rfl⟩
      | retryWait => exact ⟨_, rfl⟩
  | disconnect task =>
      have stage : task.waiting = true := by simpa [acts] using h
      simp only [Operation.send, DisconnectTask.send, stage, if_true]
      exact ⟨_, rfl⟩
  | sleep task =>
      have stage : task.waiting = true := by simpa [acts] using h
      simp only [Operation.send, SleepTask.send, stage, if_true]
      exact ⟨_, rfl⟩
  | changeDir task =>
      have stage : task.waiting = true := by simpa [acts] using h
      simp only [Operation.send, ChangeDirTask.send, stage, if_true]
      exact ⟨_, rfl⟩
  | list task =>
      obtain ⟨request, progress⟩ := task
      cases progress with
      | start => cases h
      | entering target => exact ⟨_, rfl⟩
      | ready target => cases h
      | waiting target => exact ⟨_, rfl⟩
  | transfer task =>
      obtain ⟨request, progress, channel⟩ := task
      cases progress with
      | start => cases h
      | entering => exact ⟨_, rfl⟩
      | ready naming => cases h
      | waiting naming => exact ⟨_, rfl⟩
  | delete task =>
      obtain ⟨path, total, rest, failed, progress⟩ := task
      cases progress with
      | start => cases h
      | entering => exact ⟨_, rfl⟩
      | ready naming => cases h
      | waiting naming => exact ⟨_, rfl⟩
  | removeDir task =>
      obtain ⟨request, progress⟩ := task
      cases progress with
      | start => cases h
      | entering => exact ⟨_, rfl⟩
      | ready naming => cases h
      | waiting naming => exact ⟨_, rfl⟩
  | makeDir task =>
      obtain ⟨request, stage⟩ := task
      cases stage with
      | start => cases h
      | ready => cases h
      | waiting => exact ⟨_, rfl⟩
  | rename task =>
      obtain ⟨request, progress⟩ := task
      cases progress with
      | start => cases h
      | entering => exact ⟨_, rfl⟩
      | ready naming => cases h
      | waiting naming => exact ⟨_, rfl⟩
  | chmod task =>
      obtain ⟨request, progress⟩ := task
      cases progress with
      | start => cases h
      | entering => exact ⟨_, rfl⟩
      | ready naming => cases h
      | waiting naming => cases h
  | raw task =>
      have stage : task.waiting = true := by simpa [acts] using h
      simp only [Operation.send, RawTask.send, stage, if_true]
      exact ⟨_, rfl⟩

theorem completed_unexpected (env : Env) (h : operation.awaitsCompletion = false) :
    ∃ text, operation.completed env desk =
      (desk.note .error text).answer .internalError operation := by
  cases operation with
  | connect task =>
      obtain ⟨request, stage, attempts⟩ := task
      cases stage with
      | connect => exact ⟨_, rfl⟩
      | connecting => cases h
      | retryWait => exact ⟨_, rfl⟩
  | disconnect task =>
      have stage : task.waiting = false := by simpa [awaitsCompletion] using h
      simp only [Operation.completed, DisconnectTask.completed, stage, Bool.false_eq_true, if_false]
      exact ⟨_, rfl⟩
  | sleep task =>
      have stage : task.waiting = false := by simpa [awaitsCompletion] using h
      simp only [Operation.completed, SleepTask.completed, stage, Bool.false_eq_true, if_false]
      exact ⟨_, rfl⟩
  | changeDir task =>
      have stage : task.waiting = false := by simpa [awaitsCompletion] using h
      simp only [Operation.completed, ChangeDirTask.completed, stage, Bool.false_eq_true, if_false]
      exact ⟨_, rfl⟩
  | list task =>
      obtain ⟨request, progress⟩ := task
      cases progress with
      | start => exact ⟨_, rfl⟩
      | entering target => exact ⟨_, rfl⟩
      | ready target => exact ⟨_, rfl⟩
      | waiting target => cases h
  | transfer task =>
      obtain ⟨request, progress, channel⟩ := task
      cases progress with
      | start => exact ⟨_, rfl⟩
      | entering => exact ⟨_, rfl⟩
      | ready naming => exact ⟨_, rfl⟩
      | waiting naming => cases h
  | delete task =>
      obtain ⟨path, total, rest, failed, progress⟩ := task
      cases progress with
      | start => exact ⟨_, rfl⟩
      | entering => exact ⟨_, rfl⟩
      | ready naming => exact ⟨_, rfl⟩
      | waiting naming => cases h
  | removeDir task =>
      obtain ⟨request, progress⟩ := task
      cases progress with
      | start => exact ⟨_, rfl⟩
      | entering => exact ⟨_, rfl⟩
      | ready naming => exact ⟨_, rfl⟩
      | waiting naming => cases h
  | makeDir task =>
      obtain ⟨request, stage⟩ := task
      cases stage with
      | start => exact ⟨_, rfl⟩
      | ready => exact ⟨_, rfl⟩
      | waiting => cases h
  | rename task =>
      obtain ⟨request, progress⟩ := task
      cases progress with
      | start => exact ⟨_, rfl⟩
      | entering => exact ⟨_, rfl⟩
      | ready naming => exact ⟨_, rfl⟩
      | waiting naming => cases h
  | chmod task =>
      obtain ⟨request, progress⟩ := task
      cases progress with
      | start => exact ⟨_, rfl⟩
      | entering => exact ⟨_, rfl⟩
      | ready naming => cases h
      | waiting naming => cases h
  | raw task =>
      have stage : task.waiting = false := by simpa [awaitsCompletion] using h
      simp only [Operation.completed, RawTask.completed, stage, Bool.false_eq_true, if_false]
      exact ⟨_, rfl⟩

omit [Transport τ] in
theorem returned_unexpected (h : operation.expects (.returned reply finished) = false) :
    ∃ text, returned reply finished operation desk =
      (desk.note .error text).answer .internalError operation := by
  have idle : operation.entering? = none := by
    simpa [expects] using (Bool.or_eq_false_iff.1 h).1
  cases operation with
  | connect task =>
      have stage : ¬(task.stage = .retryWait ∧ finished.kind = .sleep) := by
        simpa [expects, entering?, isRetrying] using h
      simp only [returned, ConnectTask.returned, if_neg stage]
      exact ⟨_, rfl⟩
  | disconnect task => exact ⟨_, rfl⟩
  | sleep task => exact ⟨_, rfl⟩
  | changeDir task => exact ⟨_, rfl⟩
  | list task =>
      obtain ⟨request, progress⟩ := task
      cases progress with
      | start => exact ⟨_, rfl⟩
      | entering target => cases idle
      | ready target => exact ⟨_, rfl⟩
      | waiting target => exact ⟨_, rfl⟩
  | transfer task =>
      obtain ⟨request, progress, channel⟩ := task
      cases progress with
      | start => exact ⟨_, rfl⟩
      | entering => cases idle
      | ready naming => exact ⟨_, rfl⟩
      | waiting naming => exact ⟨_, rfl⟩
  | delete task =>
      obtain ⟨path, total, rest, failed, progress⟩ := task
      cases progress with
      | start => exact ⟨_, rfl⟩
      | entering => cases idle
      | ready naming => exact ⟨_, rfl⟩
      | waiting naming => exact ⟨_, rfl⟩
  | removeDir task =>
      obtain ⟨request, progress⟩ := task
      cases progress with
      | start => exact ⟨_, rfl⟩
      | entering => cases idle
      | ready naming => exact ⟨_, rfl⟩
      | waiting naming => exact ⟨_, rfl⟩
  | makeDir task => exact ⟨_, rfl⟩
  | rename task =>
      obtain ⟨request, progress⟩ := task
      cases progress with
      | start => exact ⟨_, rfl⟩
      | entering => cases idle
      | ready naming => exact ⟨_, rfl⟩
      | waiting naming => exact ⟨_, rfl⟩
  | chmod task =>
      obtain ⟨request, progress⟩ := task
      cases progress with
      | start => exact ⟨_, rfl⟩
      | entering => cases idle
      | ready naming => exact ⟨_, rfl⟩
      | waiting naming => exact ⟨_, rfl⟩
  | raw task => exact ⟨_, rfl⟩

variable (desk) in
/-- An event that was not expected is noted as a defect and changes nothing. -/
theorem step_unexpected (env : Env) {event : Event Operation}
    (h : operation.expects event = false) :
    ∃ text, step env event operation desk =
      (desk.note .error text).answer .internalError operation := by
  cases event with
  | send => exact send_unexpected env h
  | completed => exact completed_unexpected env h
  | returned reply finished => exact returned_unexpected h

/-- Whether an event was expected shows in the notes of defects. -/
theorem step_errors_iff (answers : Transport.NeverGoesOn good) (env : Env)
    {event : Event Operation} (outcome : event.IsOutcome) (transport : good desk.transport)
    (reported : good.Allows event desk.transport) (pending : desk.pending = none) :
    (step env event operation desk).desk.errors = desk.errors ↔
      operation.expects event = true := by
  constructor
  · intro silent
    cases expected : operation.expects event with
    | true => rfl
    | false =>
        -- the defect would have been noted
        obtain ⟨text, stepped⟩ := step_unexpected desk env expected
        rw [stepped, Desk.answer_desk, Desk.note_error_errors] at silent
        exact absurd silent (List.cons_ne_self _ _)
  · intro expected
    exact (step_sound answers env outcome ⟨transport, pending, rfl⟩ reported expected).errors

end Operation

end Courier
