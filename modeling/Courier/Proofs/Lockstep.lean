import Courier.Operation.Dispatch
import Courier.Proofs.Deferring

/-!
# Steps at two desks

No operation looks at anything but its desk, and at each of two desks that are alike it finds the
same. So its step at the one is like its step at the other, in every state and whatever it is told;
the only difference there can be is how the request was answered with which it ends.
-/

namespace Courier

variable {τ : Type} [Transport τ] {settled : Bool} {desk : Desk τ Operation}
  {twin : Desk (Deferring τ) Operation}

section Steps

variable (like : desk.Like settled twin)

include like

/-! ## Connections and waits -/

theorem ConnectTask.send_like (task : ConnectTask) :
    (task.send desk).Like settled (task.send twin) := by
  obtain ⟨request, stage, attempts⟩ := task
  cases stage with
  | connect =>
      refine Desk.Like.connect ?_ _ _ _
      exact (like.note _ _ _ _).withSession fun _ => { server := some request.handle }
  | connecting | retryWait =>
      exact .same (like.unexpected _ _ _ _)

theorem ConnectTask.completed_like (env : Env) (task : ConnectTask)
    (same : twin.result = desk.result) :
    (task.completed env desk).Same settled (task.completed env twin) := by
  obtain ⟨request, stage, attempts⟩ := task
  cases stage with
  | connecting =>
      simp only [completed]
      rw [same]
      split
      · have noted := like.note .info .info ("Connected to " ++ request.server.text)
          ("Connected to " ++ request.server.text)
        exact (noted.withSession fun session => { session with connected := true }).answer _ _
      · split
        · exact (like.note _ _ _ _).answer _ _
        · split
          · exact like.answer _ _
          · exact ((like.note _ _ _ _).request _).answer _ _
  | connect | retryWait =>
      exact like.unexpected _ _ _ _

omit [Transport τ] in
theorem ConnectTask.returned_like (reply : Reply) (finished : Operation) (task : ConnectTask) :
    (task.returned reply finished desk).Same settled (task.returned reply finished twin) := by
  unfold returned
  split
  · split
    · exact like.answer _ _
    · exact (like.note _ _ _ _).answer _ _
  · exact like.unexpected _ _ _ _

theorem DisconnectTask.send_like (task : DisconnectTask) :
    (task.send desk).Like settled (task.send twin) := by
  obtain ⟨reply, asked⟩ := (like.note .info .info "Disconnecting" "Disconnecting").disconnect
  simp only [send]
  rw [reply]
  split
  · exact .same (like.unexpected _ _ _ _)
  · split
    · exact .same (asked.answer _ _)
    · split
      · exact .same (((asked.note _ _ _ _).withSession fun _ => {}).answer _ _)
      · exact .same ((asked.withSession fun _ => {}).answer _ _)

omit [Transport τ] in
theorem DisconnectTask.completed_like (task : DisconnectTask) :
    (task.completed desk).Same settled (task.completed twin) := by
  unfold completed
  split
  · exact (like.withSession fun _ => {}).answer _ _
  · exact like.unexpected _ _ _ _

theorem SleepTask.send_like (task : SleepTask) :
    (task.send desk).Like settled (task.send twin) := by
  unfold send
  split
  · exact .same (like.unexpected _ _ _ _)
  · exact (like.note _ _ _ _).wakeUp _ _

theorem SleepTask.completed_like (task : SleepTask) (same : twin.result = desk.result) :
    (task.completed desk).Same settled (task.completed twin) := by
  unfold completed
  rw [same]
  split
  · exact like.answer _ _
  · exact like.unexpected _ _ _ _

/-! ## Directories -/

theorem ChangeDirTask.send_like (task : ChangeDirTask) :
    (task.send desk).Like settled (task.send twin) := by
  unfold send
  rw [like.session]
  split
  · exact .same (like.unexpected _ _ _ _)
  · split
    · exact .same ((like.note _ _ _ _).answer _ _)
    · split
      · exact .same ((like.note _ _ _ _).answer _ _)
      · exact (like.withSession fun _ => { desk.session with directory := none }).send _ _

theorem ChangeDirTask.completed_like (task : ChangeDirTask) (same : twin.result = desk.result) :
    (task.completed desk).Same settled (task.completed twin) := by
  simp only [completed]
  rw [same]
  split
  · split
    · exact (like.withSession fun session =>
        { session with directory := some task.path }).answer _ _
    · exact like.answer _ _
  · exact like.unexpected _ _ _ _

omit [Transport τ] in
theorem ListTask.discard_like (flags : ListFlags) (target : Option RemotePath) :
    (discard flags target desk).Like settled (discard flags target twin) := by
  unfold discard
  cases target with
  | none => exact like
  | some path =>
      simp only
      split
      · exact like.tellCache _
      · exact like

omit [Transport τ] in
theorem ListTask.consultCache_like (env : Env) (flags : ListFlags) (target : Option RemotePath) :
    (consultCache env flags target twin).1 = (consultCache env flags target desk).1 ∧
      (consultCache env flags target desk).2.Like settled
        (consultCache env flags target twin).2 := by
  unfold consultCache
  split
  · exact ⟨rfl, like⟩
  · cases target with
    | none => exact ⟨rfl, like⟩
    | some path =>
        obtain ⟨same, looked⟩ := like.lookup path
        exact ⟨congrArg (fun found : Option Listing => found.any (isGoodEnough env flags)) same,
          looked⟩

theorem ListTask.send_like (env : Env) (task : ListTask) :
    (task.send env desk).Like settled (task.send env twin) := by
  obtain ⟨request, progress⟩ := task
  cases progress with
  | start =>
      simp only [send]
      rw [like.session]
      obtain ⟨same, consulted⟩ := consultCache_like (discard_like like request.flags
        (request.target? desk.session.directory)) env request.flags
        (request.target? desk.session.directory)
      rw [same]
      split
      · exact .same ((consulted.note _ _ _ _).answer _ _)
      · split
        · split
          · exact .same (consulted.answer _ _)
          · exact .same ((consulted.request _).answer _ _)
        · exact .same (consulted.answer _ _)
  | ready target => exact (like.note _ _ _ _).send _ _
  | entering target | waiting target =>
      exact .same (like.unexpected _ _ _ _)

theorem ListTask.completed_like (env : Env) (task : ListTask) (same : twin.result = desk.result) :
    (task.completed env desk).Same settled (task.completed env twin) := by
  obtain ⟨request, progress⟩ := task
  cases progress with
  | waiting target =>
      obtain ⟨received, taken⟩ := like.takeListing
      simp only [completed]
      rw [same, received]
      split
      · exact like.answer _ _
      · split
        · exact (taken.tellCache _).answer _ _
        · exact taken.answer _ _
  | start | entering target | ready target =>
      exact like.unexpected _ _ _ _

omit [Transport τ] in
theorem ListTask.returned_like (entered : Reply) (task : ListTask) :
    (task.returned entered desk).Same settled (task.returned entered twin) := by
  obtain ⟨request, progress⟩ := task
  cases progress with
  | entering target =>
      simp only [returned]
      rw [like.session]
      split
      · exact like.answer _ _
      · split
        · exact (like.note _ _ _ _).answer _ _
        · split
          · exact like.answer _ _
          · exact (like.noteEntered _ _).answer _ _
  | start | ready target | waiting target =>
      exact like.unexpected _ _ _ _

omit [Transport τ] in
theorem MakeDirTask.mark_like (task : MakeDirTask) (freshness : Freshness) :
    (task.mark freshness desk).Like settled (task.mark freshness twin) := by
  unfold mark
  split
  · exact like.tellCache _
  · exact like

theorem MakeDirTask.send_like (task : MakeDirTask) :
    (task.send desk).Like settled (task.send twin) := by
  obtain ⟨request, stage⟩ := task
  cases stage with
  | start => exact .same ((like.note _ _ _ _).answer _ _)
  | ready => exact (mark_like like _ _).send _ _
  | waiting => exact .same (like.unexpected _ _ _ _)

theorem MakeDirTask.completed_like (task : MakeDirTask) (same : twin.result = desk.result) :
    (task.completed desk).Same settled (task.completed twin) := by
  obtain ⟨request, stage⟩ := task
  cases stage with
  | waiting =>
      simp only [completed]
      rw [same]
      exact like.answer _ _
  | start | ready =>
      exact like.unexpected _ _ _ _

/-! ## Transfers -/

omit [Transport τ] in
/-- What a transfer makes of its local end depends on the store only. -/
theorem TransferTask.openChannel_like (task : TransferTask) :
    match task.openChannel desk, task.openChannel twin with
    | .ok (channel, after), .ok (channel', after') => channel' = channel ∧ after.Like settled after'
    | .error (reply, after), .error (reply', after') => reply' = reply ∧ after.Like settled after'
    | _, _ => False := by
  unfold openChannel
  rw [like.store]
  cases task.request.localEnd with
  | upload source =>
      simp only
      cases source.openReader desk.store with
      | ok reader => exact ⟨rfl, like⟩
      | error fault => exact ⟨rfl, like.note _ _ _ _⟩
  | download sink =>
      simp only
      cases sink.openWriter desk.store with
      | ok opened => exact ⟨rfl, like.withStore _⟩
      | error fault => exact ⟨rfl, like.note _ _ _ _⟩

omit [Transport τ] in
theorem TransferTask.mark_like (task : TransferTask) (freshness : Freshness) :
    (task.mark freshness desk).Like settled (task.mark freshness twin) := by
  unfold mark
  split
  · exact like
  · exact like.tellCache _

theorem TransferTask.send_like (task : TransferTask) :
    (task.send desk).Like settled (task.send twin) := by
  obtain ⟨request, progress, channel⟩ := task
  cases progress with
  | start =>
      simp only [send]
      split
      · exact .same ((((like.note _ _ _ _).note _ _ _ _).request _).answer _ _)
      · exact .same (((like.note _ _ _ _).request _).answer _ _)
  | ready naming =>
      have opened := openChannel_like like ⟨request, .ready naming, channel⟩
      simp only [send]
      split at opened
      · rename_i channel after channel' after' here there
        obtain ⟨rfl, alike⟩ := opened
        have marked := mark_like alike ⟨request, .ready naming, channel⟩ .unknown
        simp only [here, there]
        rw [marked.store]
        exact (marked.announce _).send _ _
      · rename_i reply after reply' after' here there
        obtain ⟨rfl, alike⟩ := opened
        simp only [here, there]
        exact .same (alike.answer _ _)
      · exact opened.elim
  | entering | waiting naming =>
      exact .same (like.unexpected _ _ _ _)

theorem TransferTask.completed_like (task : TransferTask) (same : twin.result = desk.result) :
    (task.completed desk).Same settled (task.completed twin) := by
  obtain ⟨request, progress, channel⟩ := task
  cases progress with
  | waiting naming =>
      simp only [completed]
      rw [same]
      split
      · exact (like.note _ _ _ _).answer _ _
      · exact like.answer _ _
  | start | entering | ready naming =>
      exact like.unexpected _ _ _ _

omit [Transport τ] in
theorem TransferTask.returned_like (entered : Reply) (task : TransferTask) :
    (task.returned entered desk).Same settled (task.returned entered twin) := by
  obtain ⟨request, progress, channel⟩ := task
  cases progress with
  | entering => exact (like.noteEntered _ _).answer _ _
  | start | ready naming | waiting naming =>
      exact like.unexpected _ _ _ _

/-! ## Changes on the server -/

theorem DeleteTask.send_like (task : DeleteTask) :
    (task.send desk).Like settled (task.send twin) := by
  obtain ⟨path, total, rest, failed, progress⟩ := task
  cases progress with
  | start => exact .same (((like.note _ _ _ _).request _).answer _ _)
  | ready naming =>
      simp only [send]
      cases rest with
      | nil =>
          simp only
          split
          · exact .same (like.answer _ _)
          · exact .same ((like.note _ _ _ _).answer _ _)
      | cons file files => exact (like.tellCache _).send _ _
  | entering | waiting naming =>
      exact .same (like.unexpected _ _ _ _)

theorem DeleteTask.completed_like (task : DeleteTask) (same : twin.result = desk.result) :
    (task.completed desk).Same settled (task.completed twin) := by
  obtain ⟨path, total, rest, failed, progress⟩ := task
  cases progress with
  | waiting naming =>
      simp only [completed]
      rw [same]
      split
      · split
        · exact like.answer _ _
        · exact (like.note _ _ _ _).answer _ _
      · exact like.answer _ _
  | start | entering | ready naming =>
      exact like.unexpected _ _ _ _

omit [Transport τ] in
theorem DeleteTask.returned_like (entered : Reply) (task : DeleteTask) :
    (task.returned entered desk).Same settled (task.returned entered twin) := by
  obtain ⟨path, total, rest, failed, progress⟩ := task
  cases progress with
  | entering => exact like.answer _ _
  | start | ready naming | waiting naming =>
      exact like.unexpected _ _ _ _

theorem RemoveDirTask.send_like (task : RemoveDirTask) :
    (task.send desk).Like settled (task.send twin) := by
  obtain ⟨request, progress⟩ := task
  cases progress with
  | start => exact .same (((like.note _ _ _ _).request _).answer _ _)
  | ready naming => exact (like.tellCache _).send _ _
  | entering | waiting naming =>
      exact .same (like.unexpected _ _ _ _)

theorem RemoveDirTask.completed_like (task : RemoveDirTask) (same : twin.result = desk.result) :
    (task.completed desk).Same settled (task.completed twin) := by
  obtain ⟨request, progress⟩ := task
  cases progress with
  | waiting naming =>
      simp only [completed]
      rw [same]
      exact like.answer _ _
  | start | entering | ready naming =>
      exact like.unexpected _ _ _ _

omit [Transport τ] in
theorem RemoveDirTask.returned_like (entered : Reply) (task : RemoveDirTask) :
    (task.returned entered desk).Same settled (task.returned entered twin) := by
  obtain ⟨request, progress⟩ := task
  cases progress with
  | entering => exact (like.noteEntered _ _).answer _ _
  | start | ready naming | waiting naming =>
      exact like.unexpected _ _ _ _

theorem RenameTask.send_like (task : RenameTask) :
    (task.send desk).Like settled (task.send twin) := by
  obtain ⟨request, progress⟩ := task
  cases progress with
  | start => exact .same (((like.note _ _ _ _).request _).answer _ _)
  | ready naming => exact (like.tellCache _).send _ _
  | entering | waiting naming =>
      exact .same (like.unexpected _ _ _ _)

theorem RenameTask.completed_like (task : RenameTask) (same : twin.result = desk.result) :
    (task.completed desk).Same settled (task.completed twin) := by
  obtain ⟨request, progress⟩ := task
  cases progress with
  | waiting naming =>
      simp only [completed]
      rw [same]
      exact like.answer _ _
  | start | entering | ready naming =>
      exact like.unexpected _ _ _ _

omit [Transport τ] in
theorem RenameTask.returned_like (entered : Reply) (task : RenameTask) :
    (task.returned entered desk).Same settled (task.returned entered twin) := by
  obtain ⟨request, progress⟩ := task
  cases progress with
  | entering => exact (like.noteEntered _ _).answer _ _
  | start | ready naming | waiting naming =>
      exact like.unexpected _ _ _ _

theorem ChmodTask.send_like (task : ChmodTask) :
    (task.send desk).Like settled (task.send twin) := by
  obtain ⟨request, progress⟩ := task
  cases progress with
  | start => exact .same (((like.note _ _ _ _).request _).answer _ _)
  | ready naming => exact (like.tellCache _).send _ _
  | waiting naming => exact (like.tellCache _).send _ _
  | entering => exact .same (like.unexpected _ _ _ _)

theorem ChmodTask.completed_like (task : ChmodTask) (same : twin.result = desk.result) :
    (task.completed desk).Same settled (task.completed twin) := by
  obtain ⟨request, progress⟩ := task
  cases progress with
  | ready naming | waiting naming =>
      simp only [completed]
      rw [same]
      exact like.answer _ _
  | start | entering =>
      exact like.unexpected _ _ _ _

omit [Transport τ] in
theorem ChmodTask.returned_like (entered : Reply) (task : ChmodTask) :
    (task.returned entered desk).Same settled (task.returned entered twin) := by
  obtain ⟨request, progress⟩ := task
  cases progress with
  | entering => exact (like.noteEntered _ _).answer _ _
  | start | ready naming | waiting naming =>
      exact like.unexpected _ _ _ _

theorem RawTask.send_like (task : RawTask) : (task.send desk).Like settled (task.send twin) := by
  have told := (like.note .info .info ("Sending raw command '" ++ task.line ++ "'")
    ("Sending raw command '" ++ task.line ++ "'")).tellCache .forgetServer
  simp only [send]
  split
  · exact .same (like.unexpected _ _ _ _)
  · exact (told.withSession fun session => { session with directory := none }).send _ _

theorem RawTask.completed_like (task : RawTask) (same : twin.result = desk.result) :
    (task.completed desk).Same settled (task.completed twin) := by
  unfold completed
  rw [same]
  split
  · exact like.answer _ _
  · exact like.unexpected _ _ _ _

/-! ## All operations -/

namespace Operation

theorem send_like (env : Env) (operation : Operation) :
    (operation.send env desk).Like settled (operation.send env twin) := by
  cases operation with
  | connect task => exact (task.send_like like).map _
  | disconnect task => exact (task.send_like like).map _
  | sleep task => exact (task.send_like like).map _
  | changeDir task => exact (task.send_like like).map _
  | list task => exact (task.send_like like env).map _
  | transfer task => exact (task.send_like like).map _
  | delete task => exact (task.send_like like).map _
  | removeDir task => exact (task.send_like like).map _
  | makeDir task => exact (task.send_like like).map _
  | rename task => exact (task.send_like like).map _
  | chmod task => exact (task.send_like like).map _
  | raw task => exact (task.send_like like).map _

theorem completed_like (env : Env) (operation : Operation) (same : twin.result = desk.result) :
    (operation.completed env desk).Same settled (operation.completed env twin) := by
  cases operation with
  | connect task => exact (task.completed_like like env same).map _
  | disconnect task => exact (task.completed_like like).map _
  | sleep task => exact (task.completed_like like same).map _
  | changeDir task => exact (task.completed_like like same).map _
  | list task => exact (task.completed_like like env same).map _
  | transfer task => exact (task.completed_like like same).map _
  | delete task => exact (task.completed_like like same).map _
  | removeDir task => exact (task.completed_like like same).map _
  | makeDir task => exact (task.completed_like like same).map _
  | rename task => exact (task.completed_like like same).map _
  | chmod task => exact (task.completed_like like same).map _
  | raw task => exact (task.completed_like like same).map _

omit [Transport τ] in
theorem returned_like (reply : Reply) (finished operation : Operation) :
    (returned reply finished operation desk).Same settled
      (returned reply finished operation twin) := by
  cases operation with
  | connect task => exact (task.returned_like like reply finished).map _
  | list task => exact (task.returned_like like reply).map _
  | transfer task => exact (task.returned_like like reply).map _
  | delete task => exact (task.returned_like like reply).map _
  | removeDir task => exact (task.returned_like like reply).map _
  | rename task => exact (task.returned_like like reply).map _
  | chmod task => exact (task.returned_like like reply).map _
  | disconnect task | sleep task | changeDir task | makeDir task | raw task =>
      exact (like.note _ _ _ _).answer _ _

/-- The step of an operation at two desks that are alike. Only a request can be answered in
different ways, and only an operation that is told to act makes one. -/
theorem step_like (env : Env) (event : Event Operation)
    (same : event = .completed → twin.result = desk.result) (operation : Operation) :
    (operation.step env event desk).Same settled (operation.step env event twin) ∨
      (settled = false ∧ event = .send ∧
        (operation.step env event desk).Parts (operation.step env event twin)) := by
  cases event with
  | send =>
      rcases operation.send_like like env with same | ⟨early, parts⟩
      · exact .inl same
      · exact .inr ⟨early, rfl, parts⟩
  | completed => exact .inl (operation.completed_like like env (same rfl))
  | returned reply finished => exact .inl (returned_like like reply finished operation)

end Operation

end Steps

end Courier
