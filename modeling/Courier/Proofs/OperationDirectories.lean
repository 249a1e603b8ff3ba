import Courier.Proofs.StepDirectories
import Courier.Proofs.Stack

/-!
# Operations and the working directory

What each operation may rely on about the working directory of the server in its present state, and
that each of its steps, over a transport that keeps to its contract, hands on as much.
-/

namespace Courier

open RemotePath (Naming)

/-! ## Directory commands -/

namespace Operation

variable {operation next : Operation} {home : RemotePath} {naming : Naming} {session : Session}
  {past : List Happening} {line : WireLine} {reply result : Reply}

theorem placed_iff {progress : Progress} (works : operation.home? = some home)
    (at_ : operation.progress? = some progress) :
    operation.Placed session ↔ progress.Placed session home := by
  constructor
  · intro placed
    cases operation <;> first | exact placed home progress works at_ | cases works
  · intro placed
    cases operation <;> cases works
    all_goals
      rintro _ _ ⟨⟩ ⟨⟩
      obtain rfl := Option.some.inj at_
      exact placed

theorem exists_progress (works : operation.home? = some home) :
    ∃ progress, operation.progress? = some progress := by
  cases operation <;> first | exact ⟨_, rfl⟩ | cases works

/-- A transfer whose local end cannot be opened fails. -/
theorem openFailure_isError {store : Local.Store} {localEnd : TransferEnd}
    (h : openFailure? store localEnd = some reply) : reply.isError = true := by
  unfold openFailure? at h
  split at h <;> split at h <;> cases h <;> decide

/-- A directory command that ends when it is ready does so with an outcome. -/
theorem next_inl {store : Local.Store} (h : operation.next? naming store = some (.inl reply)) :
    reply ≠ .again ∧ reply ≠ .wouldBlock := by
  cases operation with
  | transfer task =>
      simp only [next?] at h
      split at h
      · rename_i failure
        cases h
        have failed := openFailure_isError failure
        exact ⟨Reply.ne_again_of_isError failed, Reply.ne_wouldBlock_of_isError failed⟩
      · cases h
  | delete task =>
      simp only [next?] at h
      split at h
      · obtain rfl : (if task.failed = 0 then Reply.ok else Reply.error) = reply := by
          simpa using h
        split <;> exact ⟨by decide, by decide⟩
      · cases h
  | _ => cases h

/-- A directory command names objects relatively only where it is to use bare names, and then those
of its own directory. -/
theorem next_inr {store : Local.Store} (h : operation.next? naming store = some (.inr line))
    (works : operation.home? = some home) (specified : operation.IsSpecified) :
    line.Stays ∧ ∀ object ∈ line.objects, object.IsRelative →
      naming = .bare ∧ object.directory = home := by
  -- all lines but that of a rename name a single object
  have own : ∀ file : String, home.isUnspecified = false →
      ∀ object ∈ [(⟨home, naming, file⟩ : ObjectName)], object.IsRelative →
        naming = .bare ∧ object.directory = home := by
    intro file specified object mem relative
    obtain rfl := List.mem_singleton.1 mem
    cases naming with
    | bare => exact ⟨rfl, rfl⟩
    | full => exact absurd relative (ObjectName.not_isRelative specified rfl)
  cases operation with
  | transfer task =>
      obtain rfl := Option.some.inj works
      simp only [next?] at h
      split at h
      · cases h
      · cases h
        split
        · exact ⟨trivial, own _ specified⟩
        · exact ⟨trivial, own _ specified⟩
  | delete task =>
      obtain rfl := Option.some.inj works
      simp only [next?] at h
      split at h
      · cases h
      · cases h
        exact ⟨trivial, own _ specified⟩
  | removeDir task =>
      obtain rfl := Option.some.inj works
      cases h
      exact ⟨trivial, own _ specified⟩
  | rename task =>
      obtain rfl := Option.some.inj works
      cases h
      refine ⟨trivial, ?_⟩
      intro object mem relative
      rcases List.mem_cons.1 mem with rfl | mem
      · exact own _ specified.1 _ List.mem_cons_self relative
      · obtain rfl := List.mem_singleton.1 mem
        -- the target is named relatively only in the directory of the source
        by_cases bare : naming = .bare ∧ task.request.toPath = task.request.fromPath
        · exact bare
        · refine absurd relative (ObjectName.not_isRelative specified.2 ?_)
          simp only [RenameTask.targetNaming, if_neg bare]
  | chmod task =>
      obtain rfl := Option.some.inj works
      cases h
      exact ⟨trivial, own _ specified⟩
  | _ => cases works

theorem after_inl (h : operation.after naming result = .inl reply) : reply = result := by
  cases operation with
  | delete task =>
      simp only [after] at h
      split at h
      · split at h
        · exact (Sum.inl.inj h).symm
        · cases h
      · cases h
  | _ => exact (Sum.inl.inj h).symm

theorem after_inr (h : operation.after naming result = .inr next) :
    next.home? = operation.home? ∧ next.progress? = some (.ready naming) ∧
      (operation.IsSpecified → next.IsSpecified) := by
  cases operation with
  | delete task =>
      simp only [after] at h
      split at h
      · split at h
        · cases h
        · cases h
          exact ⟨rfl, rfl, id⟩
      · cases h
        exact ⟨rfl, rfl, id⟩
  | _ => cases h

theorem withProgress_home? (progress : Progress) :
    (operation.withProgress progress).home? = operation.home? := by
  cases operation <;> rfl

theorem withProgress_progress? (works : operation.home? = some home) (progress : Progress) :
    (operation.withProgress progress).progress? = some progress := by
  cases operation <;> first | rfl | cases works

theorem IsSpecified.withProgress (specified : operation.IsSpecified) (progress : Progress) :
    (operation.withProgress progress).IsSpecified := by
  cases operation <;> exact specified

theorem IsButForChannel.home? (same : operation.IsButForChannel next) :
    next.home? = operation.home? := by
  rcases same with rfl | ⟨channel, rfl⟩
  · rfl
  · cases operation <;> rfl

theorem IsButForChannel.progress? (same : operation.IsButForChannel next) :
    next.progress? = operation.progress? := by
  rcases same with rfl | ⟨channel, rfl⟩
  · rfl
  · cases operation <;> rfl

theorem IsButForChannel.specified (same : operation.IsButForChannel next)
    (specified : operation.IsSpecified) : next.IsSpecified := by
  rcases same with rfl | ⟨channel, rfl⟩
  · exact specified
  · cases operation <;> exact specified

theorem not_isChangeDir (works : operation.home? = some home) : operation.isChangeDir = false := by
  cases operation <;> first | rfl | cases works

theorem out_of_home (works : operation.home? = some home)
    (at_ : operation.progress? = some (.waiting naming))
    (here : naming = .bare → session.directory = some home) : operation.Out past session := by
  cases operation <;> cases works
  all_goals
    rintro _ ⟨⟩
    exact ⟨naming, at_, here⟩

theorem Out.directoryCommand (out : operation.Out past session)
    (works : operation.home? = some home) :
    ∃ naming, operation.progress? = some (.waiting naming) ∧
      (naming = .bare → session.directory = some home) := by
  cases operation <;> first | exact out home works | cases works

end Operation

namespace Desk.Oriented

variable {τ : Type} [Transport τ] {good : Transport.States τ} {desk : Desk τ Operation}
  {operation : Operation} {home : RemotePath}

/-- A directory command that is told to act. -/
theorem directoryCommand_send (oriented : desk.Oriented) (conforms : Transport.Conforms good)
    (transport : good desk.transport) (env : Env) (works : operation.home? = some home)
    (specified : operation.IsSpecified) (placed : operation.Placed desk.session) :
    Step.Steady desk (operation.send env desk) := by
  obtain ⟨progress, at_⟩ := Operation.exists_progress works
  have known := (Operation.placed_iff works at_).1 placed
  have steady := Desk.Steady.refl oriented
  cases progress with
  | start =>
      obtain ⟨path, after, -, quiet, sent⟩ := Operation.send_start desk env at_
      rw [sent]
      exact (steady.quiet quiet).request (f := id) (specified.withProgress _) _
  | ready naming =>
      have ready := Operation.send_ready desk env at_
      split at ready
      · rename_i reply next
        obtain ⟨after, quiet, sent⟩ := ready
        rw [sent]
        obtain ⟨again, wait⟩ := Operation.next_inl next
        exact (steady.quiet quiet).ends (f := id) again wait (Operation.not_isChangeDir works)
      · rename_i line next
        obtain ⟨before, out, prepares, same, sent⟩ := ready
        rw [sent]
        obtain ⟨stays, named⟩ := Operation.next_inr next works specified
        obtain ⟨tellings, tell, past⟩ := prepares.tells
        have idle : ∀ happening ∈ tellings, happening.isIdle = true := by
          intro happening mem
          exact Happening.isIdle_of_isTelling (tell happening mem)
        have prepared : desk.Steady before :=
          steady.idles prepares.session ⟨tellings, idle, past⟩
        refine prepared.send (f := id) conforms (prepares.good_transport conforms transport) ?_
          (.inl stays) (same.specified (specified.withProgress _)) ?_
        · intro object mem relative
          obtain ⟨bare, rfl⟩ := named object mem relative
          exact prepared.place _ ((congrArg Session.directory prepares.session).trans (known bare))
        · refine Operation.out_of_home
            ((same.home?.trans (Operation.withProgress_home? _)).trans works)
            (same.progress?.trans (Operation.withProgress_progress? works _)) ?_
          rw [prepares.session]
          exact known
      · exact ready.elim
  | entering => exact known.elim
  | waiting naming => exact known.elim

/-- A directory command whose line is done. -/
theorem directoryCommand_completed (oriented : desk.Oriented)
    (outcome : desk.result ≠ .wouldBlock ∧ desk.result ≠ .again) (env : Env)
    (works : operation.home? = some home) (specified : operation.IsSpecified)
    {past : List Happening}
    (out : operation.Out past desk.session) :
    Step.Steady desk (operation.completed env desk) := by
  obtain ⟨naming, at_, known⟩ := out.directoryCommand works
  have steady := Desk.Steady.refl oriented
  have completed := Operation.completed_waiting desk env at_
  split at completed
  · rename_i reply ended
    obtain ⟨after, out, quiet, same, eq⟩ := completed
    rw [eq]
    obtain rfl := Operation.after_inl ended
    exact (steady.quiet quiet).ends (f := id) outcome.2 outcome.1
      (Operation.not_isChangeDir (same.trans works))
  · rename_i next again
    obtain ⟨after, quiet, eq⟩ := completed
    rw [eq]
    obtain ⟨same, ready, specifies⟩ := Operation.after_inr again
    refine (steady.quiet quiet).answerAgain (f := id) (specifies specified) ?_
    refine (Operation.placed_iff (same.trans works) ready).2 ?_
    obtain ⟨notes, rfl⟩ := quiet
    exact known

omit [Transport τ] in
/-- A directory command whose directory has been entered, or could not be. -/
theorem directoryCommand_returned (oriented : desk.Oriented) {entered : Reply}
    (finished : Operation) (works : operation.home? = some home)
    (specified : operation.IsSpecified) (at_ : operation.progress? = some .entering)
    (known : entered = .ok → desk.session.directory = some home) :
    Step.Steady desk (Operation.returned entered finished operation desk) := by
  obtain ⟨after, quiet, eq⟩ := Operation.returned_entering desk entered finished at_
  rw [eq]
  have kept := (Desk.Steady.refl oriented).quiet quiet
  refine kept.answerAgain (f := id) (specified.withProgress _) ?_
  refine (Operation.placed_iff ((Operation.withProgress_home? _).trans works)
    (Operation.withProgress_progress? works _)).2 ?_
  intro bare
  obtain ⟨notes, rfl⟩ := quiet
  refine known ?_
  unfold Naming.after at bare
  split at bare
  · assumption
  · cases bare

end Desk.Oriented

/-! ## Other operations on the server -/

variable {τ : Type} [Transport τ] {good : Transport.States τ} {desk : Desk τ Operation}
  {result : Reply} {earlier : List Happening}

theorem SleepTask.send_steady {task : SleepTask} (oriented : desk.Oriented)
    (conforms : Transport.Conforms good) (transport : good desk.transport)
    (h : (Operation.sleep task).acts = true) :
    ((task.send desk).map .sleep).Steady desk := by
  have idle : task.waiting = false := by simpa [Operation.acts] using h
  simp only [send, idle, Bool.false_eq_true, if_false]
  exact ((Desk.Steady.refl oriented).note _ _).wakeUp conforms transport _ trivial
    (fun _ => trivial) rfl

namespace ChangeDirTask

variable {task : ChangeDirTask}

theorem send_steady (oriented : desk.Oriented) (conforms : Transport.Conforms good)
    (transport : good desk.transport) (h : (Operation.changeDir task).acts = true) :
    ((task.send desk).map .changeDir).Steady desk := by
  have idle : task.waiting = false := by simpa [Operation.acts] using h
  have steady := Desk.Steady.refl oriented
  simp only [send, idle, Bool.false_eq_true, if_false]
  split
  · exact (steady.note _ _).endsEntering (by decide) (by decide) fun ok => absurd ok (by decide)
  · split
    · rename_i here
      exact (steady.note _ _).endsEntering (by decide) (by decide) fun _ => here
    · exact steady.forget.send conforms transport (List.forall_mem_nil _) (.inr rfl) trivial
        ⟨rfl, heading_sent _ _ _⟩

theorem completed_steady (oriented : desk.Oriented)
    (outcome : desk.result ≠ .wouldBlock ∧ desk.result ≠ .again)
    (h : (Operation.changeDir task).awaitsCompletion = true)
    (past : desk.past = .completed desk.result :: earlier)
    (out : (Operation.changeDir task).Out earlier desk.session) :
    ((task.completed desk).map .changeDir).Steady desk := by
  have waiting : task.waiting = true := by simpa [Operation.awaitsCompletion] using h
  have steady := Desk.Steady.refl oriented
  simp only [completed, waiting, if_true]
  split
  · rename_i ok
    -- the report of success settles where the change of directory was heading
    have moved : desk.Steady
        { desk with session := { desk.session with directory := some task.path } } := by
      refine ⟨⟨?_, oriented.heed⟩, rfl, rfl, rfl⟩
      intro path known
      obtain rfl : task.path = path := Option.some.inj known
      change Settled desk.past task.path
      rw [past, ok]
      exact out.2.completed
    exact moved.endsEntering outcome.2 outcome.1 fun _ => rfl
  · rename_i failed
    exact steady.endsEntering outcome.2 outcome.1 fun ok => absurd ok failed

end ChangeDirTask

namespace ListTask

variable {task : ListTask}

omit [Transport τ] in
theorem discard_steady {start : Desk τ Operation} (steady : start.Steady desk) (flags : ListFlags)
    (target : Option RemotePath) : start.Steady (discard flags target desk) := by
  unfold discard
  cases target with
  | none => exact steady
  | some path =>
      simp only
      split
      · exact steady.tellCache fun _ => rfl
      · exact steady

omit [Transport τ] in
theorem discard_session (flags : ListFlags) (target : Option RemotePath) :
    (discard flags target desk).session = desk.session := by
  unfold discard
  cases target with
  | none => rfl
  | some path =>
      simp only
      split
      · exact desk.tellCache_session _
      · rfl

omit [Transport τ] in
theorem consultCache_steady {start : Desk τ Operation} (steady : start.Steady desk) (env : Env)
    (flags : ListFlags) (target : Option RemotePath) :
    start.Steady (consultCache env flags target desk).2 := by
  unfold consultCache
  split
  · exact steady
  · cases target with
    | none => exact steady
    | some path => exact steady.lookup path

omit [Transport τ] in
theorem consultCache_session (env : Env) (flags : ListFlags) (target : Option RemotePath) :
    (consultCache env flags target desk).2.session = desk.session := by
  unfold consultCache
  split
  · rfl
  · cases target with
    | none => rfl
    | some path => exact desk.lookup_session path

theorem send_steady (oriented : desk.Oriented) (conforms : Transport.Conforms good)
    (transport : good desk.transport) (env : Env)
    (placed : (Operation.list task).Placed desk.session) :
    ((task.send env desk).map .list).Steady desk := by
  obtain ⟨request, progress⟩ := task
  have steady := Desk.Steady.refl oriented
  cases progress with
  | start =>
      have consulted := consultCache_steady
        (discard_steady steady request.flags (request.target? desk.session.directory)) env
        request.flags (request.target? desk.session.directory)
      simp only [send]
      split
      · exact (consulted.note _ _).ends (by decide) (by decide) rfl
      · split
        · rename_i path target
          split
          · rename_i there
            refine consulted.answerAgain trivial ?_
            -- without a path of its own the request is about the current directory
            have here : desk.session.directory = some path := by
              rcases there with unspecified | here
              · simpa [ListRequest.target?, unspecified] using target
              · exact here
            rw [target]
            change (consultCache env request.flags (some path)
              (discard request.flags (some path) desk)).2.session.directory = some path
            rw [consultCache_session, discard_session, here]
          · exact consulted.request (f := .list) trivial _
        · exact consulted.answerAgain trivial trivial
  | ready target =>
      refine (steady.note _ _).send conforms transport (List.forall_mem_nil _) (.inl trivial)
        trivial ?_
      refine ⟨target, [], _, desk.past, rfl, rfl, List.forall_mem_nil _, ?_⟩
      intro path known
      subst known
      exact oriented.place path placed
  | entering target => exact placed.elim
  | waiting target => exact placed.elim

theorem completed_steady (oriented : desk.Oriented)
    (outcome : desk.result ≠ .wouldBlock ∧ desk.result ≠ .again) (env : Env)
    (past : desk.past = .completed desk.result :: earlier) (linked : Linked earlier desk.session)
    (out : (Operation.list task).Out earlier desk.session) :
    ((task.completed env desk).map .list).Steady desk := by
  obtain ⟨request, progress⟩ := task
  obtain ⟨target, waits, text, before, rfl, sent, all, settled⟩ := out
  have steady := Desk.Steady.refl oriented
  have taken : desk.Steady desk.takeListing.2 :=
    steady.idles rfl ⟨[.listingTaken desk.takeListing.1], by simp [Happening.isIdle,
      Happening.isAside], rfl⟩
  simp only [completed]
  split
  · exact steady.ends outcome.2 outcome.1 rfl
  · split
    · rename_i path entries known
      obtain ⟨server, ours, -, up⟩ := linked
      let listing : Listing := { path, entries := fresh entries, fetched := env.now }
      have fetched : listing.FetchedFrom server desk.takeListing.2.past := by
        have up' : Link.ofPast before = .up server := by
          have asides : ∀ happening ∈ waits, happening.isAside = true := fun happening mem =>
            Happening.isAside_of_isWait (all happening mem)
          rw [sent, Link.ofPast_asides asides, Link.ofPast_cons, Link.after_sent] at up
          exact up
        refine ⟨entries, desk.result, waits, text, before, ?_, all, rfl, up', settled path rfl⟩
        rw [Desk.takeListing_past, past, sent]
        exact congrArg (fun entries => Happening.listingTaken entries :: _) known
      exact (taken.store ours fetched).ends outcome.2 outcome.1 rfl
    · exact taken.ends outcome.2 outcome.1 rfl

omit [Transport τ] in
theorem returned_steady (oriented : desk.Oriented) {entered : Reply} {target : RemotePath}
    (at_ : task.progress = .entering target) (again : entered ≠ .again)
    (wait : entered ≠ .wouldBlock)
    (known : entered = .ok → desk.session.directory = some target) :
    ((task.returned entered desk).map .list).Steady desk := by
  obtain ⟨request, progress⟩ := task
  obtain rfl : progress = .entering target := at_
  have steady := Desk.Steady.refl oriented
  simp only [returned]
  split
  · rename_i ok
    exact steady.answerAgain trivial (known ok)
  · split
    · exact (steady.note _ _).ends (by decide) (by decide) rfl
    · split
      · exact steady.ends again wait rfl
      · have quiet : desk.Quiet (desk.noteEntered entered "listing the current one") :=
          .noteEntered (.refl desk) _ _
        refine (steady.quiet quiet).answerAgain trivial ?_
        rw [quiet.session]
        cases here : desk.session.directory with
        | none => exact trivial
        | some path => exact here

end ListTask

namespace MakeDirTask

variable {task : MakeDirTask}

omit [Transport τ] in
theorem mark_steady {start : Desk τ Operation} (steady : start.Steady desk)
    (freshness : Freshness) : start.Steady (task.mark freshness desk) := by
  unfold mark
  split
  · exact steady.tellCache fun _ => rfl
  · exact steady

omit [Transport τ] in
theorem mark_transport (freshness : Freshness) :
    (task.mark freshness desk).transport = desk.transport := by
  unfold mark
  split
  · exact desk.tellCache_transport _
  · rfl

/-- A directory that is made is always named in full. -/
theorem send_steady (oriented : desk.Oriented) (conforms : Transport.Conforms good)
    (transport : good desk.transport) (h : (Operation.makeDir task).acts = true) :
    ((task.send desk).map .makeDir).Steady desk := by
  obtain ⟨request, stage⟩ := task
  have steady := Desk.Steady.refl oriented
  cases stage with
  | start =>
      exact (steady.note _ _).answerAgain (f := .makeDir) trivial trivial
  | ready =>
      refine (mark_steady steady _).send conforms ?_ (List.forall_mem_nil _) (.inl trivial)
        trivial trivial
      rw [mark_transport]
      exact transport
  | waiting => cases h

theorem completed_steady (oriented : desk.Oriented)
    (outcome : desk.result ≠ .wouldBlock ∧ desk.result ≠ .again)
    (h : (Operation.makeDir task).awaitsCompletion = true) :
    ((task.completed desk).map .makeDir).Steady desk := by
  obtain ⟨request, stage⟩ := task
  cases stage with
  | waiting => exact (Desk.Steady.refl oriented).ends outcome.2 outcome.1 rfl
  | start => cases h
  | ready => cases h

end MakeDirTask

namespace RawTask

variable {task : RawTask}

theorem send_steady (oriented : desk.Oriented) (conforms : Transport.Conforms good)
    (transport : good desk.transport) (h : (Operation.raw task).acts = true) :
    ((task.send desk).map .raw).Steady desk := by
  have idle : task.waiting = false := by simpa [Operation.acts] using h
  have steady := Desk.Steady.refl oriented
  simp only [send, idle, Bool.false_eq_true, if_false]
  refine (((steady.note _ _).tellCache fun _ => rfl).forget).send conforms ?_
    (List.forall_mem_nil _) (.inr rfl) trivial trivial
  simpa using transport

theorem completed_steady (oriented : desk.Oriented)
    (outcome : desk.result ≠ .wouldBlock ∧ desk.result ≠ .again)
    (h : (Operation.raw task).awaitsCompletion = true) :
    ((task.completed desk).map .raw).Steady desk := by
  have waiting : task.waiting = true := by simpa [Operation.awaitsCompletion] using h
  simp only [completed, waiting, if_true]
  exact (Desk.Steady.refl oriented).ends outcome.2 outcome.1 rfl

end RawTask

/-! ## All operations but those that connect -/

namespace Operation

variable {operation finished : Operation}

/-- The operation makes or closes the connection. -/
def isConnection : Operation → Bool
  | connect _ | disconnect _ => true
  | _ => false

theorem send_steady (oriented : desk.Oriented) (conforms : Transport.Conforms good)
    (transport : good desk.transport) (env : Env) (plain : operation.isConnection = false)
    (h : operation.acts = true) (specified : operation.IsSpecified)
    (placed : operation.Placed desk.session) : (operation.send env desk).Steady desk := by
  cases operation with
  | connect task => cases plain
  | disconnect task => cases plain
  | sleep task => exact SleepTask.send_steady oriented conforms transport h
  | changeDir task => exact ChangeDirTask.send_steady oriented conforms transport h
  | list task => exact ListTask.send_steady oriented conforms transport env placed
  | makeDir task => exact MakeDirTask.send_steady oriented conforms transport h
  | raw task => exact RawTask.send_steady oriented conforms transport h
  | _ => exact oriented.directoryCommand_send conforms transport env rfl specified placed

theorem completed_steady (oriented : desk.Oriented)
    (outcome : desk.result ≠ .wouldBlock ∧ desk.result ≠ .again) (env : Env)
    (plain : operation.isConnection = false) (h : operation.awaitsCompletion = true)
    (specified : operation.IsSpecified) (past : desk.past = .completed desk.result :: earlier)
    (tied : operation.Tied earlier desk.session) (out : operation.Out earlier desk.session) :
    (operation.completed env desk).Steady desk := by
  cases operation with
  | connect task => cases plain
  | disconnect task => cases plain
  | sleep task =>
      have waiting : task.waiting = true := by simpa [awaitsCompletion] using h
      simp only [completed, SleepTask.completed, waiting, if_true]
      exact (Desk.Steady.refl oriented).ends outcome.2 outcome.1 rfl
  | changeDir task => exact ChangeDirTask.completed_steady oriented outcome h past out
  | list task => exact ListTask.completed_steady oriented outcome env past tied out
  | makeDir task => exact MakeDirTask.completed_steady oriented outcome h
  | raw task => exact RawTask.completed_steady oriented outcome h
  | _ => exact oriented.directoryCommand_completed outcome env rfl specified out

/-- A directory command that waits to enter a directory waits to enter its own. -/
theorem progress_of_entering {home target : RemotePath} (works : operation.home? = some home)
    (enters : operation.entering? = some target) :
    operation.progress? = some .entering ∧ home = target := by
  have own : ∀ progress : Progress, (if progress = .entering then some home else none) =
      some target → progress = .entering ∧ home = target := by
    intro progress enters
    split at enters
    · rename_i at_
      exact ⟨at_, Option.some.inj enters⟩
    · cases enters
  cases operation <;> first
    | (cases works
       obtain ⟨at_, rfl⟩ := own _ enters
       exact ⟨congrArg some at_, rfl⟩)
    | cases works

omit [Transport τ] in
theorem returned_steady (oriented : desk.Oriented) {entered : Reply}
    (plain : operation.isConnection = false) (again : entered ≠ .again)
    (wait : entered ≠ .wouldBlock) (specified : operation.IsSpecified) {target : RemotePath}
    (enters : operation.entering? = some target)
    (known : entered = .ok → desk.session.directory = some target) :
    (returned entered finished operation desk).Steady desk := by
  cases operation with
  | connect task => cases plain
  | list task =>
      obtain ⟨request, progress⟩ := task
      cases progress with
      | entering path =>
          obtain rfl : path = target := Option.some.inj enters
          exact ListTask.returned_steady oriented rfl again wait known
      | start => cases enters
      | ready path => cases enters
      | waiting path => cases enters
  | disconnect task => cases plain
  | sleep task => cases enters
  | changeDir task => cases enters
  | makeDir task => cases enters
  | raw task => cases enters
  | _ =>
      obtain ⟨at_, rfl⟩ := progress_of_entering rfl enters
      exact oriented.directoryCommand_returned finished rfl specified at_ known

end Operation

end Courier
