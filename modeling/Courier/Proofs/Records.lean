import Courier.Proofs.WorkingDirectory
import Courier.Proofs.Chronicle

/-!
# What a step puts on record

A step of an operation sends a line the cache was told of, discards a listing or stores one, or it
changes nothing, neither in the cache nor, by a line, on the server. This is shown here once, of
every operation in every state it can be in, together with what is out while the operation waits.
What is said elsewhere of the cache and the journal follows from it.
-/

namespace Courier

open RemotePath (Naming)

/-! ## The command of an operation -/

namespace Operation

/-- The operation executes the command, or what is left of it. -/
def Serves (command : Command) : Operation → Prop
  | connect task => command = .connect task.request
  | disconnect _ => command = .disconnect
  | list task => command = .list task.request
  | transfer task => command = .transfer task.request
  | delete task => ∃ done, command = .delete ⟨task.path, done ++ task.rest⟩
  | removeDir task => command = .removeDir task.request
  | makeDir task => command = .makeDir task.request
  | rename task => command = .rename task.request
  | chmod task => command = .chmod task.request
  | raw task => command = .raw task.line
  | sleep _ | changeDir _ => False

/-- The line of a directory command that names its objects in this way. -/
def lineNaming? (naming : Naming) : Operation → Option WireLine
  | transfer task =>
    let object : ObjectName := ⟨task.request.path, naming, task.request.file⟩
    some (if task.request.isDownload then .get object else .put object)
  | delete task => task.rest.head?.map fun file => .remove ⟨task.path, naming, file⟩
  | removeDir task => some (.removeDir ⟨task.request.path, naming, task.request.subDir⟩)
  | rename task =>
    some (.move ⟨task.request.fromPath, naming, task.request.fromFile⟩
      ⟨task.request.toPath, RenameTask.targetNaming task.request naming, task.request.toFile⟩)
  | chmod task =>
    some (.chmod task.request.permission ⟨task.request.path, naming, task.request.file⟩)
  | _ => none

/-- The line that is out while the operation waits. -/
def line? : Operation → Option WireLine
  | changeDir task => if task.waiting then some (.changeDir task.path) else none
  | list task => if task.progress.isWaiting then some .list else none
  | makeDir task => if task.stage = .waiting then some (.makeDir task.request.path) else none
  | raw task => if task.waiting then some (.raw task.line) else none
  | operation =>
    match operation.progress? with
    | some (.waiting naming) => operation.lineNaming? naming
    | _ => none

/-- A listing about which nothing has been done yet. -/
def isListToBegin : Operation → Bool
  | list task => task.progress = .start
  | _ => false

variable {operation next : Operation} {command : Command} {naming : Naming} {line : WireLine}
  {home : RemotePath}

theorem line?_of_home? (works : operation.home? = some home) :
    operation.line? =
      match operation.progress? with
      | some (.waiting naming) => operation.lineNaming? naming
      | _ => none := by
  cases operation <;> first | rfl | cases works

theorem not_isSubcommand_of_home? (works : operation.home? = some home) :
    operation.isSubcommand = false := by
  cases operation <;> first | rfl | cases works

theorem isListToBegin_of_home? (works : operation.home? = some home) :
    operation.isListToBegin = false := by
  cases operation <;> first | rfl | cases works

theorem line?_withProgress (works : operation.home? = some home) (progress : Progress) :
    (operation.withProgress progress).line? =
      match progress with
      | .waiting naming => operation.lineNaming? naming
      | _ => none := by
  cases operation <;> first | (cases progress <;> rfl) | cases works

theorem isListToBegin_withProgress (works : operation.home? = some home) (progress : Progress) :
    (operation.withProgress progress).isListToBegin = false :=
  isListToBegin_of_home? ((withProgress_home? _).trans works)

theorem lineNaming?_of_next {store : Local.Store}
    (h : operation.next? naming store = some (.inr line)) :
    operation.lineNaming? naming = some line := by
  cases operation with
  | transfer task =>
      simp only [next?] at h
      split at h
      · cases h
      · cases h
        rfl
  | delete task =>
      simp only [next?] at h
      split at h
      · cases h
      · rename_i file rest left
        cases h
        simp [lineNaming?, left]
  | removeDir task =>
      cases h
      rfl
  | rename task =>
      cases h
      rfl
  | chmod task =>
      cases h
      rfl
  | _ => cases h

theorem Serves.withProgress (serves : operation.Serves command) (progress : Progress) :
    (operation.withProgress progress).Serves command := by
  cases operation <;> exact serves

theorem Serves.withChannel (serves : operation.Serves command) (channel : Local.Channel) :
    (operation.withChannel channel).Serves command := by
  cases operation <;> exact serves

theorem line?_withChannel (channel : Local.Channel) :
    (operation.withChannel channel).line? = operation.line? := by
  cases operation <;> rfl

theorem IsButForChannel.serves (same : operation.IsButForChannel next)
    (serves : operation.Serves command) : next.Serves command := by
  rcases same with rfl | ⟨channel, rfl⟩
  · exact serves
  · exact serves.withChannel channel

theorem IsButForChannel.line? (same : operation.IsButForChannel next) :
    next.line? = operation.line? := by
  rcases same with rfl | ⟨channel, rfl⟩
  · rfl
  · exact line?_withChannel channel

/-- What is left of the command after an answer is still of the command. -/
theorem Serves.after {result : Reply} (serves : operation.Serves command)
    (h : operation.after naming result = .inr next) : next.Serves command := by
  cases operation with
  | delete task =>
      obtain ⟨done, rfl⟩ := serves
      have rest : done ++ task.rest = (done ++ task.rest.head?.toList) ++ task.rest.tail := by
        cases task.rest <;> simp
      simp only [Operation.after] at h
      split at h
      · split at h
        · cases h
        · cases h
          exact ⟨_, by rw [← rest]⟩
      · cases h
        exact ⟨_, by rw [← rest]⟩
  | _ => cases h

/-- A directory command sends lines of its command. -/
theorem Serves.lines_own (serves : operation.Serves command)
    (h : operation.lineNaming? naming = some line) : command.Says line := by
  cases operation with
  | transfer task =>
      cases serves
      cases h
      exact ⟨naming, rfl⟩
  | delete task =>
      obtain ⟨done, rfl⟩ := serves
      obtain ⟨file, first, rfl⟩ := Option.map_eq_some_iff.1 h
      obtain ⟨rest, left⟩ := List.head?_eq_some_iff.1 first
      exact ⟨naming, file, by simp [left], rfl⟩
  | removeDir task =>
      cases serves
      cases h
      exact ⟨naming, rfl⟩
  | rename task =>
      cases serves
      cases h
      exact ⟨naming, _, rfl⟩
  | chmod task =>
      cases serves
      cases h
      exact ⟨naming, rfl⟩
  | _ => cases h

end Operation

/-! ## The record of a step -/

variable {τ : Type}

/-- From `start` to `desk` nothing was changed, neither in the cache nor, by a line, on the
server. -/
structure Desk.Plainly (start desk : Desk τ Operation) : Prop where
  past : ∃ plains, (∀ happening ∈ plains, happening.isPlain = true ∧ happening.command? = none) ∧
    desk.past = plains ++ start.past
  cache : desk.cache = start.cache

variable [Transport τ]

/-- What a step of the operation that begins at `start` has put on record when it ends at `desk`. -/
inductive Desk.Records (operation : Operation) (start : Desk τ Operation) :
    Desk τ Operation → Prop
  | plain {desk : Desk τ Operation} (plainly : start.Plainly desk) : Records operation start desk
  /-- A line of the command is sent, of which the cache was told. -/
  | speaks {line : WireLine} {text : String} {reply : Reply} {before desk : Desk τ Operation}
      (command : operation.isSubcommand = false)
      (own : ∀ command, operation.Serves command → command.Says line)
      (prepares : start.Prepares line before)
      (past : desk.past = .sent line text reply :: before.past)
      (cache : desk.cache = before.cache) : Records operation start desk
  | discards {task : ListTask} {server : Server} {path : RemotePath} {desk : Desk τ Operation}
      (is : operation = .list task) (begins : task.progress = .start)
      (wanted : task.request.flags.contains .clearCache = true)
      (target : task.request.target? start.session.directory = some path)
      (ours : start.session.server = some server)
      (plainly : (start.cacheCall (.forgetDir server path)).2.Plainly desk) :
      Records operation start desk
  | stores {task : ListTask} {server : Server} {listing : Listing} {entries : List Entry}
      {text : String} {waits before : List Happening} {desk : Desk τ Operation}
      (is : operation = .list task)
      (completed : start.past =
        .completed start.result :: (waits ++ .sent .list text .wouldBlock :: before))
      (waited : ∀ happening ∈ waits, happening.isWait = true)
      (fine : start.result.isError = false) (up : Link.ofPast before = .up server)
      (taken : start.takeListing.1 = some entries)
      (received : listing.entries = ListTask.fresh entries)
      (plainly : (start.takeListing.2.cacheCall (.store server listing)).2.Plainly desk) :
      Records operation start desk

/-- The record of a step, and what is known of the operation after it. -/
structure Step.Recorded (operation : Operation) (start : Desk τ Operation)
    (step : Step τ Operation Operation) : Prop where
  records : start.Records operation step.desk
  serves : step.reply = .again ∨ step.reply = .wouldBlock →
    ∀ command, operation.Serves command → step.operation.Serves command
  goesOn : step.reply = .again →
    step.operation.line? = none ∧ step.operation.isListToBegin = false
  /-- The request that is out was the last thing to happen. -/
  waits : step.reply = .wouldBlock → ∃ request before, step.desk.past = request :: before ∧
    request.answer? = some .wouldBlock ∧ request.line? = step.operation.line?

namespace Desk.Plainly

variable {start desk after : Desk τ Operation}

omit [Transport τ]

theorem refl (desk : Desk τ Operation) : desk.Plainly desk :=
  ⟨⟨[], List.forall_mem_nil _, rfl⟩, rfl⟩

/-- One more thing happened. -/
theorem happened (plainly : start.Plainly desk) {happening : Happening}
    (plain : happening.isPlain = true) (command : happening.command? = none)
    (past : after.past = happening :: desk.past) (cache : after.cache = desk.cache) :
    start.Plainly after := by
  obtain ⟨⟨plains, all, before⟩, same⟩ := plainly
  refine ⟨⟨happening :: plains, ?_, ?_⟩, cache.trans same⟩
  · exact List.forall_mem_cons.2 ⟨⟨plain, command⟩, all⟩
  · rw [past, before]
    rfl

/-- Nothing that is recorded happened. -/
theorem silent (plainly : start.Plainly desk) (past : after.past = desk.past)
    (cache : after.cache = desk.cache) : start.Plainly after := by
  obtain ⟨⟨plains, all, before⟩, same⟩ := plainly
  exact ⟨⟨plains, all, past.trans before⟩, cache.trans same⟩

theorem note (plainly : start.Plainly desk) (level : LogLevel) (text : String) :
    start.Plainly (desk.note level text) := plainly.silent rfl rfl

theorem quiet (plainly : start.Plainly desk) (quiet : desk.Quiet after) : start.Plainly after := by
  obtain ⟨notes, rfl⟩ := quiet
  exact plainly.silent rfl rfl

theorem withSession (plainly : start.Plainly desk) (session : Session) :
    start.Plainly { desk with session } := plainly.silent rfl rfl

theorem request (plainly : start.Plainly desk) (child : Operation) :
    start.Plainly (desk.request child) :=
  plainly.silent (desk.request_past child) (desk.request_cache child)

theorem lookup (plainly : start.Plainly desk) (path : RemotePath) :
    start.Plainly (desk.lookup path).2 := by
  rcases desk.lookup_desk path with same | ⟨server, called⟩
  · rw [same]
    exact plainly
  · rw [called]
    exact plainly.happened rfl rfl (desk.cacheCall_past _) (desk.cacheCall_cache _)

end Desk.Plainly

/-! ## The ways in which a step ends -/

section Endings

variable {start desk : Desk τ Operation} {operation : Operation} {reply : Reply} {κ : Type}
  {f : κ → Operation} {task : κ}

theorem Desk.Records.ends (records : start.Records operation desk) (again : reply ≠ .again)
    (wait : reply ≠ .wouldBlock) : ((desk.answer reply task).map f).Recorded operation start where
  records := records
  serves := fun h => (h.elim again wait).elim
  goesOn := fun h => absurd h again
  waits := fun h => absurd h wait

theorem Desk.Records.goesOn (records : start.Records operation desk)
    (serves : ∀ command, operation.Serves command → (f task).Serves command)
    (silent : (f task).line? = none) (begun : (f task).isListToBegin = false) :
    ((desk.answer .again task).map f).Recorded operation start where
  records := records
  serves := fun _ => serves
  goesOn := fun _ => ⟨silent, begun⟩
  waits := fun h => absurd h Reply.again_ne_wouldBlock

/-- The step ends with the answer to a request. -/
theorem Step.Recorded.of_request {step : Step τ Operation Operation} {request : Happening}
    {before : List Happening} (records : start.Records operation step.desk)
    (past : step.desk.past = request :: before) (answer : request.answer? = some step.reply)
    (again : step.reply ≠ .again) (line : request.line? = step.operation.line?)
    (serves : ∀ command, operation.Serves command → step.operation.Serves command) :
    step.Recorded operation start where
  records := records
  serves := fun _ => serves
  goesOn := fun h => absurd h again
  waits := fun wait => ⟨request, before, past, wait ▸ answer, line⟩

variable {good : Transport.States τ} (conforms : Transport.Conforms good)

include conforms

/-- A line is sent that changes nothing on the server. -/
theorem Desk.Plainly.send (plainly : start.Plainly desk) (transport : good desk.transport)
    {line : WireLine} (harmless : line.isMutating = false) (waits : (f task).line? = some line)
    (serves : ∀ command, operation.Serves command → (f task).Serves command) :
    ((desk.send line task).map f).Recorded operation start := by
  have answer := (conforms.send _ (desk.lineText line) transport).1
  refine .of_request (.plain (plainly.happened ?_ rfl (desk.send_past line task) rfl))
    (desk.send_past line task) rfl (Reply.ne_again_of_start answer) waits.symm serves
  simp [Happening.isPlain, harmless]

/-- A line of the command is sent. -/
theorem Desk.Prepares.send {before : Desk τ Operation} {line : WireLine}
    (prepares : start.Prepares line before) (transport : good before.transport)
    (command : operation.isSubcommand = false)
    (own : ∀ command, operation.Serves command → command.Says line)
    (waits : (f task).line? = some line)
    (serves : ∀ command, operation.Serves command → (f task).Serves command) :
    ((before.send line task).map f).Recorded operation start := by
  have answer := (conforms.send _ (before.lineText line) transport).1
  exact .of_request (.speaks command own prepares (before.send_past line task) rfl)
    (before.send_past line task) rfl (Reply.ne_again_of_start answer) waits.symm serves

theorem Desk.Plainly.wakeUp (plainly : start.Plainly desk) (transport : good desk.transport)
    (seconds : Nat) (waits : (f task).line? = none)
    (serves : ∀ command, operation.Serves command → (f task).Serves command) :
    ((desk.wakeUp seconds task).map f).Recorded operation start := by
  have answer := (conforms.wakeUp _ seconds transport).1
  exact .of_request (.plain (plainly.happened rfl rfl rfl rfl)) rfl rfl
    (Reply.ne_again_of_start answer) waits.symm serves

theorem Desk.Plainly.connect (plainly : start.Plainly desk) (transport : good desk.transport)
    (server : Server) (credentials : Credentials) (waits : (f task).line? = none)
    (serves : ∀ command, operation.Serves command → (f task).Serves command) :
    ((desk.connect server credentials task).map f).Recorded operation start := by
  have answer := (conforms.connect _ server credentials transport).1
  exact .of_request (.plain (plainly.happened rfl rfl rfl rfl)) rfl rfl
    (Reply.ne_again_of_start answer) waits.symm serves

end Endings

/-! ## Directory commands -/

variable {good : Transport.States τ} {desk : Desk τ Operation} {operation : Operation}
  {home : RemotePath}

theorem directoryCommand_send_recorded (conforms : Transport.Conforms good)
    (transport : good desk.transport) (env : Env) (works : operation.home? = some home)
    (placed : operation.Placed desk.session) :
    (operation.send env desk).Recorded operation desk := by
  obtain ⟨progress, at_⟩ := Operation.exists_progress works
  have known := (Operation.placed_iff works at_).1 placed
  have plainly := Desk.Plainly.refl desk
  cases progress with
  | start =>
      obtain ⟨path, after, -, quiet, sent⟩ := Operation.send_start desk env at_
      rw [sent]
      exact Desk.Records.goesOn (f := id) (.plain ((plainly.quiet quiet).request _))
        (fun _ serves => serves.withProgress _) (Operation.line?_withProgress works .entering)
        (Operation.isListToBegin_withProgress works _)
  | ready naming =>
      have ready := Operation.send_ready desk env at_
      split at ready
      · rename_i reply next
        obtain ⟨after, quiet, sent⟩ := ready
        rw [sent]
        obtain ⟨again, wait⟩ := Operation.next_inl next
        exact Desk.Records.ends (f := id) (.plain (plainly.quiet quiet)) again wait
      · rename_i line next
        obtain ⟨before, out, prepares, same, sent⟩ := ready
        rw [sent]
        have line := Operation.lineNaming?_of_next next
        refine prepares.send (f := id) conforms (prepares.good_transport conforms transport)
          (Operation.not_isSubcommand_of_home? works) (fun _ serves => serves.lines_own line) ?_
          fun _ serves => same.serves (serves.withProgress _)
        exact (same.line?.trans (Operation.line?_withProgress works (.waiting naming))).trans line
      · exact ready.elim
  | entering => exact known.elim
  | waiting naming => exact known.elim

theorem directoryCommand_completed_recorded
    (outcome : desk.result ≠ .wouldBlock ∧ desk.result ≠ .again) (env : Env)
    (works : operation.home? = some home) {past : List Happening}
    (out : operation.Out past desk.session) :
    (operation.completed env desk).Recorded operation desk := by
  obtain ⟨naming, at_, -⟩ := out.directoryCommand works
  have plainly := Desk.Plainly.refl desk
  have completed := Operation.completed_waiting desk env at_
  split at completed
  · rename_i reply ended
    obtain ⟨after, out, quiet, -, eq⟩ := completed
    rw [eq]
    obtain rfl := Operation.after_inl ended
    exact Desk.Records.ends (f := id) (.plain (plainly.quiet quiet)) outcome.2 outcome.1
  · rename_i next again
    obtain ⟨after, quiet, eq⟩ := completed
    rw [eq]
    obtain ⟨same, ready, -⟩ := Operation.after_inr again
    have there := same.trans works
    refine Desk.Records.goesOn (f := id) (.plain (plainly.quiet quiet))
      (fun _ serves => serves.after again) ?_ (Operation.isListToBegin_of_home? there)
    rw [id, Operation.line?_of_home? there, ready]

theorem directoryCommand_returned_recorded (entered : Reply) (finished : Operation)
    (works : operation.home? = some home) (at_ : operation.progress? = some .entering) :
    (Operation.returned entered finished operation desk).Recorded operation desk := by
  obtain ⟨after, quiet, eq⟩ := Operation.returned_entering desk entered finished at_
  rw [eq]
  exact Desk.Records.goesOn (f := id) (.plain ((Desk.Plainly.refl desk).quiet quiet))
    (fun _ serves => serves.withProgress _)
    (Operation.line?_withProgress works (.ready (.after entered)))
    (Operation.isListToBegin_withProgress works _)

/-! ## Connections and subcommands -/

namespace ConnectTask

variable {task : ConnectTask}

theorem send_recorded (conforms : Transport.Conforms good) (transport : good desk.transport)
    (h : (Operation.connect task).acts = true) :
    ((task.send desk).map .connect).Recorded (.connect task) desk := by
  have stage : task.stage = .connect := by simpa [Operation.acts] using h
  simp only [send, stage]
  exact (((Desk.Plainly.refl desk).note _ _).withSession _).connect conforms transport _ _ rfl
    fun _ serves => serves

theorem completed_recorded (outcome : desk.result ≠ .wouldBlock ∧ desk.result ≠ .again) (env : Env)
    (h : (Operation.connect task).awaitsCompletion = true) :
    ((task.completed env desk).map .connect).Recorded (.connect task) desk := by
  have stage : task.stage = .connecting := by simpa [Operation.awaitsCompletion] using h
  have plainly := Desk.Plainly.refl desk
  simp only [completed, stage]
  split
  · exact Desk.Records.ends (.plain ((plainly.note _ _).withSession _)) (by decide) (by decide)
  · split
    · exact Desk.Records.ends (.plain (plainly.note _ _)) (by decide) (by decide)
    · split
      · exact Desk.Records.ends (.plain plainly) outcome.2 outcome.1
      · exact Desk.Records.goesOn (f := .connect) (.plain ((plainly.note _ _).request _))
          (fun _ serves => serves) rfl rfl

theorem returned_recorded {reply : Reply} {finished : Operation} (again : reply ≠ .again)
    (wait : reply ≠ .wouldBlock)
    (h : (Operation.connect task).expects (.returned reply finished) = true) :
    ((task.returned reply finished desk).map .connect).Recorded (.connect task) desk := by
  have stage : task.stage = .retryWait ∧ finished.kind = .sleep := by
    simpa [Operation.expects, Operation.entering?, Operation.isRetrying] using h
  have plainly := Desk.Plainly.refl desk
  simp only [returned, stage, and_self, if_true]
  split
  · exact Desk.Records.goesOn (f := .connect) (.plain plainly) (fun _ serves => serves) rfl rfl
  · exact Desk.Records.ends (.plain (plainly.note _ _)) again wait

end ConnectTask

namespace DisconnectTask

variable {task : DisconnectTask}

theorem send_recorded (h : (Operation.disconnect task).acts = true) :
    ((task.send desk).map .disconnect).Recorded (.disconnect task) desk := by
  have idle : task.waiting = false := by simpa [Operation.acts] using h
  have asked : desk.Plainly (desk.note .info "Disconnecting").disconnect.2 := by
    have past := Desk.disconnect_past (desk.note .info "Disconnecting")
    exact ((Desk.Plainly.refl desk).note _ _).happened rfl rfl past rfl
  simp only [send, idle, Bool.false_eq_true, if_false]
  split
  · rename_i blocks
    refine Step.Recorded.of_request (.plain asked) (Desk.disconnect_past _) rfl ?_ rfl
      fun _ serves => serves
    intro again
    exact absurd (again.symm.trans blocks) Reply.again_ne_wouldBlock
  · split
    · exact Desk.Records.ends (.plain ((asked.note _ _).withSession _)) (by decide) (by decide)
    · exact Desk.Records.ends (.plain (asked.withSession _)) (by decide) (by decide)

theorem completed_recorded (h : (Operation.disconnect task).awaitsCompletion = true) :
    ((task.completed desk).map .disconnect).Recorded (.disconnect task) desk := by
  have waiting : task.waiting = true := by simpa [Operation.awaitsCompletion] using h
  simp only [completed, waiting, if_true]
  exact Desk.Records.ends (.plain ((Desk.Plainly.refl desk).withSession _)) (by decide) (by decide)

end DisconnectTask

namespace SleepTask

variable {task : SleepTask}

theorem send_recorded (conforms : Transport.Conforms good) (transport : good desk.transport)
    (h : (Operation.sleep task).acts = true) :
    ((task.send desk).map .sleep).Recorded (.sleep task) desk := by
  have idle : task.waiting = false := by simpa [Operation.acts] using h
  simp only [send, idle, Bool.false_eq_true, if_false]
  exact ((Desk.Plainly.refl desk).note _ _).wakeUp conforms transport _ rfl fun _ serves => serves

theorem completed_recorded (outcome : desk.result ≠ .wouldBlock ∧ desk.result ≠ .again)
    (h : (Operation.sleep task).awaitsCompletion = true) :
    ((task.completed desk).map .sleep).Recorded (.sleep task) desk := by
  have waiting : task.waiting = true := by simpa [Operation.awaitsCompletion] using h
  simp only [completed, waiting, if_true]
  exact Desk.Records.ends (.plain (.refl desk)) outcome.2 outcome.1

end SleepTask

namespace ChangeDirTask

variable {task : ChangeDirTask}

theorem send_recorded (conforms : Transport.Conforms good) (transport : good desk.transport)
    (h : (Operation.changeDir task).acts = true) :
    ((task.send desk).map .changeDir).Recorded (.changeDir task) desk := by
  have idle : task.waiting = false := by simpa [Operation.acts] using h
  have plainly := Desk.Plainly.refl desk
  simp only [send, idle, Bool.false_eq_true, if_false]
  split
  · exact Desk.Records.ends (.plain (plainly.note _ _)) (by decide) (by decide)
  · split
    · exact Desk.Records.ends (.plain (plainly.note _ _)) (by decide) (by decide)
    · exact (plainly.withSession { desk.session with directory := none }).send conforms transport
        rfl rfl fun _ serves => serves

theorem completed_recorded (outcome : desk.result ≠ .wouldBlock ∧ desk.result ≠ .again)
    (h : (Operation.changeDir task).awaitsCompletion = true) :
    ((task.completed desk).map .changeDir).Recorded (.changeDir task) desk := by
  have waiting : task.waiting = true := by simpa [Operation.awaitsCompletion] using h
  simp only [completed, waiting, if_true]
  split
  · exact Desk.Records.ends (.plain ((Desk.Plainly.refl desk).withSession _)) outcome.2 outcome.1
  · exact Desk.Records.ends (.plain (.refl desk)) outcome.2 outcome.1

end ChangeDirTask

/-! ## Listing, making directories and lines of the caller -/

namespace ListTask

variable {task : ListTask}

omit [Transport τ] in
theorem consultCache_plainly {start : Desk τ Operation} (plainly : start.Plainly desk) (env : Env)
    (flags : ListFlags) (target : Option RemotePath) :
    start.Plainly (consultCache env flags target desk).2 := by
  unfold consultCache
  split
  · exact plainly
  · cases target with
    | none => exact plainly
    | some path => exact plainly.lookup path

/-- From where the present listing was discarded or kept, nothing more changes at the start. -/
theorem records_of_discard (begins : task.progress = .start) {after : Desk τ Operation}
    (plainly : (discard task.request.flags (task.request.target? desk.session.directory)
      desk).Plainly after) : desk.Records (.list task) after := by
  cases target : task.request.target? desk.session.directory with
  | none =>
      rw [target] at plainly
      exact .plain plainly
  | some path =>
      simp only [discard, target] at plainly
      split at plainly
      · rename_i wanted
        cases ours : desk.session.server with
        | none =>
            rw [desk.tellCache_of_none _ ours] at plainly
            exact .plain plainly
        | some server =>
            rw [desk.tellCache_of_server _ ours] at plainly
            exact .discards rfl begins wanted target ours plainly
      · exact .plain plainly

theorem send_recorded (conforms : Transport.Conforms good) (transport : good desk.transport)
    (env : Env) (h : (Operation.list task).acts = true) :
    ((task.send env desk).map .list).Recorded (.list task) desk := by
  obtain ⟨request, progress⟩ := task
  cases progress with
  | start =>
      have consulted := consultCache_plainly (.refl (discard request.flags
        (request.target? desk.session.directory) desk)) env request.flags
        (request.target? desk.session.directory)
      have records {after : Desk τ Operation} (plainly : (discard request.flags
          (request.target? desk.session.directory) desk).Plainly after) :
          desk.Records (.list ⟨request, .start⟩) after := records_of_discard rfl plainly
      simp only [send]
      split
      · exact Desk.Records.ends (records (consulted.note _ _)) (by decide) (by decide)
      · split
        · split
          · exact Desk.Records.goesOn (f := .list) (records consulted) (fun _ serves => serves)
              rfl rfl
          · exact Desk.Records.goesOn (f := .list) (records (consulted.request _))
              (fun _ serves => serves) rfl rfl
        · exact Desk.Records.goesOn (f := .list) (records consulted) (fun _ serves => serves)
            rfl rfl
  | ready target =>
      exact ((Desk.Plainly.refl desk).note _ _).send conforms transport rfl rfl
        fun _ serves => serves
  | entering target => cases h
  | waiting target => cases h

theorem completed_recorded (outcome : desk.result ≠ .wouldBlock ∧ desk.result ≠ .again) (env : Env)
    {earlier : List Happening} (past : desk.past = .completed desk.result :: earlier)
    (linked : Linked earlier desk.session) (out : (Operation.list task).Out earlier desk.session) :
    ((task.completed env desk).map .list).Recorded (.list task) desk := by
  obtain ⟨request, progress⟩ := task
  have plainly := Desk.Plainly.refl desk
  have taken : desk.Plainly desk.takeListing.2 := by
    have past := desk.takeListing_past
    exact plainly.happened rfl rfl past rfl
  obtain ⟨target, waits, text, before, rfl, sent, all, -⟩ := out
  obtain ⟨server, ours, -, up⟩ := linked
  have asides : ∀ happening ∈ waits, happening.isAside = true := fun happening mem =>
    Happening.isAside_of_isWait (all happening mem)
  rw [sent, Link.ofPast_asides asides, Link.ofPast_cons, Link.after_sent] at up
  rw [sent] at past
  simp only [completed]
  split
  · exact Desk.Records.ends (.plain plainly) outcome.2 outcome.1
  · rename_i fine
    refine Desk.Records.ends ?_ outcome.2 outcome.1
    split
    · rename_i path entries received
      rw [Desk.tellCache_of_server desk.takeListing.2 _ ours]
      exact .stores rfl past all (by simpa using fine) up received rfl (.refl _)
    · exact .plain taken

theorem returned_recorded {entered : Reply} {target : RemotePath}
    (at_ : task.progress = .entering target) (again : entered ≠ .again)
    (wait : entered ≠ .wouldBlock) :
    ((task.returned entered desk).map .list).Recorded (.list task) desk := by
  obtain ⟨request, progress⟩ := task
  obtain rfl : progress = .entering target := at_
  have plainly := Desk.Plainly.refl desk
  simp only [returned]
  split
  · exact Desk.Records.goesOn (f := .list) (.plain plainly) (fun _ serves => serves) rfl rfl
  · split
    · exact Desk.Records.ends (.plain (plainly.note _ _)) (by decide) (by decide)
    · split
      · exact Desk.Records.ends (.plain plainly) again wait
      · have quiet : desk.Quiet (desk.noteEntered entered "listing the current one") :=
          .noteEntered (.refl desk) _ _
        exact Desk.Records.goesOn (f := .list) (.plain (plainly.quiet quiet))
          (fun _ serves => serves) rfl rfl

end ListTask

namespace MakeDirTask

variable {task : MakeDirTask}

theorem mark_prepares (task : MakeDirTask) (desk : Desk τ Operation) :
    desk.Prepares (.makeDir task.request.path) (task.mark .unknown desk) := by
  unfold mark
  split
  · rename_i parent name above last
    exact .tellCache (by simp only [WireLine.forecast?, above, last])
  · refine .refl desk ?_
    simp only [WireLine.forecast?]

theorem send_recorded (conforms : Transport.Conforms good) (transport : good desk.transport)
    (h : (Operation.makeDir task).acts = true) :
    ((task.send desk).map .makeDir).Recorded (.makeDir task) desk := by
  obtain ⟨request, stage⟩ := task
  cases stage with
  | start =>
      exact Desk.Records.goesOn (f := .makeDir) (.plain ((Desk.Plainly.refl desk).note _ _))
        (fun _ serves => serves) rfl rfl
  | ready =>
      have prepares := mark_prepares ⟨request, .ready⟩ desk
      refine prepares.send conforms (prepares.good_transport conforms transport) rfl ?_ rfl
        fun _ serves => serves
      rintro _ rfl
      rfl
  | waiting => cases h

theorem completed_recorded (outcome : desk.result ≠ .wouldBlock ∧ desk.result ≠ .again)
    (h : (Operation.makeDir task).awaitsCompletion = true) :
    ((task.completed desk).map .makeDir).Recorded (.makeDir task) desk := by
  obtain ⟨request, stage⟩ := task
  cases stage with
  | waiting => exact Desk.Records.ends (.plain (.refl desk)) outcome.2 outcome.1
  | start => cases h
  | ready => cases h

end MakeDirTask

namespace RawTask

variable {task : RawTask}

theorem send_recorded (conforms : Transport.Conforms good) (transport : good desk.transport)
    (h : (Operation.raw task).acts = true) :
    ((task.send desk).map .raw).Recorded (.raw task) desk := by
  have idle : task.waiting = false := by simpa [Operation.acts] using h
  have prepares : (desk.note .info ("Sending raw command '" ++ task.line ++ "'")).Prepares
      (.raw task.line) _ := .tellCache rfl
  have told : desk.Prepares (.raw task.line) _ :=
    ⟨prepares.session, prepares.cache, prepares.past, prepares.transport⟩
  simp only [send, idle, Bool.false_eq_true, if_false]
  refine .of_request (.speaks rfl ?_ told rfl rfl) rfl rfl ?_ rfl fun _ serves => serves
  · rintro _ rfl
    rfl
  · exact Reply.ne_again_of_start
      (conforms.send _ _ (prepares.good_transport conforms transport)).1

theorem completed_recorded (outcome : desk.result ≠ .wouldBlock ∧ desk.result ≠ .again)
    (h : (Operation.raw task).awaitsCompletion = true) :
    ((task.completed desk).map .raw).Recorded (.raw task) desk := by
  have waiting : task.waiting = true := by simpa [Operation.awaitsCompletion] using h
  simp only [completed, waiting, if_true]
  exact Desk.Records.ends (.plain (.refl desk)) outcome.2 outcome.1

end RawTask

/-! ## All operations -/

/-- The step of a turn, whatever the operation and whatever it is told. -/
theorem Turn.Oriented.recorded {turn : Turn τ Operation} (oriented : turn.Oriented)
    (conforms : Transport.Conforms good) (fits : turn.Fits good) (env : Env) :
    (turn.step env).Recorded turn.top { turn.desk with pending := none } := by
  obtain ⟨budget, below, event, top, desk⟩ := turn
  obtain ⟨transport, reported, outcome, expected, -⟩ := fits
  obtain ⟨-, -, told⟩ := oriented
  let start : Desk τ Operation := { desk with pending := none }
  have clear : good start.transport := transport
  cases event with
  | send =>
      cases top with
      | connect task => exact task.send_recorded conforms clear expected
      | disconnect task => exact task.send_recorded expected
      | sleep task => exact task.send_recorded conforms clear expected
      | changeDir task => exact task.send_recorded conforms clear expected
      | list task => exact task.send_recorded conforms clear env expected
      | makeDir task => exact task.send_recorded conforms clear expected
      | raw task => exact task.send_recorded conforms clear expected
      | _ => exact directoryCommand_send_recorded conforms clear env rfl told.2
  | completed =>
      obtain ⟨past, happened, tied, out⟩ := told
      have result : start.result ≠ .wouldBlock ∧ start.result ≠ .again :=
        conforms.result _ clear (reported rfl)
      cases top with
      | connect task => exact task.completed_recorded result env expected
      | disconnect task => exact task.completed_recorded expected
      | sleep task => exact task.completed_recorded result expected
      | changeDir task => exact task.completed_recorded result expected
      | list task =>
          exact task.completed_recorded result env happened (tied _ List.mem_cons_self) out
      | makeDir task => exact task.completed_recorded result expected
      | raw task => exact task.completed_recorded result expected
      | _ => exact directoryCommand_completed_recorded result env rfl out
  | returned reply finished =>
      have entering {path : RemotePath} (enters : top.entering? = some path)
          {home : RemotePath} (works : top.home? = some home) :
          (Operation.returned reply finished top { desk with pending := none }).Recorded top
            { desk with pending := none } :=
        directoryCommand_returned_recorded reply finished works
          (Operation.progress_of_entering works enters).1
      cases top with
      | connect task => exact task.returned_recorded outcome.1 outcome.2 expected
      | disconnect task => cases expected
      | sleep task => cases expected
      | changeDir task => cases expected
      | makeDir task => cases expected
      | raw task => cases expected
      | list task =>
          obtain ⟨request, progress⟩ := task
          cases progress with
          | entering target => exact ListTask.returned_recorded rfl outcome.1 outcome.2
          | _ => cases expected
      | _ =>
          obtain ⟨path, enters⟩ := Option.isSome_iff_exists.1 (by simpa [Operation.expects,
            Operation.isRetrying] using expected)
          exact entering enters rfl

end Courier
