import Courier.Proofs.Steps

/-!
# Commands that work in a directory

Five operations work inside a directory: each enters it, sends lines about objects in it, and looks
at how they end. Here is what these directory commands have in common, stated once: where each of
them works, what it does when it is ready and what it makes of an answer. The rest of the theory
sees them through these.
-/

namespace Courier

open RemotePath (Naming)

namespace WireLine

/-- The objects a line names. -/
def objects : WireLine → List ObjectName
  | get object | put object | remove object | removeDir object | chmod _ object => [object]
  | move source target => [source, target]
  | changeDir _ | list | makeDir _ | raw _ => []

/-- What the cache is told before the line is sent. -/
def forecast? : WireLine → Option (Server → DirectoryCache.Call)
  | put object | chmod _ object =>
    some (.updateEntry · object.directory object.file false .unknown)
  | remove object => some (.removeEntry · object.directory object.file)
  | removeDir object => some (.removeDir · object.directory object.file)
  | makeDir path =>
    match path.parent?, path.lastName? with
    | some parent, some name => some (.updateEntry · parent name true .unknown)
    | _, _ => none
  | move source target =>
    some (.rename · source.directory source.file target.directory target.file)
  | raw _ => some .forgetServer
  | changeDir _ | list | get _ => none

/-- The cache after it was told of the line, on behalf of the server of the session. -/
def foretold (line : WireLine) (server : Option Server) (cache : DirectoryCache) :
    DirectoryCache :=
  match server, line.forecast? with
  | some server, some call => (cache.perform (call server)).2
  | _, _ => cache

/-- What goes on record of it. -/
def tellings (line : WireLine) (server : Option Server) (cache : DirectoryCache) :
    List Happening :=
  match server, line.forecast? with
  | some server, some call => [.cached (call server) (cache.perform (call server)).1]
  | _, _ => []

end WireLine

namespace Operation

/-! ## The states of a directory command -/

/-- The directory a directory command works in. -/
def home? : Operation → Option RemotePath
  | transfer task => some task.request.path
  | delete task => some task.path
  | removeDir task => some task.request.path
  | rename task => some task.request.fromPath
  | chmod task => some task.request.path
  | _ => none

def progress? : Operation → Option Progress
  | transfer task => some task.progress
  | delete task => some task.progress
  | removeDir task => some task.progress
  | rename task => some task.progress
  | chmod task => some task.progress
  | _ => none

def withProgress (progress : Progress) : Operation → Operation
  | transfer task => .transfer { task with progress }
  | delete task => .delete { task with progress }
  | removeDir task => .removeDir { task with progress }
  | rename task => .rename { task with progress }
  | chmod task => .chmod { task with progress }
  | operation => operation

/-- The reply with which a transfer ends whose local end cannot be opened. -/
def openFailure? (store : Local.Store) : TransferEnd → Option Reply
  | .upload source =>
    match source.openReader store with
    | .ok _ => none
    | .error _ => some .critical
  | .download sink =>
    match sink.openWriter store with
    | .ok _ => none
    | .error _ => some (.critical ||| .writeFailed)

/-- What a directory command does when it is ready: it ends with a reply or sends a line. -/
def next? (naming : Naming) (store : Local.Store) : Operation → Option (Reply ⊕ WireLine)
  | transfer task =>
    match openFailure? store task.request.localEnd with
    | some reply => some (.inl reply)
    | none =>
      let object : ObjectName := ⟨task.request.path, naming, task.request.file⟩
      some (.inr (if task.request.isDownload then .get object else .put object))
  | delete task =>
    match task.rest with
    | [] => some (.inl (if task.failed = 0 then .ok else .error))
    | file :: _ => some (.inr (.remove ⟨task.path, naming, file⟩))
  | removeDir task => some (.inr (.removeDir ⟨task.request.path, naming, task.request.subDir⟩))
  | rename task =>
    some (.inr (.move ⟨task.request.fromPath, naming, task.request.fromFile⟩
      ⟨task.request.toPath, RenameTask.targetNaming task.request naming, task.request.toFile⟩))
  | chmod task =>
    some (.inr (.chmod task.request.permission ⟨task.request.path, naming, task.request.file⟩))
  | _ => none

/-- What a directory command that waits makes of a result: it ends with a reply or is ready once
more. -/
def after (naming : Naming) (result : Reply) : Operation → Reply ⊕ Operation
  | delete task =>
    if result.isError then
      if DeleteTask.isFatal result then .inl result
      else
        .inr (.delete { task with
          rest := task.rest.tail, failed := task.failed + 1, progress := .ready naming })
    else .inr (.delete { task with rest := task.rest.tail, progress := .ready naming })
  | _ => .inl result

end Operation

/-! ## What a desk keeps -/

def DirectoryCache.Call.isStore : DirectoryCache.Call → Bool
  | .store _ _ => true
  | _ => false

variable {τ : Type}

/-- From `desk` to `after` notes were written, and that is all. -/
def Desk.Quiet (desk after : Desk τ Operation) : Prop :=
  ∃ notes, after = { desk with journal := { desk.journal with notes } }

namespace Desk.Quiet

variable {desk after : Desk τ Operation}

theorem refl (desk : Desk τ Operation) : desk.Quiet desk := ⟨desk.journal.notes, rfl⟩

theorem trans {between : Desk τ Operation} (first : desk.Quiet between)
    (second : between.Quiet after) : desk.Quiet after := by
  obtain ⟨notes, rfl⟩ := first
  obtain ⟨notes', rfl⟩ := second
  exact ⟨notes', rfl⟩

theorem session (quiet : desk.Quiet after) : after.session = desk.session := by
  obtain ⟨notes, rfl⟩ := quiet
  rfl

theorem past (quiet : desk.Quiet after) : after.past = desk.past := by
  obtain ⟨notes, rfl⟩ := quiet
  rfl

theorem store (quiet : desk.Quiet after) : after.store = desk.store := by
  obtain ⟨notes, rfl⟩ := quiet
  rfl

theorem pending (quiet : desk.Quiet after) : after.pending = desk.pending := by
  obtain ⟨notes, rfl⟩ := quiet
  rfl

theorem note (quiet : desk.Quiet after) (level : LogLevel) (text : String) :
    desk.Quiet (after.note level text) := by
  obtain ⟨notes, rfl⟩ := quiet
  exact ⟨.message level text :: notes, rfl⟩

theorem noteEntered (quiet : desk.Quiet after) (entered : Reply) (consequence : String) :
    desk.Quiet (after.noteEntered entered consequence) := by
  unfold Desk.noteEntered
  split
  · exact quiet
  · exact quiet.note _ _

end Desk.Quiet

/-- The line that was sent. -/
def Happening.line? : Happening → Option WireLine
  | .sent line _ _ => some line
  | _ => none

/-- What a directory command does before it sends a line: it tells the cache or the transport of
it. -/
def Happening.isTelling : Happening → Bool
  | .cached call _ => !call.isStore
  | .announced _ => true
  | _ => false

/-- The transport was told of a transfer. -/
def Happening.isAnnouncement : Happening → Bool
  | .announced _ => true
  | _ => false

theorem Happening.isTelling_of_isAnnouncement {happening : Happening}
    (h : happening.isAnnouncement = true) : happening.isTelling = true := by
  cases happening <;> first | rfl | cases h

namespace WireLine

variable {line : WireLine} {call : Server → DirectoryCache.Call}

/-- Nothing is stored before a line is sent. -/
theorem isStore_of_forecast? (h : line.forecast? = some call) (server : Server) :
    (call server).isStore = false := by
  cases line with
  | makeDir path =>
      simp only [forecast?] at h
      split at h <;> cases h
      rfl
  | _ => cases h <;> rfl

theorem isTelling_of_mem_tellings {server : Option Server} {cache : DirectoryCache}
    {happening : Happening} (h : happening ∈ line.tellings server cache) :
    happening.isTelling = true := by
  unfold tellings at h
  split at h
  · rename_i known call forecast
    obtain rfl := List.mem_singleton.1 h
    simp [Happening.isTelling, isStore_of_forecast? forecast known]
  · cases h

end WireLine

/-- From `desk` to `before` it was told that the line is about to be sent. -/
structure Desk.Prepares [Transport τ] (line : WireLine) (desk before : Desk τ Operation) :
    Prop where
  session : before.session = desk.session
  cache : before.cache = line.foretold desk.session.server desk.cache
  past : ∃ announcements, (∀ happening ∈ announcements, happening.isAnnouncement = true) ∧
    before.past = announcements ++ (line.tellings desk.session.server desk.cache ++ desk.past)
  transport : before.transport = desk.transport ∨
    ∃ announcement, before.transport = Transport.announce desk.transport announcement

namespace Desk

variable [Transport τ] {desk : Desk τ Operation} {line : WireLine}

/-- A line the cache has nothing to learn of needs no preparation. -/
theorem Prepares.refl (desk : Desk τ Operation) (h : line.forecast? = none) :
    desk.Prepares line desk := by
  refine ⟨rfl, ?_, ⟨[], List.forall_mem_nil _, ?_⟩, .inl rfl⟩
  · unfold WireLine.foretold
    rw [h]
    cases desk.session.server <;> rfl
  · unfold WireLine.tellings
    rw [h]
    cases desk.session.server <;> rfl

theorem Prepares.tellCache {call : Server → DirectoryCache.Call}
    (told : line.forecast? = some call) : desk.Prepares line (desk.tellCache call) := by
  refine ⟨desk.tellCache_session call, ?_, ⟨[], List.forall_mem_nil _, ?_⟩,
    .inl (desk.tellCache_transport call)⟩
  · unfold WireLine.foretold
    rw [told]
    cases server : desk.session.server with
    | none => rw [desk.tellCache_of_none call server]
    | some known => rw [desk.tellCache_of_server call server, cacheCall_cache]
  · unfold WireLine.tellings
    rw [told]
    cases server : desk.session.server with
    | none =>
        rw [desk.tellCache_of_none call server]
        rfl
    | some known =>
        rw [desk.tellCache_of_server call server, cacheCall_past]
        rfl

/-- All of it is telling. -/
theorem Prepares.tells {before : Desk τ Operation} (prepares : desk.Prepares line before) :
    ∃ tellings, (∀ happening ∈ tellings, happening.isTelling = true) ∧
      before.past = tellings ++ desk.past := by
  obtain ⟨announcements, all, past⟩ := prepares.past
  refine ⟨announcements ++ line.tellings desk.session.server desk.cache, ?_, ?_⟩
  · intro happening mem
    rcases List.mem_append.1 mem with mem | mem
    · exact Happening.isTelling_of_isAnnouncement (all happening mem)
    · exact WireLine.isTelling_of_mem_tellings mem
  · rw [past, List.append_assoc]

theorem Prepares.good_transport {before : Desk τ Operation} {good : Transport.States τ}
    {starts ends : Reply → Prop} (prepares : desk.Prepares line before)
    (answers : Transport.Answers good starts ends) (transport : good desk.transport) :
    good before.transport := by
  rcases prepares.transport with same | ⟨announcement, announced⟩
  · rw [same]
    exact transport
  · rw [announced]
    exact answers.announce _ _ transport

theorem Prepares.announce {before : Desk τ Operation} (prepares : desk.Prepares line before)
    (same : before.transport = desk.transport) (announcement : Announcement) :
    desk.Prepares line (before.announce announcement) := by
  obtain ⟨announcements, all, past⟩ := prepares.past
  refine ⟨prepares.session, prepares.cache, ⟨.announced announcement :: announcements, ?_, ?_⟩, ?_⟩
  · intro happening mem
    rcases List.mem_cons.1 mem with rfl | mem
    · rfl
    · exact all happening mem
  · rw [announce_past, past]
    rfl
  · right
    exact ⟨announcement, by rw [announce_transport, same]⟩

end Desk

/-! ## The steps of a directory command -/

namespace Operation

variable {operation : Operation} {desk : Desk τ Operation}

/-- `after` is the same directory command but for its local end, which data goes through. -/
def IsButForChannel (operation after : Operation) : Prop :=
  after = operation ∨ ∃ channel, after = operation.withChannel channel

section Steps

variable [Transport τ] (desk)

omit [Transport τ] in
/-- A directory command whose line is not under way is called off without a word. -/
theorem cancel_of_progress {progress : Progress} (h : operation.progress? = some progress)
    (idle : progress.isWaiting = false) : (operation.cancel desk).2 = desk := by
  cases operation with
  | transfer task =>
      obtain ⟨request, at_, channel⟩ := task
      cases h
      cases at_ <;> first | rfl | cases idle
  | delete task =>
      obtain ⟨path, total, rest, failed, at_⟩ := task
      cases h
      cases at_ <;> first | rfl | cases idle
  | removeDir task =>
      obtain ⟨request, at_⟩ := task
      cases h
      cases at_ <;> first | rfl | cases idle
  | rename task =>
      obtain ⟨request, at_⟩ := task
      cases h
      cases at_ <;> first | rfl | cases idle
  | chmod task =>
      obtain ⟨request, at_⟩ := task
      cases h
      cases at_ <;> first | rfl | cases idle
  | _ => cases h

/-- A directory command starts by asking to enter its directory. -/
theorem send_start (env : Env) (h : operation.progress? = some .start) :
    ∃ path after, operation.home? = some path ∧ desk.Quiet after ∧
      operation.send env desk =
        ⟨.again, operation.withProgress .entering, after.enter path⟩ := by
  -- case by case, the hypothesis tells the progress of the task
  cases operation with
  | transfer task =>
      obtain ⟨request, progress, channel⟩ := task
      cases h
      refine ⟨request.path, _, rfl, ?_, rfl⟩
      refine .note ?_ _ _
      split
      · exact .note (.refl desk) _ _
      · exact .refl desk
  | delete task =>
      obtain ⟨path, total, rest, failed, progress⟩ := task
      cases h
      exact ⟨path, _, rfl, .note (.refl desk) _ _, rfl⟩
  | removeDir task =>
      obtain ⟨request, progress⟩ := task
      cases h
      exact ⟨request.path, _, rfl, .note (.refl desk) _ _, rfl⟩
  | rename task =>
      obtain ⟨request, progress⟩ := task
      cases h
      exact ⟨request.fromPath, _, rfl, .note (.refl desk) _ _, rfl⟩
  | chmod task =>
      obtain ⟨request, progress⟩ := task
      cases h
      exact ⟨request.path, _, rfl, .note (.refl desk) _ _, rfl⟩
  | _ => cases h

omit [Transport τ] in
/-- However the change of directory ended, the directory command goes on. -/
theorem returned_entering (entered : Reply) (finished : Operation)
    (h : operation.progress? = some .entering) :
    ∃ after, desk.Quiet after ∧ returned entered finished operation desk =
      ⟨.again, operation.withProgress (.ready (.after entered)), after⟩ := by
  cases operation with
  | transfer task =>
      obtain ⟨request, progress, channel⟩ := task
      cases h
      exact ⟨_, .noteEntered (.refl desk) _ _, rfl⟩
  | delete task =>
      obtain ⟨path, total, rest, failed, progress⟩ := task
      cases h
      exact ⟨desk, .refl desk, rfl⟩
  | removeDir task =>
      obtain ⟨request, progress⟩ := task
      cases h
      exact ⟨_, .noteEntered (.refl desk) _ _, rfl⟩
  | rename task =>
      obtain ⟨request, progress⟩ := task
      cases h
      exact ⟨_, .noteEntered (.refl desk) _ _, rfl⟩
  | chmod task =>
      obtain ⟨request, progress⟩ := task
      cases h
      exact ⟨_, .noteEntered (.refl desk) _ _, rfl⟩
  | _ => cases h

omit [Transport τ] in
/-- The local end of a transfer is opened or cannot be. -/
theorem openChannel_eq (task : TransferTask) (desk : Desk τ Operation) :
    match openFailure? desk.store task.request.localEnd with
    | some reply => ∃ text, task.openChannel desk = .error (reply, desk.note .warn text)
    | none => ∃ channel store, task.openChannel desk = .ok (channel, { desk with store }) := by
  unfold TransferTask.openChannel openFailure?
  cases task.request.localEnd with
  | upload source =>
      simp only
      cases source.openReader desk.store with
      | ok reader => exact ⟨_, desk.store, rfl⟩
      | error fault => exact ⟨_, rfl⟩
  | download sink =>
      simp only
      cases sink.openWriter desk.store with
      | ok opened => exact ⟨_, opened.2, rfl⟩
      | error fault => exact ⟨_, rfl⟩

/-- Only an upload is told to the cache. -/
theorem mark_prepares (task : TransferTask) (naming : Naming) (desk : Desk τ Operation) :
    let object : ObjectName := ⟨task.request.path, naming, task.request.file⟩
    desk.Prepares (if task.request.isDownload then .get object else .put object)
      (task.mark .unknown desk) := by
  unfold TransferTask.mark
  split
  · exact .refl desk rfl
  · exact .tellCache rfl

omit [Transport τ] in
theorem mark_transport (task : TransferTask) (freshness : Freshness) (desk : Desk τ Operation) :
    (task.mark freshness desk).transport = desk.transport := by
  unfold TransferTask.mark
  split
  · rfl
  · exact desk.tellCache_transport _

/-- A transfer that is ready opens its local end and sends its line, or ends. -/
theorem transfer_ready (env : Env) {task : TransferTask} {naming : Naming}
    (h : task.progress = .ready naming) :
    match (transfer task).next? naming desk.store with
    | some (.inl reply) => ∃ after, desk.Quiet after ∧
        (transfer task).send env desk = ⟨reply, transfer task, after⟩
    | some (.inr line) => ∃ before channel, desk.Prepares line before ∧
        (transfer task).send env desk = before.send line
          (transfer { task with progress := .waiting naming, channel := some channel })
    | none => False := by
  obtain ⟨request, progress, channel⟩ := task
  obtain rfl : progress = .ready naming := h
  have opened := openChannel_eq ⟨request, .ready naming, channel⟩ desk
  simp only at opened
  simp only [next?, send, TransferTask.send]
  cases failure : openFailure? desk.store request.localEnd with
  | some reply =>
      simp only [failure] at opened
      obtain ⟨text, opened⟩ := opened
      simp only [opened]
      exact ⟨_, .note (.refl desk) .warn text, rfl⟩
  | none =>
      simp only [failure] at opened
      obtain ⟨channel, store, opened⟩ := opened
      simp only [opened]
      -- to open the local end changes the store, of which nobody is told
      have told := mark_prepares ⟨request, .ready naming, channel⟩ naming { desk with store }
      have prepares : desk.Prepares _ _ := ⟨told.session, told.cache, told.past, told.transport⟩
      exact ⟨_, channel, prepares.announce (mark_transport _ _ { desk with store }) _, rfl⟩

/-- A directory command that is ready ends or sends its line. -/
theorem send_ready (env : Env) {naming : Naming}
    (h : operation.progress? = some (.ready naming)) :
    match operation.next? naming desk.store with
    | some (.inl reply) => ∃ after, desk.Quiet after ∧
        operation.send env desk = ⟨reply, operation, after⟩
    | some (.inr line) => ∃ before out, desk.Prepares line before ∧
        (operation.withProgress (.waiting naming)).IsButForChannel out ∧
          operation.send env desk = before.send line out
    | none => False := by
  cases operation with
  | transfer task =>
      have at_ : task.progress = .ready naming := by simpa [progress?] using h
      have ready := transfer_ready desk env at_
      split at ready
      · exact ready
      · obtain ⟨before, channel, prepares, sent⟩ := ready
        exact ⟨before, _, prepares, .inr ⟨channel, rfl⟩, sent⟩
      · exact ready
  | delete task =>
      obtain ⟨path, total, rest, failed, progress⟩ := task
      cases h
      cases rest with
      | nil =>
          simp only [next?, send, DeleteTask.send]
          split
          · exact ⟨desk, .refl desk, rfl⟩
          · exact ⟨_, .note (.refl desk) _ _, rfl⟩
      | cons file files => exact ⟨_, _, .tellCache rfl, .inl rfl, rfl⟩
  | removeDir task =>
      obtain ⟨request, progress⟩ := task
      cases h
      exact ⟨_, _, .tellCache rfl, .inl rfl, rfl⟩
  | rename task =>
      obtain ⟨request, progress⟩ := task
      cases h
      exact ⟨_, _, .tellCache rfl, .inl rfl, rfl⟩
  | chmod task =>
      obtain ⟨request, progress⟩ := task
      cases h
      exact ⟨_, _, .tellCache rfl, .inl rfl, rfl⟩
  | _ => cases h

/-- A directory command that waits for its line ends with the line's result, unless files are left
to delete. -/
theorem completed_waiting (env : Env) {naming : Naming}
    (h : operation.progress? = some (.waiting naming)) :
    match operation.after naming desk.result with
    | .inl reply => ∃ after out, desk.Quiet after ∧ out.home? = operation.home? ∧
        operation.completed env desk = ⟨reply, out, after⟩
    | .inr next => ∃ after, desk.Quiet after ∧
        operation.completed env desk = ⟨.again, next, after⟩ := by
  cases operation with
  | transfer task =>
      obtain ⟨request, progress, channel⟩ := task
      cases h
      refine ⟨_, transfer ⟨request, .waiting naming, none⟩, ?_, rfl, rfl⟩
      simp only [TransferTask.completed]
      split
      · exact .note (.refl desk) _ _
      · exact .refl desk
  | delete task =>
      obtain ⟨path, total, rest, failed, progress⟩ := task
      cases h
      -- only here is something left to do after the line
      simp only [Operation.after, completed, DeleteTask.completed]
      by_cases failure : desk.result.isError = true
      · by_cases fatal : DeleteTask.isFatal desk.result = true
        · simp only [failure, fatal, if_true]
          exact ⟨desk, delete ⟨path, total, rest, failed, .ready naming⟩, .refl desk, rfl, rfl⟩
        · simp only [failure, fatal, if_true]
          exact ⟨_, .note (.refl desk) _ _, rfl⟩
      · simp only [failure]
        exact ⟨desk, .refl desk, rfl⟩
  | removeDir task =>
      obtain ⟨request, progress⟩ := task
      cases h
      exact ⟨desk, removeDir ⟨request, .waiting naming⟩, .refl desk, rfl, rfl⟩
  | rename task =>
      obtain ⟨request, progress⟩ := task
      cases h
      exact ⟨desk, rename ⟨request, .waiting naming⟩, .refl desk, rfl, rfl⟩
  | chmod task =>
      obtain ⟨request, progress⟩ := task
      cases h
      exact ⟨desk, chmod ⟨request, .waiting naming⟩, .refl desk, rfl, rfl⟩
  | _ => cases h

end Steps

end Operation

end Courier
