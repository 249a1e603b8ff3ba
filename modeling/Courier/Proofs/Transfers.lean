import Courier.Proofs.Requests

/-!
# Transfers

A transfer enters its directory, opens its local end, sends its line and ends with it. Its local end
is open exactly while the line is out, and before that nothing that carries data was sent in the
course of its command: that is what it means for a transfer to be tidy, and every turn of a call
keeps all operations so. Which way the data goes is said by a flag and again by the kind of the
local end, and the two agree because the command is valid.
-/

namespace Courier

open RemotePath (Naming)

/-! ## Local ends and what is said of them -/

namespace Local.Channel

/-- What may have become of an open local end by data going through it. -/
def Becomes : Channel → Channel → Prop
  | upload _, upload _ => True
  | download writer fsync, download later fsync' =>
    later.buffer? = writer.buffer? ∧ fsync' = fsync
  | _, _ => False

/-- The channel is an opened local end of the request. -/
def Opened (request : TransferRequest) : Channel → Prop
  | upload _ => ∃ source, request.localEnd = .upload source
  | download writer fsync => fsync = request.flags.contains .fsync ∧
    ∃ sink, request.localEnd = .download sink ∧ writer.buffer? = sink.buffer?

/-- The channel takes data the way the line says, and does what the request asks for at the end of
a download. -/
def GoesWith (request : TransferRequest) (line : WireLine) : Channel → Prop
  | upload _ => ∃ object, line = .put object
  | download _ fsync => (∃ object, line = .get object) ∧ fsync = request.flags.contains .fsync

variable {request : TransferRequest} {channel later : Channel}

/-- All data at once is a way of data to go through. -/
theorem becomes_pump (channel : Channel) (store : Store) (payload : Bytes) :
    channel.Becomes (channel.pump store payload).2.1 := by
  cases channel with
  | upload reader => trivial
  | download writer fsync => cases writer <;> exact ⟨rfl, rfl⟩

theorem Opened.becomes (opened : channel.Opened request) (becomes : channel.Becomes later) :
    later.Opened request := by
  cases channel with
  | upload reader =>
      cases later with
      | upload reader => exact opened
      | download writer fsync => exact becomes.elim
  | download writer fsync =>
      cases later with
      | upload reader => exact becomes.elim
      | download after fsync' =>
          obtain ⟨rfl, sink, is, held⟩ := opened
          exact ⟨becomes.2, sink, is, becomes.1.trans held⟩

end Local.Channel

/-- The line data goes along with. -/
def WireLine.carries : WireLine → Bool
  | get _ | put _ => true
  | _ => false

/-- A line was sent that data goes along with. -/
def Happening.isCarrying : Happening → Bool
  | .sent line _ _ => line.carries
  | _ => false

/-- How many commands were accepted. -/
def commandsIn (past : List Happening) : Nat := past.countP fun happening =>
  happening.command?.isSome

/-- Since the last command was accepted, no line was sent that data goes along with. -/
def Unsent (past : List Happening) : Prop :=
  ∀ happening ∈ past.takeWhile fun happening => happening.command?.isNone,
    happening.isCarrying = false

/-- The line of a transfer. -/
def TransferRequest.line (request : TransferRequest) (naming : Naming) : WireLine :=
  if request.isDownload then .get ⟨request.path, naming, request.file⟩
  else .put ⟨request.path, naming, request.file⟩

/-- The shared buffer a command holds by its sink. -/
def Command.buffer? : Command → Option Local.BufferId
  | .transfer request =>
    match request.localEnd with
    | .upload _ => none
    | .download sink => sink.buffer?
  | _ => none

section Said

variable {past made : List Happening} {happening : Happening} {command : Command}

theorem unsent_started : Unsent (.started command :: past) := by
  intro happening mem
  cases mem

theorem Unsent.cons (unsent : Unsent past) (silent : happening.isCarrying = false) :
    Unsent (happening :: past) := by
  unfold Unsent
  rw [List.takeWhile_cons]
  split
  · exact List.forall_mem_cons.2 ⟨silent, unsent⟩
  · exact List.forall_mem_nil _

theorem Unsent.append (unsent : Unsent past)
    (silent : ∀ happening ∈ made, happening.isCarrying = false) : Unsent (made ++ past) := by
  induction made with
  | nil => exact unsent
  | cons happening rest ih =>
      obtain ⟨first, others⟩ := List.forall_mem_cons.1 silent
      exact (ih others).cons first

theorem commandsIn_append_le (made past : List Happening) :
    commandsIn past ≤ commandsIn (made ++ past) := by
  unfold commandsIn
  rw [List.countP_append]
  exact Nat.le_add_left _ _

theorem commandsIn_append (silent : ∀ happening ∈ made, happening.command? = none) :
    commandsIn (made ++ past) = commandsIn past := by
  unfold commandsIn
  rw [List.countP_append, List.countP_eq_zero.2, Nat.zero_add]
  intro happening mem
  simp [silent happening mem]

theorem Happening.isCarrying_of_isWait (wait : happening.isWait = true) :
    happening.isCarrying = false := by
  cases happening <;> first | rfl | cases wait

theorem Happening.command?_of_isWork (work : happening.isWork = true) :
    happening.command? = none := by
  cases happening <;> first | rfl | cases work

theorem Happening.command?_of_makes {operation : Operation}
    (makes : operation.makes happening = true) : happening.command? = none := by
  cases happening <;> first | rfl | cases makes

/-- What is opened of a sink in memory holds the buffer of the sink. -/
theorem Local.Channel.Opened.buffer? {request : TransferRequest} {channel : Local.Channel}
    (opened : channel.Opened request) :
    channel.buffer? = (Command.transfer request).buffer? := by
  cases channel with
  | upload reader =>
      obtain ⟨source, is⟩ := opened
      simp only [Local.Channel.buffer?, Command.buffer?, is]
  | download writer fsync =>
      obtain ⟨-, sink, is, held⟩ := opened
      simp only [Local.Channel.buffer?, Command.buffer?, is, held]

/-- A valid transfer goes the way its local end can be used. -/
theorem Local.Channel.Opened.goesWith {request : TransferRequest} {channel : Local.Channel}
    (opened : channel.Opened request) (valid : request.valid = true) (naming : Naming) :
    channel.GoesWith request (request.line naming) := by
  have fits : request.localEnd.fits request.isDownload = true := by
    unfold TransferRequest.valid at valid
    simp only [Bool.and_eq_true] at valid
    exact valid.2
  unfold TransferRequest.line
  cases channel with
  | upload reader =>
      obtain ⟨source, is⟩ := opened
      rw [is] at fits
      have up : request.isDownload = false := by simpa [TransferEnd.fits] using fits
      rw [up]
      exact ⟨_, rfl⟩
  | download writer fsync =>
      obtain ⟨asked, sink, is, -⟩ := opened
      rw [is] at fits
      have down : request.isDownload = true := by simpa [TransferEnd.fits] using fits
      rw [down]
      exact ⟨⟨_, rfl⟩, asked⟩

end Said

/-! ## The steps of a transfer -/

namespace Operation

/-- A transfer whose line is out. -/
def isCarrying : Operation → Bool
  | transfer task => task.progress.isWaiting
  | _ => false

end Operation

namespace TransferTask

variable {τ : Type} [Transport τ] {good : Transport.States τ} {task : TransferTask}
  {start desk : Desk τ Operation} {event : Event Operation} {step : Step τ Operation Operation}

/-- The steps of a transfer that is told what it expects. Its local end is opened in one of them
alone, the step in which the line is sent if there is anything to send. -/
inductive Takes (good : Transport.States τ) (task : TransferTask) (start : Desk τ Operation) :
    Event Operation → Step τ Operation Operation → Prop
  | enters {desk : Desk τ Operation} (at_ : task.progress = .start) (quiet : start.Quiet desk) :
      Takes good task start .send
        ⟨.again, .transfer { task with progress := .entering }, desk.enter task.request.path⟩
  | entered {entered : Reply} {finished : Operation} {desk : Desk τ Operation}
      (at_ : task.progress = .entering) (quiet : start.Quiet desk) :
      Takes good task start (.returned entered finished)
        ⟨.again, .transfer { task with progress := .ready (.after entered) }, desk⟩
  | refused {naming : Naming} {reply : Reply} {desk : Desk τ Operation}
      (at_ : task.progress = .ready naming) (quiet : start.Quiet desk)
      (refused : task.openChannel start = .error (reply, desk)) (failed : reply.isError = true) :
      Takes good task start .send ⟨reply, .transfer task, desk⟩
  | opens {naming : Naming} {channel : Local.Channel} {opened desk : Desk τ Operation}
      (at_ : task.progress = .ready naming)
      (opening : task.openChannel start = .ok (channel, opened))
      (works : start.Works good (.transfer task) desk) :
      Takes good task start .send (desk.send (task.request.line naming)
        (.transfer { task with progress := .waiting naming, channel := some channel }))
  | ends {naming : Naming} {desk : Desk τ Operation} (at_ : task.progress = .waiting naming)
      (quiet : start.Quiet desk) :
      Takes good task start .completed ⟨start.result, .transfer { task with channel := none }, desk⟩

omit [Transport τ] in
theorem openChannel_opened {channel : Local.Channel}
    (opened : task.openChannel start = .ok (channel, desk)) : channel.Opened task.request := by
  unfold openChannel at opened
  split at opened
  · rename_i source is
    split at opened
    · cases opened
      exact ⟨source, is⟩
    · cases opened
  · rename_i sink is
    split at opened
    · rename_i writer store wrote
      cases opened
      refine ⟨rfl, sink, is, ?_⟩
      -- what is opened of a sink in memory is its own buffer
      cases sink with
      | memory name buffer =>
          cases wrote
          rfl
      | file path =>
          unfold Local.Sink.openWriter at wrote
          simp only at wrote
          split at wrote
          · cases wrote
            rfl
          · cases wrote
    · cases opened

theorem step_takes {starts ends : Reply → Prop} (answers : Transport.Answers good starts ends)
    (env : Env) (transport : good start.transport) (pending : start.pending = none)
    (expected : (Operation.transfer task).expects event = true) :
    task.Takes good start event (Operation.step env event (.transfer task) start) := by
  obtain ⟨request, progress, channel⟩ := task
  cases event with
  | send =>
      cases progress with
      | start =>
          refine .enters rfl (.note ?_ _ _)
          split
          · exact .note (.refl start) _ _
          · exact .refl start
      | ready naming =>
          cases opening : openChannel ⟨request, .ready naming, channel⟩ start with
          | error refusal =>
              obtain ⟨reply, desk⟩ := refusal
              obtain ⟨critical, text, rfl⟩ := openChannel_error opening
              have failed : reply.isError = true := by rcases critical with rfl | rfl <;> decide
              have quiet : start.Quiet (start.note .warn text) := .note (.refl start) _ _
              simp only [Operation.step, Operation.send, send, opening]
              exact .refused rfl quiet opening failed
          | ok opened =>
              obtain ⟨channel', desk⟩ := opened
              obtain ⟨store, rfl⟩ := openChannel_ok opening
              have works : start.Works good (.transfer ⟨request, .ready naming, channel⟩) start :=
                .refl _ transport pending
              have told := (mark_works (works.withStore store) .unknown).announce answers
              simp only [Operation.step, Operation.send, send, opening]
              exact .opens rfl opening (told _)
      | entering => cases expected
      | waiting naming => cases expected
  | completed =>
      cases progress with
      | waiting naming =>
          refine .ends rfl ?_
          simp only [completed]
          split
          · exact .note (.refl start) _ _
          · exact .refl start
      | _ => cases expected
  | returned reply finished =>
      cases progress with
      | entering => exact .entered rfl (.noteEntered (.refl start) _ _)
      | _ => cases expected

namespace Takes

/-- Where a transfer goes on, it asks for the change of directory or has just been told of its
end. -/
theorem of_again (takes : task.Takes good start event step) (conforms : Transport.Conforms good)
    (transport : good start.transport) (reported : good.Allows event start.transport)
    (again : step.reply = .again) :
    (task.progress = .start ∧ step.desk.pending.isSome = true) ∨
    ∃ entered finished, event = .returned entered finished ∧ task.progress = .entering ∧
      step.operation = .transfer { task with progress := .ready (.after entered) } := by
  cases takes with
  | @enters desk at_ quiet =>
      have asks : (desk.enter task.request.path).pending = some _ := desk.request_pending _
      exact .inl ⟨at_, congrArg Option.isSome asks⟩
  | entered at_ quiet => exact .inr ⟨_, _, rfl, at_, rfl⟩
  | refused at_ quiet refused failed => exact absurd again (Reply.ne_again_of_isError failed)
  | opens at_ opening works =>
      exact absurd again (Reply.ne_again_of_start (conforms.send _ _ works.transport).1)
  | ends at_ quiet => exact absurd again (conforms.result _ transport (reported rfl)).2

/-- A transfer waits when it has just opened its local end, and then its line is out. -/
theorem of_wait (takes : task.Takes good start event step) (conforms : Transport.Conforms good)
    (transport : good start.transport) (reported : good.Allows event start.transport)
    (wait : step.reply = .wouldBlock) :
    event = .send ∧ task.progress.isReady = true ∧ step.operation.isCarrying = true := by
  cases takes with
  | enters at_ quiet => exact absurd wait Reply.again_ne_wouldBlock
  | entered at_ quiet => exact absurd wait Reply.again_ne_wouldBlock
  | refused at_ quiet refused failed => exact absurd wait (Reply.ne_wouldBlock_of_isError failed)
  | opens at_ opening works => exact ⟨rfl, by rw [at_]; rfl, rfl⟩
  | ends at_ quiet => exact absurd wait (conforms.result _ transport (reported rfl)).1

end Takes

end TransferTask

/-! ## Tidy operations -/

/-- The local end is open exactly while the line is out, and before that no line was sent that data
goes along with. -/
def TransferTask.IsTidy (past : List Happening) (task : TransferTask) : Prop :=
  match task.progress with
  | .waiting _ => ∃ channel, task.channel = some channel ∧ channel.Opened task.request
  | _ => task.channel = none ∧ Unsent past

/-- Only a transfer has a local end to look after. -/
def Operation.IsTidy (past : List Happening) : Operation → Prop
  | transfer task => task.IsTidy past
  | _ => True

/-- A transfer that is still there after a step is tidy if it was. -/
theorem TransferTask.Takes.isTidy {τ : Type} [Transport τ] {good : Transport.States τ}
    {task : TransferTask} {start : Desk τ Operation} {event : Event Operation}
    {step : Step τ Operation Operation}
    (takes : task.Takes good start event step) (conforms : Transport.Conforms good)
    (transport : good start.transport) (reported : good.Allows event start.transport)
    (tidy : task.IsTidy start.past)
    (stays : step.reply = .again ∨ step.reply = .wouldBlock) :
    step.operation.IsTidy step.desk.past := by
  obtain ⟨request, progress, channel⟩ := task
  cases takes with
  | @enters desk at_ quiet =>
      obtain rfl : progress = .start := at_
      obtain ⟨closed, unsent⟩ := tidy
      have past : (desk.enter request.path).past = start.past :=
        (desk.request_past _).trans quiet.past
      exact ⟨closed, past ▸ unsent⟩
  | @entered _ _ desk at_ quiet =>
      obtain rfl : progress = .entering := at_
      obtain ⟨closed, unsent⟩ := tidy
      exact ⟨closed, quiet.past ▸ unsent⟩
  | refused at_ quiet refused failed =>
      rcases stays with again | wait
      · exact absurd again (Reply.ne_again_of_isError failed)
      · exact absurd wait (Reply.ne_wouldBlock_of_isError failed)
  | opens at_ opening works => exact ⟨_, rfl, openChannel_opened opening⟩
  | ends at_ quiet =>
      obtain ⟨ends, stops⟩ := conforms.result _ transport (reported rfl)
      rcases stays with again | wait
      · exact absurd again stops
      · exact absurd wait ends

namespace Operation

variable {past made : List Happening} {operation : Operation}

theorem IsTidy.append (tidy : operation.IsTidy past)
    (silent : ∀ happening ∈ made, happening.isCarrying = false) :
    operation.IsTidy (made ++ past) := by
  cases operation with
  | transfer task =>
      obtain ⟨request, progress, channel⟩ := task
      cases progress with
      | waiting naming => exact tidy
      | _ => exact ⟨tidy.1, tidy.2.append silent⟩
  | _ => trivial

theorem isTidy_of_kind (other : operation.kind ≠ .transfer) : operation.IsTidy past := by
  cases operation with
  | transfer task => exact absurd rfl other
  | _ => trivial

/-- A transfer begins at the start, with its local end closed. -/
theorem start_of_ofCommand? {command : Command} {protocol : Protocol} {task : TransferTask}
    (offered : ofCommand? command protocol = some (.transfer task)) :
    task.progress = .start ∧ task.channel = none := by
  unfold ofCommand? at offered
  split at offered <;> first | (cases offered; exact ⟨rfl, rfl⟩) | cases offered

theorem isTidy_of_ofCommand? {command : Command} {protocol : Protocol}
    (offered : ofCommand? command protocol = some operation) (unsent : Unsent past) :
    operation.IsTidy past := by
  cases operation with
  | transfer task =>
      obtain ⟨at_, closed⟩ := start_of_ofCommand? offered
      obtain ⟨request, progress, channel⟩ := task
      obtain rfl : progress = .start := at_
      exact ⟨closed, unsent⟩
  | _ => trivial

variable {τ : Type} [Transport τ]

/-- A subcommand sends no line that data goes along with. -/
theorem step_of_subcommand (env : Env) (event : Event Operation)
    (sub : operation.isSubcommand = true) (desk : Desk τ Operation) :
    ∃ made, (∀ happening ∈ made, happening.isCarrying = false) ∧
      (step env event operation desk).desk.past = made ++ desk.past := by
  have nothing : ∃ made, (∀ happening ∈ made, happening.isCarrying = false) ∧
      desk.past = made ++ desk.past := ⟨[], List.forall_mem_nil _, rfl⟩
  cases operation with
  | sleep task =>
      cases event with
      | send =>
          simp only [step, send, SleepTask.send]
          split
          · exact nothing
          · exact ⟨[_], List.forall_mem_singleton.2 rfl, rfl⟩
      | completed =>
          simp only [step, completed, SleepTask.completed]
          split <;> exact nothing
      | returned reply finished => exact nothing
  | changeDir task =>
      cases event with
      | send =>
          simp only [step, send, ChangeDirTask.send]
          split
          · exact nothing
          · split
            · exact nothing
            · split
              · exact nothing
              · exact ⟨[_], List.forall_mem_singleton.2 rfl, rfl⟩
      | completed =>
          simp only [step, completed, ChangeDirTask.completed]
          split
          · split <;> exact nothing
          · exact nothing
      | returned reply finished => exact nothing
  | _ => cases sub

end Operation

/-! ## Along the turns of a call -/

variable {τ : Type} [Transport τ] {good : Transport.States τ} {origin : DirectoryCache}

omit [Transport τ] in
/-- What a step puts on record is no start of a command. -/
theorem Step.Does.commandsIn {operation : Operation} {start : Desk τ Operation}
    {step : Step τ Operation Operation} (does : step.Does good operation start) :
    commandsIn step.desk.past = commandsIn start.past := by
  have works {desk : Desk τ Operation} (works : start.Works good operation desk) :
      Courier.commandsIn desk.past = Courier.commandsIn start.past := by
    obtain ⟨made, all, past⟩ := works.past
    rw [past]
    exact commandsIn_append fun happening mem => Happening.command?_of_isWork (all happening mem)
  cases does with
  | rests did => exact works did
  | asks did again waits acts asked =>
      rw [asked, Desk.request_past]
      exact works did
  | @requests before request did own waits past pending transport session =>
      have silent : ∀ happening ∈ [request], happening.command? = none :=
        List.forall_mem_singleton.2 (Happening.command?_of_makes own)
      have same : Courier.commandsIn ([request] ++ before.past) =
          Courier.commandsIn before.past := commandsIn_append silent
      rw [past]
      exact same.trans (works did)

/-- The operations left after a step are tidy. -/
structure Step.Tidy (below : List Operation) (step : Step τ Operation Operation) : Prop where
  own : step.reply = .again ∨ step.reply = .wouldBlock → step.operation.IsTidy step.desk.past
  others : ∀ operation ∈ below, operation.IsTidy step.desk.past

namespace Turn

variable {turn after : Turn τ Operation} {env : Env} {task : TransferTask}

/-- The operations are tidy, and the topmost one is told of nothing but what it waited for. -/
structure Tidy (turn : Turn τ Operation) : Prop where
  tidy : ∀ operation ∈ turn.top :: turn.below, operation.IsTidy turn.desk.past
  awaited : ∀ reply finished, turn.event = .returned reply finished → turn.top.WaitsFor finished

/-- In this turn the local end of the transfer is opened. -/
structure Opens (turn : Turn τ Operation) (task : TransferTask) : Prop where
  event : turn.event = .send
  top : turn.top = .transfer task
  ready : task.progress.isReady = true

omit [Transport τ] in
/-- A transfer that opens its local end has not sent its line. -/
theorem Opens.not_carrying (opens : turn.Opens task) : turn.top.isCarrying = false := by
  have ready := opens.ready
  rw [opens.top]
  obtain ⟨request, progress, channel⟩ := task
  cases progress with
  | ready naming => rfl
  | _ => cases ready

theorem Fits.takes (fits : turn.Fits good) (conforms : Transport.Conforms good) (env : Env)
    (top : turn.top = .transfer task) :
    task.Takes good { turn.desk with pending := none } turn.event (turn.step env) := by
  unfold Turn.step
  rw [top]
  exact TransferTask.step_takes conforms env fits.transport rfl (top ▸ fits.expected)

/-- Only who goes on is followed by another turn, if no other operation waits for it. -/
theorem Fits.again_of_next (fits : turn.Fits good) (command : turn.top.isSubcommand = false)
    (goes : turn.next env = .inr after) : (turn.step env).reply = .again := by
  rcases Step.next_eq_inr goes with ⟨again, -⟩ | ⟨-, -, -, parent, rest, eq, -⟩
  · exact again
  · rw [fits.below.of_command command] at eq
    cases eq

/-- Before another turn, a transfer enters its directory. -/
theorem Fits.of_next (fits : turn.Fits good) (conforms : Transport.Conforms good)
    (top : turn.top = .transfer task) (goes : turn.next env = .inr after) :
    task.progress = .start ∨ task.progress = .entering := by
  have again := fits.again_of_next (by rw [top]; rfl) goes
  have takes := fits.takes conforms env top
  exact (takes.of_again conforms fits.transport fits.reported again).imp And.left
    fun ⟨_, _, _, at_, _⟩ => at_

/-- When the local end has been opened, and when the line is out, the call ends. -/
theorem Fits.not_opened (fits : turn.Fits good) (conforms : Transport.Conforms good)
    (goes : turn.next env = .inr after) :
    turn.top.isCarrying = false ∧ ∀ task, ¬ turn.Opens task := by
  constructor
  · cases top : turn.top with
    | transfer task =>
        rcases fits.of_next conforms top goes with at_ | at_ <;>
          simp [Operation.isCarrying, at_, Progress.isWaiting]
    | _ => rfl
  · intro task opens
    have ready := opens.ready
    rcases fits.of_next conforms opens.top goes with at_ | at_ <;>
      simp [at_, Progress.isReady] at ready

/-- The local end is opened in the turn after the one in which the transfer was told how the change
into its directory ended. -/
theorem Tidy.asked (tidy : turn.Tidy) (fits : turn.Fits good) (conforms : Transport.Conforms good)
    (goes : turn.next env = .inr after) (opens : after.Opens task) :
    turn.top = .transfer { task with progress := .entering } ∧
      ∃ reply change, turn.event = .returned reply (.changeDir change) ∧
        change.path = task.request.path := by
  have sound := fits.sound conforms.neverGoesOn env
  have kind : (turn.step env).operation.kind = turn.top.kind := Operation.step_kind _ _ _ _
  rcases Step.next_eq_inr goes with ⟨again, left, -, rfl⟩ | ⟨-, -, -, parent, rest, -, rfl⟩
  · cases pending : (turn.step env).desk.pending with
    | some child =>
        -- a subcommand is no transfer
        have waits := (sound.goesOn again).2
        simp only [pending] at waits
        have top := opens.top
        rw [Step.onward_of_asks pending] at top
        obtain rfl : child = .transfer task := top
        exact waits.1.elim
    | none =>
        have top := opens.top
        rw [Step.onward_of_silent pending] at top
        have stepped : (turn.step env).operation = .transfer task := top
        rw [stepped] at kind
        cases was : turn.top with
        | transfer former =>
            have takes := fits.takes conforms env was
            rcases takes.of_again conforms fits.transport fits.reported again with ⟨-, asks⟩ |
              ⟨entered, finished, told, at_, next⟩
            · rw [pending] at asks
              cases asks
            · obtain rfl := Operation.transfer.inj (stepped.symm.trans next)
              obtain ⟨request, progress, channel⟩ := former
              obtain rfl : progress = .entering := at_
              refine ⟨rfl, entered, ?_⟩
              have waited := tidy.awaited _ _ told
              rw [was] at waited
              cases finished with
              | sleep task => cases waited
              | changeDir change =>
                  exact ⟨change, told, (Option.some.inj waited).symm⟩
              | _ => exact waited.elim
        | _ =>
            rw [was] at kind
            cases kind
  · cases opens.event

/-- What the step of a turn leaves is tidy. -/
theorem Tidy.step (tidy : turn.Tidy) (fits : turn.Fits good) (conforms : Transport.Conforms good)
    (env : Env) : (turn.step env).Tidy turn.below := by
  obtain ⟨own, others⟩ := List.forall_mem_cons.1 tidy.tidy
  refine ⟨?_, ?_⟩
  · intro stays
    have kind : (turn.step env).operation.kind = turn.top.kind := Operation.step_kind _ _ _ _
    cases top : turn.top with
    | transfer task =>
        rw [top] at own
        exact (fits.takes conforms env top).isTidy conforms fits.transport fits.reported own
          stays
    | _ =>
        refine Operation.isTidy_of_kind ?_
        rw [kind, top]
        nofun
  · cases sub : turn.top.isSubcommand with
    | true =>
        obtain ⟨made, silent, past⟩ := Operation.step_of_subcommand env turn.event sub
          { turn.desk with pending := none }
        intro operation mem
        rw [show (turn.step env).desk.past = made ++ turn.desk.past from past]
        exact (others operation mem).append silent
    | false =>
        rw [fits.below.of_command sub]
        exact List.forall_mem_nil _

theorem Tidy.next (tidy : turn.Tidy) (fits : turn.Fits good) (conforms : Transport.Conforms good)
    (goes : turn.next env = .inr after) : after.Tidy := by
  have stepped := tidy.step fits conforms env
  have sound := fits.sound conforms.neverGoesOn env
  rcases Step.next_eq_inr goes with ⟨again, left, -, rfl⟩ | ⟨-, -, -, parent, rest, eq, rfl⟩
  · have own := stepped.own (.inl again)
    have waits := (sound.goesOn again).2
    cases pending : (turn.step env).desk.pending with
    | some child =>
        simp only [pending] at waits
        rw [Step.onward_of_asks pending]
        refine ⟨?_, by rintro _ _ ⟨⟩⟩
        have plain : child.kind ≠ .transfer := by
          cases child <;> first | exact waits.1.elim | nofun
        exact List.forall_mem_cons.2 ⟨Operation.isTidy_of_kind plain,
          List.forall_mem_cons.2 ⟨own, stepped.others⟩⟩
    | none =>
        rw [Step.onward_of_silent pending]
        exact ⟨List.forall_mem_cons.2 ⟨own, stepped.others⟩, by rintro _ _ ⟨⟩⟩
  · obtain ⟨waits, rfl⟩ := (eq ▸ fits.below.succeeds sound.succeeds).asked
    have others := stepped.others
    rw [eq] at others
    refine ⟨others, ?_⟩
    rintro _ _ ⟨⟩
    exact waits

/-- How a call ends: nothing is left on the stack, or an operation that waits for what it just
asked. -/
theorem Fits.ends (fits : turn.Fits good) (conforms : Transport.Conforms good)
    {outcome : Outcome τ Operation} (ends : turn.next env = .inl outcome) :
    (outcome.stack = [] ∧ ∃ made, outcome.desk.past = made ++ (turn.step env).desk.past) ∨
    ((turn.step env).reply = .wouldBlock ∧ outcome.desk.past = (turn.step env).desk.past ∧
      outcome.stack = (turn.step env).operation :: turn.below) := by
  have sound := fits.sound conforms.neverGoesOn env
  rcases Step.next_eq_inl ends with ⟨-, -, rfl⟩ | ⟨stops, child, asked, -⟩ | ⟨wait, -, rfl⟩ |
    ⟨-, -, -, -, rfl⟩
  · have given (desk : Desk τ Operation) : ∃ made,
        (abandon env ((turn.step env).operation :: turn.below) desk).past =
          made ++ desk.past := by
      obtain ⟨doubts, -, past⟩ := Engine.abandon_past env
        ((turn.step env).operation :: turn.below) desk
      exact ⟨doubts, past⟩
    exact .inl ⟨rfl, given _⟩
  · exact (sound.asks_nothing stops asked).elim
  · exact .inr ⟨wait, rfl, rfl⟩
  · obtain ⟨text, finished⟩ := finish_eq (HasKind.kind (turn.step env).operation)
      (turn.step env).reply (turn.step env).noted
    rw [finished]
    exact .inl ⟨rfl, [], rfl⟩

end Turn

end Courier
