import Courier.Proofs.OperationDirectories

/-!
# The session tells the working directory

Over a transport that keeps to its contract, what the session says of the remote working directory
is so, in every state of every run, and whatever relies on it does so rightly. A turn hands on to
the next what is known of the server, of the link and of what is out.
-/

namespace Courier

/-! ## Steps and the link -/

/-- Where the session says that there is a connection there is one. -/
def Idle (past : List Happening) (session : Session) : Prop :=
  session.connected = true → Linked past session

variable {τ : Type} [Transport τ] {good : Transport.States τ} {start desk : Desk τ Operation}
  {operation : Operation} {below : List Operation} {past : List Happening} {session : Session}
  {reply : Reply} {kind : CommandKind}

/-- The step says truly how it leaves what the session says, and everything on the stack. -/
structure Step.Oriented (below : List Operation) (step : Step τ Operation Operation) : Prop where
  desk : step.desk.Oriented
  specified : step.reply = .again ∨ step.reply = .wouldBlock → step.operation.IsSpecified
  ready : step.reply = .again → step.desk.pending = none →
    step.operation.Placed step.desk.session
  out : step.reply = .wouldBlock → step.operation.Out step.desk.past step.desk.session
  entered : step.reply = .ok → ∀ task, step.operation = .changeDir task →
    step.desk.session.directory = some task.path
  tied : step.reply = .again ∨ step.reply = .wouldBlock →
    step.operation.Tied step.desk.past step.desk.session
  others : ∀ operation ∈ below, operation.Tied step.desk.past step.desk.session
  ended : step.reply ≠ .again → step.reply ≠ .wouldBlock → below = [] →
    Idle step.desk.past (step.desk.session.afterEnd step.operation.kind step.reply)

omit [Transport τ] in
theorem Linked.steady (linked : Linked start.past start.session) (steady : start.Steady desk) :
    Linked desk.past desk.session := by
  obtain ⟨server, ours, connected, up⟩ := linked
  exact ⟨server, steady.server.trans ours, steady.connected.trans connected, steady.link.trans up⟩

theorem Linked.completed (linked : Linked past session) (result : Reply) :
    Linked (.completed result :: past) session := by
  obtain ⟨server, ours, connected, up⟩ := linked
  refine ⟨server, ours, connected, ?_⟩
  rw [Link.ofPast_cons, up]
  rfl

theorem Linked.aside (linked : Linked past session) {happening : Happening}
    (aside : happening.isAside = true) : Linked (happening :: past) session := by
  obtain ⟨server, ours, connected, up⟩ := linked
  refine ⟨server, ours, connected, ?_⟩
  rw [Link.ofPast_cons, Link.after_aside aside, up]

namespace Operation

/-- A step leaves an operation of the same kind. -/
theorem step_kind (env : Env) (event : Event Operation) (operation : Operation)
    (desk : Desk τ Operation) :
    (step env event operation desk).operation.kind = operation.kind := by
  cases event <;> cases operation <;> rfl

theorem isConnection_iff : operation.isConnection = true ↔
    operation.kind = .connect ∨ operation.kind = .disconnect := by
  cases operation <;> simp [isConnection, kind]

theorem isConnection_of_entering {path : RemotePath} (h : operation.entering? = some path) :
    operation.isConnection = false := by
  cases operation <;> first | rfl | cases h

theorem isConnection_of_retrying (h : operation.isRetrying = true) :
    operation.isConnection = true := by
  obtain ⟨task, rfl, -⟩ := isRetrying_eq_true h
  rfl

theorem Tied.linked (tied : operation.Tied past session) (plain : operation.isConnection = false)
    (awake : operation.kind ≠ .sleep) : Linked past session := by
  cases operation <;> first | exact tied | exact absurd rfl awake | cases plain

theorem IsSpecified.withChannel (specified : operation.IsSpecified) (channel : Local.Channel) :
    (operation.withChannel channel).IsSpecified := by
  cases operation <;> exact specified

theorem Tied.withChannel (tied : operation.Tied past session) (channel : Local.Channel) :
    (operation.withChannel channel).Tied past session := by
  cases operation <;> exact tied

theorem Out.withChannel (out : operation.Out past session) (channel : Local.Channel) :
    (operation.withChannel channel).Out past session := by
  cases operation <;> exact out

theorem not_waitsFor_disconnect (task : DisconnectTask) (child : Operation) :
    ¬ (disconnect task).WaitsFor child := by
  intro waits
  cases child <;> cases waits

/-- An operation that makes no connection, and is not about to close it, is on a link. -/
theorem Tied.linked_of_command (tied : operation.Tied past session)
    (command : operation.isSubcommand = false) (other : operation.kind ≠ .connect)
    (closes : ∀ task, operation = .disconnect task → task.waiting = false) :
    Linked past session := by
  cases operation with
  | connect task => exact absurd rfl other
  | disconnect task => simpa [Tied, closes task rfl] using tied
  | sleep task => cases command
  | _ => exact tied

theorem Tied.linked_of_idle {task : DisconnectTask} (tied : (disconnect task).Tied past session)
    (idle : task.waiting = false) : Linked past session := by
  simpa [Tied, idle] using tied

theorem tied_of_closing {task : DisconnectTask} {server : Server} (waiting : task.waiting = true)
    (ours : session.server = some server) (closing : Link.ofPast past = .closing server) :
    (disconnect task).Tied past session := by
  simpa [Tied, waiting] using ⟨server, ours, closing⟩

theorem tied_of_linked (linked : Linked past session) (plain : operation.isConnection = false) :
    operation.Tied past session := by
  cases operation <;> first | exact linked | trivial

omit [Transport τ] in
theorem Tied.steady (tied : operation.Tied start.past start.session) (steady : start.Steady desk) :
    operation.Tied desk.past desk.session := by
  cases operation with
  | connect task =>
      obtain ⟨same, down, dialing⟩ := tied
      refine ⟨same, steady.connected.trans down, fun stage => ?_⟩
      obtain ⟨ours, link⟩ := dialing stage
      exact ⟨steady.server.trans ours, steady.link.trans link⟩
  | disconnect task =>
      simp only [Tied] at tied ⊢
      split
      · rename_i waiting
        rw [if_pos waiting] at tied
        obtain ⟨server, ours, closing⟩ := tied
        exact ⟨server, steady.server.trans ours, steady.link.trans closing⟩
      · rename_i idle
        rw [if_neg idle] at tied
        exact tied.steady steady
  | sleep task => trivial
  | _ => exact Linked.steady tied steady

/-- A subcommand needs no more than who asked for it. -/
theorem WaitsFor.child_isSpecified {parent child : Operation} (h : parent.WaitsFor child) :
    child.IsSpecified := by
  cases child <;> trivial

theorem WaitsFor.child_placed {parent child : Operation} (h : parent.WaitsFor child) :
    child.Placed session := by
  cases child <;> first | exact h.elim | trivial

theorem WaitsFor.child_tied {parent child : Operation} (h : parent.WaitsFor child)
    (tied : parent.Tied past session) : child.Tied past session := by
  cases child with
  | sleep task => trivial
  | changeDir task =>
      refine tied.linked (isConnection_of_entering h) ?_
      intro asleep
      cases parent with
      | sleep task => cases h
      | _ => cases asleep
  | _ => exact h.elim

/-- A report changes nothing for an operation that does not wait for it to hear of the link. -/
theorem Tied.completed (tied : operation.Tied past session)
    (h : operation.isConnection = true → operation.isRetrying = true) (result : Reply) :
    operation.Tied (.completed result :: past) session := by
  cases operation with
  | connect task =>
      obtain ⟨same, down, -⟩ := tied
      have retries : task.stage = .retryWait := by simpa [isRetrying] using h rfl
      exact ⟨same, down, fun stage => absurd (stage.symm.trans retries) (by decide)⟩
  | disconnect task => exact absurd (h rfl) (by simp [isRetrying])
  | sleep task => trivial
  | _ => exact Linked.completed tied result

end Operation

theorem Session.afterEnd_of_plain (h : ¬((kind = .connect ∧ reply ≠ .ok) ∨ kind = .disconnect)) :
    session.afterEnd kind reply = session := if_neg h

theorem idle_afterEnd_of_failed (failed : reply ≠ .ok) :
    Idle past (session.afterEnd .connect reply) := by
  rw [Session.afterEnd, if_pos (.inl ⟨rfl, failed⟩)]
  rintro ⟨⟩

omit [Transport τ] in
/-- A step that leaves the connection alone keeps everything on the stack tied to it. -/
theorem Step.Steady.oriented {step : Step τ Operation Operation} (steady : step.Steady start)
    (same : step.operation.kind = operation.kind) (plain : operation.isConnection = false)
    (tied : ∀ op ∈ operation :: below, op.Tied start.past start.session)
    (command : below = [] → operation.isSubcommand = false) : step.Oriented below := by
  have top := tied operation List.mem_cons_self
  have plainAfter : step.operation.isConnection = false := by
    rw [Bool.eq_false_iff, Ne, Operation.isConnection_iff, same, ← Operation.isConnection_iff]
    simpa using plain
  refine ⟨steady.desk.toOriented, steady.specified, steady.ready, steady.out, steady.entered,
    ?_, ?_, ?_⟩
  · intro _
    by_cases asleep : operation.kind = .sleep
    · cases after : step.operation with
      | sleep task => trivial
      | _ => rw [← same, after] at asleep; cases asleep
    · exact Operation.tied_of_linked ((top.linked plain asleep).steady steady.desk) plainAfter
  · intro op mem
    exact (tied op (List.mem_cons_of_mem _ mem)).steady steady.desk
  · -- the last operation is no subcommand, so it needed the connection, which is still there
    intro _ _ empty
    have awake : operation.kind ≠ .sleep := by
      intro asleep
      cases operation with
      | sleep task => exact absurd (command empty) (by simp [Operation.isSubcommand])
      | _ => cases asleep
    have linked := (top.linked plain awake).steady steady.desk
    rw [Session.afterEnd_of_plain]
    · exact fun _ => linked
    · rintro (⟨connect, -⟩ | disconnect)
      · exact absurd (Operation.isConnection_iff.2 (.inl connect)) (by simp [plainAfter])
      · exact absurd (Operation.isConnection_iff.2 (.inr disconnect)) (by simp [plainAfter])

/-! ## Connecting and disconnecting -/

namespace Desk.Oriented

variable {κ : Type} {f : κ → Operation} {task : κ}

omit [Transport τ]

/-- The step ends a command that made or closed the connection. -/
theorem ends (oriented : desk.Oriented) (again : reply ≠ .again) (wait : reply ≠ .wouldBlock)
    (plain : (f task).isChangeDir = false)
    (idle : Idle desk.past (desk.session.afterEnd (f task).kind reply)) :
    ((desk.answer reply task).map f).Oriented [] where
  desk := oriented
  specified := fun h => (h.elim again wait).elim
  ready := fun h => absurd h again
  out := fun h => absurd h wait
  entered := fun _ _ is => (Operation.ne_changeDir plain is).elim
  tied := fun h => (h.elim again wait).elim
  others := List.forall_mem_nil _
  ended := fun _ _ _ => idle

/-- The step goes on with a command that makes the connection. -/
theorem goesOn (oriented : desk.Oriented) (specified : (f task).IsSpecified)
    (placed : (f task).Placed desk.session) (tied : (f task).Tied desk.past desk.session) :
    ((desk.answer .again task).map f).Oriented [] where
  desk := oriented
  specified := fun _ => specified
  ready := fun _ _ => placed
  out := fun wait => absurd wait Reply.again_ne_wouldBlock
  entered := fun ok => absurd ok Reply.again_ne_ok
  tied := fun _ => tied
  others := List.forall_mem_nil _
  ended := fun stops => absurd rfl stops

theorem note (oriented : desk.Oriented) (level : LogLevel) (text : String) :
    (desk.note level text).Oriented := ⟨oriented.place, oriented.heed⟩

theorem request (oriented : desk.Oriented) (child : Operation) :
    (desk.request child).Oriented :=
  ⟨by simpa using oriented.place, by simpa using oriented.heed⟩

/-- Something happens that does not move a server of which the directory is known. -/
theorem record (oriented : desk.Oriented) {happening : Happening} (still : happening.isStill = true)
    (heeds : happening.Heeds desk.past) : (desk.record happening).Oriented :=
  ⟨fun path known => (oriented.place path known).still still, heeds, oriented.heed⟩

/-- Nothing is said of a session that is forgotten. -/
theorem forgetSession (oriented : desk.Oriented) : Desk.Oriented { desk with session := {} } :=
  ⟨by rintro _ ⟨⟩, oriented.heed⟩

theorem afterEnd (oriented : desk.Oriented) (kind : CommandKind) (reply : Reply) :
    Desk.Oriented { desk with session := desk.session.afterEnd kind reply } := by
  unfold Session.afterEnd
  split
  · exact oriented.forgetSession
  · exact oriented

end Desk.Oriented

namespace ConnectTask

variable {task : ConnectTask}

theorem send_oriented (oriented : desk.Oriented) (conforms : Transport.Conforms good)
    (transport : good desk.transport) (h : (Operation.connect task).acts = true)
    (tied : (Operation.connect task).Tied desk.past desk.session) :
    ((task.send desk).map .connect).Oriented [] := by
  have stage : task.stage = .connect := by simpa [Operation.acts] using h
  have answer := (conforms.connect _ task.request.server task.request.credentials transport).1
  simp only [send, stage]
  refine ⟨⟨by rintro _ ⟨⟩, ⟨trivial, oriented.heed⟩⟩, fun _ => trivial, ?_, fun _ => trivial,
    by rintro _ _ ⟨⟩, ?_, List.forall_mem_nil _, ?_⟩
  · intro again
    exact absurd again (Reply.ne_again_of_start answer)
  · rintro (again | wait)
    · exact absurd again (Reply.ne_again_of_start answer)
    · -- the server is dialed from now on, whatever the link was before
      refine ⟨tied.1, rfl, fun _ => ⟨congrArg some tied.1, ?_⟩⟩
      exact (Link.after_connecting task.request.server task.request.credentials _
        (Link.ofPast desk.past)).trans (if_pos wait)
  · intro _ wait _
    refine idle_afterEnd_of_failed ?_
    rcases answer with blocks | failed
    · exact absurd blocks wait
    · exact Reply.ne_ok_of_isError failed

theorem completed_oriented (oriented : desk.Oriented)
    (outcome : desk.result ≠ .wouldBlock ∧ desk.result ≠ .again) (env : Env)
    (h : (Operation.connect task).awaitsCompletion = true)
    (happened : desk.past = .completed desk.result :: past)
    (tied : (Operation.connect task).Tied past desk.session) :
    ((task.completed env desk).map .connect).Oriented [] := by
  have stage : task.stage = .connecting := by simpa [Operation.awaitsCompletion] using h
  obtain ⟨same, down, dialing⟩ := tied
  obtain ⟨ours, link⟩ := dialing stage
  simp only [completed, stage]
  split
  · rename_i ok
    have connected : Desk.Oriented
        { desk.note .info ("Connected to " ++ task.request.server.text) with
          session := { desk.session with connected := true } } := ⟨oriented.place, oriented.heed⟩
    refine connected.ends (by decide) (by decide) rfl ?_
    rintro -
    refine ⟨task.request.server, ours, rfl, ?_⟩
    change Link.ofPast desk.past = _
    rw [happened, ok, Link.ofPast_cons, link]
    rfl
  · rename_i failed
    split
    · exact (oriented.note _ _).ends (by decide) (by decide) rfl
        (idle_afterEnd_of_failed (by decide))
    · split
      · exact oriented.ends outcome.2 outcome.1 rfl (idle_afterEnd_of_failed failed)
      · refine ((oriented.note _ _).request _).goesOn (f := .connect) trivial
          trivial ⟨same, ?_, by rintro ⟨⟩⟩
        simpa using down

omit [Transport τ] in
theorem returned_oriented (oriented : desk.Oriented) {finished : Operation} (again : reply ≠ .again)
    (wait : reply ≠ .wouldBlock)
    (h : (Operation.connect task).expects (.returned reply finished) = true)
    (tied : (Operation.connect task).Tied desk.past desk.session) :
    ((task.returned reply finished desk).map .connect).Oriented [] := by
  have stage : task.stage = .retryWait ∧ finished.kind = .sleep := by
    simpa [Operation.expects, Operation.entering?, Operation.isRetrying] using h
  simp only [returned, stage, and_self, if_true]
  split
  · exact oriented.goesOn (f := .connect) trivial trivial
      ⟨tied.1, tied.2.1, by rintro ⟨⟩⟩
  · rename_i failed
    exact (oriented.note _ _).ends again wait rfl (idle_afterEnd_of_failed failed)

end ConnectTask

namespace DisconnectTask

variable {task : DisconnectTask}

/-- After a disconnection the session is forgotten in any case. -/
theorem idle_afterEnd : Idle past (session.afterEnd .disconnect reply) := by
  rw [Session.afterEnd, if_pos (.inr rfl)]
  rintro ⟨⟩

theorem send_oriented (oriented : desk.Oriented) (h : (Operation.disconnect task).acts = true)
    (tied : (Operation.disconnect task).Tied desk.past desk.session) :
    ((task.send desk).map .disconnect).Oriented [] := by
  have idle : task.waiting = false := by simpa [Operation.acts] using h
  have closes : (desk.record (.disconnecting (Transport.disconnect desk.transport).1)).Oriented :=
    oriented.record rfl trivial
  have asked : (desk.note .info "Disconnecting").disconnect.2.Oriented :=
    ⟨closes.place, closes.heed⟩
  simp only [send, idle, Bool.false_eq_true, if_false]
  split
  · rename_i blocks
    obtain ⟨server, ours, -, up⟩ := tied.linked_of_idle idle
    have closing : Link.ofPast (desk.note .info "Disconnecting").disconnect.2.past =
        .closing server := by
      rw [Desk.disconnect_past, Link.ofPast_cons, Desk.note_past, up]
      exact if_pos blocks
    refine ⟨asked, fun _ => trivial, ?_, fun _ => trivial, by rintro _ _ ⟨⟩,
      fun _ => Operation.tied_of_closing rfl ours closing, List.forall_mem_nil _, ?_⟩
    · intro again
      exact absurd (again.symm.trans blocks) Reply.again_ne_wouldBlock
    · intro _ wait
      exact absurd blocks wait
  · split
    · exact (asked.note _ _).forgetSession.ends (by decide) (by decide) rfl idle_afterEnd
    · exact asked.forgetSession.ends (by decide) (by decide) rfl idle_afterEnd

omit [Transport τ] in
theorem completed_oriented (oriented : desk.Oriented)
    (h : (Operation.disconnect task).awaitsCompletion = true) :
    ((task.completed desk).map .disconnect).Oriented [] := by
  have waiting : task.waiting = true := by simpa [Operation.awaitsCompletion] using h
  simp only [completed, waiting, if_true]
  exact oriented.forgetSession.ends (by decide) (by decide) rfl idle_afterEnd

end DisconnectTask

/-! ## Along the turns of a call -/

namespace Turn

/-- What is known of the server, of the link and of what is out, when the topmost operation is
about to be told the event. -/
structure Oriented (turn : Turn τ Operation) : Prop where
  desk : turn.desk.Oriented
  specified : ∀ operation ∈ turn.top :: turn.below, operation.IsSpecified
  told : match turn.event with
    | .send =>
      (∀ operation ∈ turn.top :: turn.below,
        operation.Tied turn.desk.past turn.desk.session) ∧ turn.top.Placed turn.desk.session
    | .completed => ∃ past, turn.desk.past = .completed turn.desk.result :: past ∧
      (∀ operation ∈ turn.top :: turn.below, operation.Tied past turn.desk.session) ∧
      turn.top.Out past turn.desk.session
    | .returned reply finished =>
      (∀ operation ∈ turn.top :: turn.below,
        operation.Tied turn.desk.past turn.desk.session) ∧
      turn.top.WaitsFor finished ∧
      (reply = .ok → ∀ task, finished = .changeDir task →
        turn.desk.session.directory = some task.path)

variable {turn after : Turn τ Operation} {env : Env}

theorem FitsBelow.of_isConnection {top : Operation} (fits : FitsBelow top below)
    (h : top.isConnection = true) : below = [] :=
  fits.of_command (by cases top <;> first | rfl | cases h)

/-- What is below the topmost operation does not wait for a report itself. -/
theorem FitsBelow.isRetrying {top : Operation} (fits : FitsBelow top below)
    (mem : operation ∈ below) (h : operation.isConnection = true) :
    operation.isRetrying = true := by
  rcases fits with ⟨rfl, -⟩ | ⟨parent, rfl, waits⟩
  · cases mem
  · obtain rfl := List.mem_singleton.1 mem
    cases top with
    | sleep task => exact waits
    | changeDir task => exact absurd h (by simp [Operation.isConnection_of_entering waits])
    | _ => exact waits.elim

/-- The step of an operation that makes or closes the connection, which stands alone. -/
theorem Oriented.step_of_connection (oriented : turn.Oriented) (conforms : Transport.Conforms good)
    (fits : turn.Fits good) (env : Env) (connection : turn.top.isConnection = true) :
    (turn.step env).Oriented turn.below := by
  obtain ⟨budget, below, event, top, desk⟩ := turn
  obtain ⟨transport, reported, outcome, expected, under⟩ := fits
  obtain ⟨known, -, told⟩ := oriented
  have begins : Desk.Oriented { desk with pending := none } := ⟨known.place, known.heed⟩
  obtain rfl : below = [] := under.of_isConnection connection
  cases top with
  | connect task =>
      cases event with
      | send =>
          exact ConnectTask.send_oriented begins conforms transport expected
            (told.1 _ List.mem_cons_self)
      | completed =>
          obtain ⟨past, happened, tied, -⟩ := told
          have outcome := conforms.result _ transport (reported rfl)
          exact ConnectTask.completed_oriented begins outcome env expected happened
            (tied _ List.mem_cons_self)
      | returned reply finished =>
          exact ConnectTask.returned_oriented begins outcome.1 outcome.2 expected
            (told.1 _ List.mem_cons_self)
  | disconnect task =>
      cases event with
      | send => exact DisconnectTask.send_oriented begins expected (told.1 _ List.mem_cons_self)
      | completed => exact DisconnectTask.completed_oriented begins expected
      | returned reply finished => cases expected
  | _ => cases connection

/-- The step of any other operation, which is steady. -/
theorem Oriented.step_of_plain (oriented : turn.Oriented) (conforms : Transport.Conforms good)
    (fits : turn.Fits good) (env : Env) (plain : turn.top.isConnection = false) :
    (turn.step env).Oriented turn.below := by
  obtain ⟨budget, below, event, top, desk⟩ := turn
  obtain ⟨transport, reported, outcome, expected, under⟩ := fits
  obtain ⟨known, specified, told⟩ := oriented
  have own : top.IsSpecified := specified top List.mem_cons_self
  let start : Desk τ Operation := { desk with pending := none }
  have begins : start.Oriented := ⟨known.place, known.heed⟩
  have same := Operation.step_kind env event top start
  have command : below = [] → top.isSubcommand = false := by
    rintro rfl
    rcases under with ⟨-, command⟩ | ⟨parent, impossible, -⟩
    · exact command
    · cases impossible
  cases event with
  | send =>
      have steady := Operation.send_steady begins conforms transport env plain expected own told.2
      exact steady.oriented same plain told.1 command
  | completed =>
      obtain ⟨past, happened, tied, out⟩ := told
      -- nobody else on the stack waits for this report, so it does not change the ties
      have tied' : ∀ op ∈ top :: below, op.Tied start.past start.session := by
        intro op mem
        change op.Tied desk.past desk.session
        rw [happened]
        refine (tied op mem).completed ?_ _
        intro connection
        rcases List.mem_cons.1 mem with rfl | mem
        · exact absurd connection (by simp [plain])
        · exact under.isRetrying mem connection
      have steady := Operation.completed_steady begins (conforms.result _ transport (reported rfl))
        env plain expected own happened (tied top List.mem_cons_self) out
      exact steady.oriented same plain tied' command
  | returned reply finished =>
      obtain ⟨tied, waited, entered⟩ := told
      cases finished with
      | sleep task =>
          exact absurd (Operation.isConnection_of_retrying waited) (by simp [plain])
      | changeDir task =>
          have steady : (Operation.returned reply (.changeDir task) top start).Steady start :=
            Operation.returned_steady begins plain outcome.1 outcome.2 own waited
              fun ok => entered ok task rfl
          exact steady.oriented same plain tied command
      | _ => exact waited.elim

/-- The step of a turn. -/
theorem Oriented.step (oriented : turn.Oriented) (conforms : Transport.Conforms good)
    (fits : turn.Fits good) (env : Env) : (turn.step env).Oriented turn.below := by
  by_cases connection : turn.top.isConnection = true
  · exact oriented.step_of_connection conforms fits env connection
  · exact oriented.step_of_plain conforms fits env (by simpa using connection)

theorem Oriented.next (oriented : turn.Oriented) (conforms : Transport.Conforms good)
    (fits : turn.Fits good) (next : turn.next env = .inr after) : after.Oriented := by
  have stepped := oriented.step conforms fits env
  have sound := fits.sound conforms.neverGoesOn env
  have specified : ∀ operation ∈ turn.below, operation.IsSpecified := fun op mem =>
    oriented.specified op (List.mem_cons_of_mem _ mem)
  rcases Step.next_eq_inr next with ⟨again, left, -, rfl⟩ | ⟨ends, wait, -, parent, rest, eq, rfl⟩
  · have tied := stepped.tied (.inl again)
    have own := stepped.specified (.inl again)
    have goesOn := (sound.goesOn again).2
    unfold Step.onward
    rw [Step.noted_pending]
    cases pending : (turn.step env).desk.pending with
    | some child =>
        -- the subcommand comes on top, and relies on no more than who asked for it
        simp only [pending] at goesOn
        obtain ⟨asked, -⟩ := goesOn
        refine ⟨⟨stepped.desk.place, stepped.desk.heed⟩, ?_, ?_, ?_⟩
        · refine List.forall_mem_cons.2 ⟨asked.child_isSpecified, ?_⟩
          exact List.forall_mem_cons.2 ⟨own, specified⟩
        · refine List.forall_mem_cons.2 ⟨asked.child_tied tied, ?_⟩
          exact List.forall_mem_cons.2 ⟨tied, stepped.others⟩
        · exact asked.child_placed
    | none =>
        refine ⟨⟨stepped.desk.place, stepped.desk.heed⟩, ?_, ?_, stepped.ready again pending⟩
        · exact List.forall_mem_cons.2 ⟨own, specified⟩
        · exact List.forall_mem_cons.2 ⟨tied, stepped.others⟩
  · -- the operation below is told how the subcommand it asked for ended
    rcases fits.below.succeeds sound.succeeds with ⟨empty, -⟩ | ⟨asker, single, waits⟩
    · simp [empty] at eq
    · obtain ⟨rfl, rfl⟩ : asker = parent ∧ [] = rest := by simpa [single] using eq
      refine ⟨⟨stepped.desk.place, stepped.desk.heed⟩, ?_, ?_, waits, stepped.entered⟩
      · rw [single] at specified
        exact specified
      · have others := stepped.others
        rw [single] at others
        exact others

end Turn

/-! ## Between the calls -/

namespace Engine

/-- What is known of the server, of the link and of what is out, between two calls. -/
structure Oriented (engine : Engine τ Operation) : Prop where
  desk : engine.desk.Oriented
  specified : ∀ operation ∈ engine.stack, operation.IsSpecified
  tied : ∀ operation ∈ engine.stack, operation.Tied engine.desk.past engine.desk.session
  idle : engine.stack = [] → Idle engine.desk.past engine.desk.session
  out : ∀ top below, engine.stack = top :: below →
    top.Out engine.desk.past engine.desk.session

omit [Transport τ] in
/-- With nothing to do, there is nothing to know but what the session says. -/
theorem Oriented.of_empty {engine : Engine τ Operation} (empty : engine.stack = [])
    (desk : engine.desk.Oriented) (idle : Idle engine.desk.past engine.desk.session) :
    engine.Oriented := by
  refine ⟨desk, ?_, ?_, fun _ => idle, ?_⟩
  · simp [empty]
  · simp [empty]
  · simp [empty]

/-- Commands but that to connect are served only with a connection. -/
theorem connected_of_served {command : Command} {protocol : Protocol}
    (served : protocolFor session command = .ok protocol)
    (h : ∀ request, command ≠ .connect request) : session.connected = true := by
  unfold protocolFor at served
  split at served
  · exact absurd rfl (h _)
  · split at served
    · split at served
      · assumption
      · cases served
    · cases served

theorem not_connected_of_served {request : ConnectRequest} {protocol : Protocol}
    (served : protocolFor session (.connect request) = .ok protocol) :
    session.connected = false := by
  simp only [protocolFor] at served
  split at served
  · cases served
  · rename_i down
    simpa using down

theorem directoryCommand_placed (h : operation.progress? = some .start) :
    operation.Placed session := by
  cases operation <;> first
    | cases h
    | (rintro _ _ - at_
       rw [h] at at_
       cases at_
       trivial)

/-- The operation of a valid command begins with all it relies on. -/
theorem begins_of_served {command : Command} {protocol : Protocol} (valid : command.valid = true)
    (served : protocolFor session command = .ok protocol)
    (offered : Operation.ofCommand? command protocol = some operation) (idle : Idle past session) :
    operation.IsSpecified ∧ operation.Placed session ∧ operation.Tied past session := by
  have linked : (∀ request, command ≠ .connect request) → Linked past session := by
    intro other
    exact idle (connected_of_served served other)
  unfold Operation.ofCommand? at offered
  split at offered
  · rename_i request protocol'
    cases offered
    refine ⟨trivial, trivial, ?_, not_connected_of_served served, by rintro ⟨⟩⟩
    simp only [Command.valid, ConnectRequest.valid, Bool.and_eq_true, beq_iff_eq] at valid
    exact valid.2
  · cases offered
    exact ⟨trivial, trivial, linked (by rintro _ ⟨⟩)⟩
  · cases offered
    exact ⟨trivial, trivial, linked (by rintro _ ⟨⟩)⟩
  · cases offered
    refine ⟨?_, directoryCommand_placed rfl, linked (by rintro _ ⟨⟩)⟩
    simp only [Command.valid, TransferRequest.valid, Bool.and_eq_true, Bool.not_eq_true'] at valid
    exact valid.1.1
  · cases offered
    refine ⟨?_, directoryCommand_placed rfl, linked (by rintro _ ⟨⟩)⟩
    simp only [Command.valid, DeleteRequest.valid, Bool.and_eq_true, Bool.not_eq_true'] at valid
    exact valid.1
  · cases offered
    refine ⟨?_, directoryCommand_placed rfl, linked (by rintro _ ⟨⟩)⟩
    simp only [Command.valid, RemoveDirRequest.valid, Bool.and_eq_true, Bool.not_eq_true'] at valid
    exact valid.1
  · cases offered
    exact ⟨trivial, trivial, linked (by rintro _ ⟨⟩)⟩
  · cases offered
    refine ⟨?_, directoryCommand_placed rfl, linked (by rintro _ ⟨⟩)⟩
    simp only [Command.valid, RenameRequest.valid, Bool.and_eq_true, Bool.not_eq_true'] at valid
    exact ⟨valid.1.1.1, valid.1.2⟩
  · cases offered
    refine ⟨?_, directoryCommand_placed rfl, linked (by rintro _ ⟨⟩)⟩
    simp only [Command.valid, ChmodRequest.valid, Bool.and_eq_true, Bool.not_eq_true'] at valid
    exact valid.1.1
  · cases offered
    exact ⟨trivial, trivial, linked (by rintro _ ⟨⟩)⟩
  · cases offered

/-- A call begins with a turn of which all is known that is of the others. -/
theorem Oriented.opening {engine : Engine τ Operation} {call : Call} {first : Turn τ Operation}
    (oriented : engine.Oriented) (h : engine.opening call = some first) : first.Oriented := by
  rcases opening_eq_some h with ⟨command, operation, rfl, accepted, rfl⟩ |
    ⟨top, below, rfl, stack, rfl⟩
  · obtain ⟨empty, valid, protocol, served, offered⟩ := accept_eq_ok accepted
    have idle : Idle (.started command :: engine.desk.past) engine.desk.session := by
      intro connected
      exact (oriented.idle empty connected).aside rfl
    obtain ⟨specified, placed, tied⟩ := begins_of_served valid served offered idle
    have begins : (engine.desk.record (.started command)).Oriented :=
      oriented.desk.record rfl trivial
    refine ⟨⟨begins.place, begins.heed⟩, ?_, ?_, placed⟩
    · exact List.forall_mem_singleton.2 specified
    · exact List.forall_mem_singleton.2 tied
  · refine ⟨oriented.desk.record rfl trivial, ?_, engine.desk.past, rfl, ?_,
      oriented.out top below stack⟩
    · exact stack ▸ oriented.specified
    · exact stack ▸ oriented.tied

theorem abandon_oriented {desk : Desk τ Operation} (oriented : desk.Oriented) (env : Env)
    (stack : List Operation) : (abandon env stack desk).Oriented := by
  obtain ⟨after, doubts, eq⟩ := abandon_doubts env stack desk
  have steady := (Desk.Steady.refl oriented).doubts doubts
  rw [eq]
  split
  · exact ⟨by rintro _ ⟨⟩, steady.heed⟩
  · exact ⟨steady.place, steady.heed⟩

/-- Calling off forgets a connection that was about to be made. -/
theorem abandon_idle {desk : Desk τ Operation} (oriented : desk.Oriented) (env : Env)
    (stack : List Operation)
    (idle : stack.getLast?.map Operation.kind ≠ some .connect → Idle desk.past desk.session) :
    Idle (abandon env stack desk).past (abandon env stack desk).session := by
  obtain ⟨after, doubts, eq⟩ := abandon_doubts env stack desk
  have steady := (Desk.Steady.refl oriented).doubts doubts
  rw [eq]
  split
  · rintro ⟨⟩
  · rename_i other
    intro connected
    have linked : Linked after.past after.session :=
      (idle other (steady.connected.symm.trans connected)).steady steady
    exact linked

/-- Where a turn ends the call, the engine is oriented. -/
theorem oriented_of_next {turn : Turn τ Operation} {outcome : Outcome τ Operation} {env : Env}
    (conforms : Transport.Conforms good) (fits : turn.Fits good) (oriented : turn.Oriented)
    (next : turn.next env = .inl outcome) (engine : Engine τ Operation) :
    (engine.take outcome).2.Oriented := by
  have stepped := oriented.step conforms fits env
  have sound := fits.sound conforms.neverGoesOn env
  have noted : (turn.step env).noted.Oriented := ⟨stepped.desk.place, stepped.desk.heed⟩
  rcases Step.next_eq_inl next with ⟨again, -, rfl⟩ | ⟨stops, child, asked, -⟩ | ⟨wait, -, rfl⟩ |
    ⟨stops, ends, -, empty, rfl⟩
  · obtain ⟨command, goesOn⟩ := sound.goesOn again
    have below := fits.below.of_command command
    -- an operation that asks to go on has not asked to close the connection
    have closes : ∀ task, (turn.step env).operation = .disconnect task → task.waiting = false := by
      intro task is
      rw [is] at goesOn
      split at goesOn
      · rename_i child _
        exact absurd goesOn.1 (Operation.not_waitsFor_disconnect task child)
      · simpa [Operation.acts] using goesOn
    refine .of_empty rfl (abandon_oriented (noted.note .error _) _ _) ?_
    refine abandon_idle (noted.note .error _) _ _ ?_
    intro other _
    rw [below] at other
    exact (stepped.tied (.inl again)).linked_of_command
      (sound.succeeds.isSubcommand.trans command) (fun is => other (congrArg some is)) closes
  · exact (sound.asks_nothing stops asked).elim
  · refine ⟨noted, ?_, ?_, by rintro ⟨⟩, ?_⟩
    · refine List.forall_mem_cons.2 ⟨stepped.specified (.inr wait), ?_⟩
      intro op mem
      exact oriented.specified op (List.mem_cons_of_mem _ mem)
    · exact List.forall_mem_cons.2 ⟨stepped.tied (.inr wait), stepped.others⟩
    · rintro top below ⟨⟩
      exact stepped.out wait
  · have idle := stepped.ended stops ends empty
    obtain ⟨text, finished⟩ := finish_eq (HasKind.kind (turn.step env).operation)
      (turn.step env).reply (turn.step env).noted
    rw [finished]
    exact .of_empty rfl ((noted.afterEnd _ _).note _ _) idle

/-- Where the command is called off, whatever closed the connection has not done so. -/
theorem idle_of_canceled {stack : List Operation} (form : StackForm stack) (busy : stack ≠ [])
    (tied : ∀ operation ∈ stack, operation.Tied past session)
    (other : stack.getLast?.map Operation.kind ≠ some .connect) :
    Idle (.canceled :: past) session := by
  have stays : Linked past session → Linked (.canceled :: past) session := by
    rintro ⟨server, ours, connected, up⟩
    refine ⟨server, ours, connected, ?_⟩
    rw [Link.ofPast_cons, up]
    rfl
  intro connected
  cases form with
  | idle => exact absurd rfl busy
  | single operation command waits =>
      have own := tied operation List.mem_cons_self
      cases operation with
      | connect task => exact absurd rfl other
      | disconnect task =>
          have waiting : task.waiting = true := by simpa [Operation.awaitsCompletion] using waits
          obtain ⟨server, ours, closing⟩ : ∃ server, session.server = some server ∧
              Link.ofPast past = .closing server := by
            simpa [Operation.Tied, waiting] using own
          refine ⟨server, ours, connected, ?_⟩
          rw [Link.ofPast_cons, closing]
          rfl
      | sleep task => cases command
      | _ => exact stays own
  | entering task parent waits enters =>
      exact stays (tied (.changeDir task) List.mem_cons_self)
  | retrying task parent waits retries => exact absurd rfl other

theorem Oriented.cancel {engine : Engine τ Operation} (oriented : engine.Oriented)
    (form : StackForm engine.stack) : engine.cancel.2.Oriented := by
  unfold Engine.cancel
  split
  · rename_i busy
    have canceled : (engine.desk.record .canceled).Oriented := oriented.desk.record rfl trivial
    have noted := canceled.note .info "Command canceled"
    have kept := abandon_oriented noted engine.env engine.stack
    have idle := abandon_idle noted engine.env engine.stack
      (idle_of_canceled form (by simpa [isBusy] using busy) oriented.tied)
    have aborted : (Desk.record _ .aborted).Oriented := kept.record rfl trivial
    refine .of_empty rfl ⟨aborted.place, aborted.heed⟩ ?_
    intro connected
    exact (idle connected).aside rfl
  · exact oriented

/-- Without a session there is nothing that could be wrong about it. -/
theorem Oriented.connectionLost {engine : Engine τ Operation} (oriented : engine.Oriented) :
    engine.connectionLost.2.Oriented := by
  have lost : (engine.desk.record .connectionLost).Oriented := oriented.desk.record rfl trivial
  unfold Engine.connectionLost
  split
  · refine .of_empty rfl ?_ (by rintro ⟨⟩)
    exact (abandon_oriented (lost.note .warn _) engine.env engine.stack).forgetSession
  · rename_i idle
    refine .of_empty ?_ lost.forgetSession (by rintro ⟨⟩)
    simpa [isBusy] using idle

theorem Oriented.make {engine : Engine τ Operation} (oriented : engine.Oriented)
    (conforms : Transport.Conforms good) (rests : engine.Rests good) (call : Call)
    (may : engine.MayMake good call) : (engine.make call).2.Oriented := by
  refine make_rule (P := Oriented) call ?_ (oriented.cancel rests.form) oriented.connectionLost
    oriented ?_
  · intro first opened
    refine Turn.Fits.rule conforms.neverGoesOn (P := Turn.Oriented) ?_
      (Q := fun outcome => (engine.take outcome).2.Oriented) ?_ (rests.opening may opened)
      (oriented.opening opened)
    · intro turn after fits oriented next
      exact oriented.next conforms fits next
    · intro turn outcome fits oriented next
      exact oriented_of_next conforms fits oriented next engine
  · intro level text
    exact ⟨oriented.desk.note _ _, oriented.specified, oriented.tied, oriented.idle, oriented.out⟩

omit [Transport τ] in
/-- Waiting changes nothing about what is out. -/
theorem out_of_waits (out : operation.Out past session) {waits : List Happening}
    (all : ∀ happening ∈ waits, happening.isWait = true) :
    operation.Out (waits ++ past) session := by
  cases operation with
  | changeDir task =>
      exact ⟨out.1, out.2.asides fun happening mem =>
        Happening.isAside_of_isWait (all happening mem)⟩
  | list task =>
      obtain ⟨target, former, text, before, waiting, rfl, formerAll, settled⟩ := out
      refine ⟨target, waits ++ former, text, before, waiting, by rw [List.append_assoc], ?_,
        settled⟩
      intro happening mem
      rcases List.mem_append.1 mem with mem | mem
      · exact all happening mem
      · exact formerAll happening mem
  | _ => exact out

omit [Transport τ] in
theorem Oriented.drifts {engine after : Engine τ Operation} (oriented : engine.Oriented)
    (drifts : engine.Drifts good after) : after.Oriented := by
  obtain ⟨waits, all, past⟩ := drifts.past
  have steady : engine.desk.Steady after.desk :=
    (Desk.Steady.refl oriented.desk).idles drifts.session
      ⟨waits, fun happening mem => Happening.isIdle_of_isWait (all happening mem), past⟩
  have tied : ∀ operation ∈ engine.stack,
      operation.Tied after.desk.past after.desk.session := by
    intro operation mem
    exact (oriented.tied operation mem).steady steady
  have out : ∀ top below, engine.stack = top :: below →
      top.Out after.desk.past after.desk.session := by
    intro top below stack
    rw [drifts.session, past]
    exact out_of_waits (oriented.out top below stack) all
  -- data that goes through a local end changes nothing of what is known
  rcases drifts.stack with same | ⟨top, below, channel, before, -, now⟩
  · refine ⟨steady.toOriented, ?_, ?_, fun empty => ?_, ?_⟩
    · rw [same]
      exact oriented.specified
    · rw [same]
      exact tied
    · intro connected
      exact (oriented.idle (same ▸ empty) (steady.connected.symm.trans connected)).steady steady
    · rw [same]
      exact out
  · have specified := oriented.specified
    rw [before] at specified tied
    obtain ⟨ownSpecified, others⟩ := List.forall_mem_cons.1 specified
    obtain ⟨ownTied, othersTied⟩ := List.forall_mem_cons.1 tied
    refine ⟨steady.toOriented, ?_, ?_, fun empty => ?_, ?_⟩
    · rw [now]
      exact List.forall_mem_cons.2 ⟨ownSpecified.withChannel channel, others⟩
    · rw [now]
      exact List.forall_mem_cons.2 ⟨ownTied.withChannel channel, othersTied⟩
    · rw [now] at empty
      cases empty
    · rw [now]
      rintro _ _ ⟨⟩
      exact (out top below before).withChannel channel

theorem oriented_of_reachable {engine : Engine τ Operation} (conforms : Transport.Conforms good)
    (reachable : engine.Reachable good) : engine.Oriented := by
  induction reachable with
  | fresh new transport =>
      refine .of_empty new.stack ⟨?_, ?_⟩ ?_
      · rw [new.session]
        rintro _ ⟨⟩
      · rw [new.past]
        trivial
      · rw [new.session]
        rintro ⟨⟩
  | call run call may ih =>
      exact ih.make conforms (rests_of_reachable conforms.neverGoesOn run) call may
  | wait _ drifts ih => exact ih.drifts drifts

/-- In every run over a transport that keeps to its contract, the working directory the session
tells of is that of the server; an object is named relatively only where the server is in its
directory when it processes the line; and a listing is stored only under the directory and the
server it was made in and by. -/
theorem tracks_working_directory (conforms : Transport.Conforms good)
    {engine : Engine τ Operation} (reachable : engine.Reachable good) :
    (∀ path, engine.desk.session.directory = some path →
      ∀ remote, Remote.Possible engine.desk.past remote → remote = ⟨path, .nothing⟩) ∧
    (∀ call turn path, engine.MayMake good call → engine.Takes call turn →
      turn.desk.session.directory = some path →
      ∀ remote, Remote.Possible turn.desk.past remote → remote = ⟨path, .nothing⟩) ∧
    (∀ later line text answer earlier,
      engine.desk.past = later ++ .sent line text answer :: earlier →
      ∀ object ∈ line.objects, object.IsRelative →
        ∀ remote, Remote.Possible (.sent line text answer :: earlier) remote →
          remote.directory = object.directory) ∧
    ∀ later server listing answer earlier,
      engine.desk.past = later ++ .cached (.store server listing) answer :: earlier →
      Link.ofPast earlier = .up server ∧
        ∃ entries result waits text before,
          earlier = .listingTaken (some entries) :: .completed result ::
            (waits ++ .sent .list text .wouldBlock :: before) ∧
          (∀ happening ∈ waits, happening.isWait = true) ∧
          listing.entries = ListTask.fresh entries ∧ Link.ofPast before = .up server ∧
          ∀ remote, Remote.Possible (.sent .list text .wouldBlock :: before) remote →
            remote.directory = listing.path := by
  have oriented := oriented_of_reachable conforms reachable
  have rests := rests_of_reachable conforms.neverGoesOn reachable
  refine ⟨oriented.desk.place, ?_, ?_, ?_⟩
  · rintro call turn path may ⟨first, opened, leads⟩
    obtain ⟨-, known⟩ := Turn.Fits.leads conforms.neverGoesOn (P := Turn.Oriented)
      (fun _ _ fits oriented next => oriented.next conforms fits next) leads
      (rests.opening may opened) (oriented.opening opened)
    exact known.desk.place path
  · intro later line text answer earlier past object mem relative remote possible
    have heeds := oriented.desk.heed.at past object mem relative
    rw [heeds.sent (line.stays_of_mem_objects mem) text answer remote possible]
  · intro later server listing answer earlier past
    obtain ⟨entries, result, waits, text, before, rfl, all, same, up, settled⟩ :=
      oriented.desk.heed.at past
    refine ⟨?_, entries, result, waits, text, before, rfl, all, same, up, ?_⟩
    · have asides : ∀ happening ∈ waits, happening.isAside = true := fun happening mem =>
        Happening.isAside_of_isWait (all happening mem)
      rw [Link.ofPast_cons, Link.after_aside rfl, Link.ofPast_cons, Link.ofPast_asides asides,
        Link.ofPast_cons, Link.after_sent, up]
      rfl
    · intro remote possible
      have stays : WireLine.Stays .list := trivial
      rw [settled.sent stays text _ remote possible]

/-- A change of permissions in the root, stopped once that is entered. -/
theorem tracks_working_directory_entered :
    ∃ engine : Engine Scripted Operation,
      engine.Reachable Scripted.IsConforming ∧ engine.stack.length = 1 ∧
        ∀ remote, Remote.Possible engine.desk.past remote → remote = ⟨.root, .nothing⟩ := by
  have run := conforming_reachable {}
    (connecting ++ [.execute (.chmod ⟨.root, "f", "644"⟩), .resume])
  exact ⟨_, run, by decide +kernel,
    (tracks_working_directory Scripted.conforms run).1 .root (by decide +kernel)⟩

end Engine

end Courier
