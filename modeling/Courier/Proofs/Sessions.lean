import Courier.Proofs.Connection

/-!
# The session from call to call

Between two calls the session is that of a connection, or of one that is being made, or nothing is
known. It becomes connected where a command to connect ends well, and only there. What else changes
the server or the connection is a command to connect, which leaves nothing behind unless it ends
well, the end of a command to disconnect, and the report that the connection is lost.
-/

namespace Courier

/-- Connecting is under way: an attempt, or the wait before the next one. -/
inductive IsConnecting : List Operation → Prop
  | attempting (task : ConnectTask) : IsConnecting [.connect task]
  | pausing (pause : SleepTask) (task : ConnectTask) (retries : task.stage = .retryWait) :
      IsConnecting [.sleep pause, .connect task]

/-- What becomes of the session, and of the stack, in a call that is about a command of this kind
and gets this reply. -/
inductive Session.Changes (call : Engine.Call) (kind : Option CommandKind) (reply : Reply)
    (before after : Session) (stack : List Operation) : Prop
  | connecting (connects : kind = some .connect) (waits : reply = .wouldBlock)
      (down : after.connected = false) (underWay : IsConnecting stack)
  | connected (connects : kind = some .connect) (ok : reply = .ok)
      (up : after.connected = true) (empty : stack = [])
  | failed (connects : kind = some .connect) (failed : reply ≠ .ok) (forgotten : after = {})
      (empty : stack = [])
  | closing (closes : kind = some .disconnect) (waits : reply = .wouldBlock)
      (same : after = before) (underWay : stack ≠ [])
  | closed (closes : kind = some .disconnect) (ok : reply = .ok) (forgotten : after = {})
      (empty : stack = [])
  | recalled (closes : kind = some .disconnect) (givenUp : call = .cancel)
      (canceled : reply = .canceled) (same : after = before) (empty : stack = [])
  | kept (other : kind ≠ some .connect) (others : kind ≠ some .disconnect)
      (server : after.server = before.server) (connected : after.connected = before.connected)

/-- A session becomes connected where a command to connect ends well. -/
theorem Session.Changes.connects {call : Engine.Call} {kind : Option CommandKind} {reply : Reply}
    {before after : Session} {stack : List Operation}
    (changes : Session.Changes call kind reply before after stack)
    (down : before.connected = false) (up : after.connected = true) :
    kind = some .connect ∧ reply = .ok ∧ stack = [] := by
  cases changes with
  | connecting connects waits still underWay =>
      rw [up] at still
      cases still
  | connected connects ok _ empty => exact ⟨connects, ok, empty⟩
  | failed connects failed forgotten empty =>
      rw [forgotten] at up
      cases up
  | closing closes waits same underWay =>
      rw [same, down] at up
      cases up
  | closed closes ok forgotten empty =>
      rw [forgotten] at up
      cases up
  | recalled closes givenUp canceled same empty =>
      rw [same, down] at up
      cases up
  | kept other others server connected =>
      rw [connected, down] at up
      cases up

/-! ## The operation at the bottom -/

section Bottom

variable {operation top after : Operation} {below : List Operation} {past : List Happening}
  {session : Session} {kind : CommandKind}

/-- What follows on the topmost operation does not change the kind of the command. -/
theorem bottom_of_same (same : after.kind = top.kind) :
    (after :: below).getLast?.map Operation.kind = (top :: below).getLast?.map Operation.kind := by
  cases below with
  | nil => rw [List.getLast?_singleton, List.getLast?_singleton, Option.map_some, same]; rfl
  | cons parent rest => rw [List.getLast?_cons_cons, List.getLast?_cons_cons]

/-- While the command is to connect and has not ended, there is no connection. -/
theorem Operation.Moored.down (moored : operation.Moored past session)
    (connects : operation.kind = .connect) : session.connected = false := by
  cases operation with
  | connect task => exact moored.1
  | _ => cases connects

namespace Turn.FitsBelow

/-- An operation that makes or closes the connection is that of the command. -/
theorem kind_of_isConnection (fits : FitsBelow top below)
    (bottom : (top :: below).getLast?.map Operation.kind = some kind)
    (connection : top.isConnection = true) : top.kind = kind := by
  obtain rfl := fits.of_isConnection connection
  exact Option.some.inj bottom

/-- Disconnecting asks for no subcommand. -/
theorem of_disconnect (fits : FitsBelow top below)
    (bottom : (top :: below).getLast?.map Operation.kind = some .disconnect) :
    below = [] ∧ ∃ task, top = .disconnect task := by
  rcases fits with ⟨rfl, -⟩ | ⟨parent, rfl, waits⟩
  · refine ⟨rfl, ?_⟩
    have kind : top.kind = .disconnect := Option.some.inj bottom
    cases top with
    | disconnect task => exact ⟨task, rfl⟩
    | _ => cases kind
  · have kind : parent.kind = .disconnect := Option.some.inj bottom
    cases parent with
    | disconnect task => exact absurd waits (Operation.not_waitsFor_disconnect task top)
    | _ => cases kind

/-- While there is no connection, one is being made. -/
theorem isConnecting (fits : FitsBelow top below)
    (moored : ∀ operation ∈ top :: below, operation.Moored past session)
    (down : session.connected = false) : IsConnecting (top :: below) := by
  -- the command is to connect, since any other needs a connection
  have connects : ∀ operation ∈ top :: below, operation.isSubcommand = false →
      ∃ task, operation = .connect task := by
    intro operation mem command
    have stands := moored operation mem
    cases operation with
    | connect task => exact ⟨task, rfl⟩
    | sleep task => cases command
    | changeDir task => cases command
    | _ => exact absurd (down.symm.trans stands.1) Bool.false_ne_true
  rcases fits with ⟨rfl, command⟩ | ⟨parent, rfl, waits⟩
  · obtain ⟨task, rfl⟩ := connects top List.mem_cons_self command
    exact .attempting task
  · obtain ⟨task, rfl⟩ := connects parent (List.mem_cons_of_mem _ List.mem_cons_self)
      waits.not_isSubcommand
    cases top with
    | sleep pause =>
        refine .pausing pause task ?_
        simpa [Operation.WaitsFor, Operation.isRetrying] using waits
    | changeDir task => cases waits
    | _ => exact waits.elim

end Turn.FitsBelow

end Bottom

/-! ## Steps that make or close the connection -/

section Steps

variable {τ : Type} [Transport τ] {good : Transport.States τ} {ends : Reply → Prop}
  {desk : Desk τ Operation} {event : Event Operation}

/-- Where connecting ends well, there is a connection. -/
theorem ConnectTask.connected_of_ok
    (starts : Transport.Answers good (fun reply => reply = .wouldBlock ∨ reply.isError = true) ends)
    (env : Env) (task : ConnectTask) (transport : good desk.transport)
    (ok : (Operation.step env event (.connect task) desk).reply = .ok) :
    (Operation.step env event (.connect task) desk).desk.session.connected = true := by
  have unexpected : ∀ stage name, (((desk.unexpected .connect stage name task).map
      Operation.connect).reply ≠ .ok) := fun _ _ => (by decide : Reply.internalError ≠ .ok)
  cases event with
  | send =>
      change ((task.send desk).map Operation.connect).reply = .ok at ok
      change ((task.send desk).map Operation.connect).desk.session.connected = true
      unfold send at ok ⊢
      split at ok
      · -- an attempt does not succeed at once
        have answer := (starts.connect _ task.request.server task.request.credentials transport).1
        rcases answer with blocks | failed
        · exact absurd (ok.symm.trans blocks) Reply.ok_ne_wouldBlock
        · exact absurd ok (Reply.ne_ok_of_isError failed)
      · exact absurd ok (unexpected _ _)
      · exact absurd ok (unexpected _ _)
  | completed =>
      change ((task.completed env desk).map Operation.connect).reply = .ok at ok
      change ((task.completed env desk).map Operation.connect).desk.session.connected = true
      unfold completed at ok ⊢
      split at ok
      · simp only at ok ⊢
        split at ok
        · rename_i succeeded
          rw [if_pos succeeded]
          rfl
        · rename_i failed
          exfalso
          split at ok
          · exact absurd ok (by decide : Reply.critical ||| Reply.passwordFailed ≠ .ok)
          · split at ok
            · exact failed ok
            · exact absurd ok Reply.again_ne_ok
      · exact absurd ok (unexpected _ _)
      · exact absurd ok (unexpected _ _)
  | returned reply finished =>
      exfalso
      change ((task.returned reply finished desk).map Operation.connect).reply = .ok at ok
      unfold returned at ok
      split at ok
      · split at ok
        · exact absurd ok Reply.again_ne_ok
        · rename_i failed
          exact failed ok
      · exact unexpected _ _ ok

/-- Disconnecting waits, or ends well and leaves nothing of the session. -/
theorem DisconnectTask.step_ends (env : Env) (task : DisconnectTask)
    (expected : (Operation.disconnect task).expects event = true) :
    ((Operation.step env event (.disconnect task) desk).reply = .wouldBlock ∧
      (Operation.step env event (.disconnect task) desk).desk.session = desk.session) ∨
    ((Operation.step env event (.disconnect task) desk).reply = .ok ∧
      (Operation.step env event (.disconnect task) desk).desk.session = {}) := by
  cases event with
  | send =>
      have idle : ¬ task.waiting = true := by
        simpa [Operation.expects, Operation.acts] using expected
      change ((task.send desk).map Operation.disconnect).reply = _ ∧
        ((task.send desk).map Operation.disconnect).desk.session = _ ∨
        ((task.send desk).map Operation.disconnect).reply = _ ∧
        ((task.send desk).map Operation.disconnect).desk.session = _
      unfold send
      rw [if_neg idle]
      simp only
      split
      · rename_i blocks
        exact .inl ⟨blocks, rfl⟩
      · exact .inr ⟨rfl, rfl⟩
  | completed =>
      have waiting : task.waiting = true := expected
      right
      change ((task.completed desk).map Operation.disconnect).reply = _ ∧
        ((task.completed desk).map Operation.disconnect).desk.session = _
      unfold completed
      rw [if_pos waiting]
      exact ⟨rfl, rfl⟩
  | returned reply finished => cases expected

end Steps

/-! ## Along the turns of a call -/

section Turns

variable {τ : Type} [Transport τ] {good : Transport.States τ} {turn after : Turn τ Operation}
  {kind : CommandKind} {origin : Session} {env : Env} {call : Engine.Call}

namespace Turn

/-- While there is no connection, one is being made. -/
theorem Moored.isConnecting (moored : turn.Moored good)
    (down : turn.desk.session.connected = false) : IsConnecting (turn.top :: turn.below) := by
  obtain ⟨budget, below, event, top, desk⟩ := turn
  obtain ⟨-, under, -, -, -, told⟩ := moored
  cases event with
  | completed =>
      obtain ⟨past, -, stands⟩ := told
      exact under.isConnecting stands down
  | send => exact under.isConnecting told down
  | returned reply finished => exact under.isConnecting told down

/-- The call is about a command of this kind, and found the session like this. -/
structure Minds (kind : CommandKind) (origin : Session) (turn : Turn τ Operation) : Prop where
  bottom : (turn.top :: turn.below).getLast?.map Operation.kind = some kind
  server : kind ≠ .connect → turn.desk.session.server = origin.server
  connected : kind ≠ .connect → turn.desk.session.connected = origin.connected
  whole : kind = .disconnect → turn.desk.session = origin

theorem Minds.bottom_step (minds : turn.Minds kind origin) (env : Env) :
    ((turn.step env).operation :: turn.below).getLast?.map Operation.kind = some kind :=
  (bottom_of_same (Operation.step_kind env turn.event turn.top _)).trans minds.bottom

/-- A step for any other command leaves the server and the connection alone. -/
theorem Minds.step (minds : turn.Minds kind origin) (conforms : Transport.Conforms good)
    (fits : turn.Fits good) (env : Env) (other : kind ≠ .connect) (others : kind ≠ .disconnect) :
    (turn.step env).desk.session.server = origin.server ∧
      (turn.step env).desk.session.connected = origin.connected := by
  have plain : turn.top.isConnection = false := by
    rw [Bool.eq_false_iff]
    intro connection
    have own := fits.below.kind_of_isConnection minds.bottom connection
    rcases Operation.isConnection_iff.1 connection with connects | closes
    · exact other (own.symm.trans connects)
    · exact others (own.symm.trans closes)
  have stays := (step_does conforms fits.transport env).session plain
  exact ⟨stays.server.trans (minds.server other), stays.connected.trans (minds.connected other)⟩

/-- A step to disconnect waits or ends well. -/
theorem Minds.step_of_disconnect (minds : turn.Minds .disconnect origin) (fits : turn.Fits good)
    (env : Env) : turn.below = [] ∧
      ((turn.step env).reply = .wouldBlock ∧ (turn.step env).desk.session = origin ∨
        (turn.step env).reply = .ok ∧ (turn.step env).desk.session = {}) := by
  obtain ⟨alone, task, top⟩ := fits.below.of_disconnect minds.bottom
  refine ⟨alone, ?_⟩
  obtain ⟨budget, below, event, _, desk⟩ := turn
  obtain rfl : _ = Operation.disconnect task := top
  have found : desk.session = origin := minds.whole rfl
  rw [← found]
  exact task.step_ends env fits.expected

/-- Where a step to connect ends well, there is a connection. -/
theorem connected_of_ok (conforms : Transport.Conforms good) (fits : turn.Fits good)
    (connects : turn.top.kind = .connect) (ok : (turn.step env).reply = .ok) :
    (turn.step env).desk.session.connected = true := by
  obtain ⟨budget, below, event, top, desk⟩ := turn
  cases top with
  | connect task => exact task.connected_of_ok conforms env fits.transport ok
  | _ => cases connects

/-- Disconnecting does not go on. -/
theorem Minds.not_disconnect (minds : turn.Minds kind origin) (fits : turn.Fits good)
    (again : (turn.step env).reply = .again) : kind ≠ .disconnect := by
  rintro rfl
  rcases (minds.step_of_disconnect fits env).2 with ⟨waits, -⟩ | ⟨ok, -⟩
  · exact Reply.again_ne_wouldBlock (again.symm.trans waits)
  · exact Reply.again_ne_ok (again.symm.trans ok)

theorem Minds.next (minds : turn.Minds kind origin) (conforms : Transport.Conforms good)
    (fits : turn.Fits good) (next : turn.next env = .inr after) : after.Minds kind origin := by
  have others : kind ≠ .disconnect := by
    rcases Step.next_eq_inr next with ⟨again, -⟩ | ⟨-, -, -, parent, rest, eq, -⟩
    · exact minds.not_disconnect fits again
    · rintro rfl
      rw [(minds.step_of_disconnect fits env).1] at eq
      cases eq
  have bottom := minds.bottom_step env
  have keeps : ∀ later : Turn τ Operation,
      later.desk.session = (turn.step env).desk.session →
      (later.top :: later.below).getLast?.map Operation.kind = some kind →
        later.Minds kind origin := by
    intro later session bottom
    refine ⟨bottom, ?_, ?_, fun closes => absurd closes others⟩
    · intro other
      rw [session]
      exact (minds.step conforms fits env other others).1
    · intro other
      rw [session]
      exact (minds.step conforms fits env other others).2
  rcases Step.next_eq_inr next with ⟨-, left, -, rfl⟩ | ⟨-, -, -, parent, rest, eq, rfl⟩
  · unfold Step.onward
    rw [Step.noted_pending]
    cases pending : (turn.step env).desk.pending with
    | some child =>
        refine keeps _ rfl ?_
        rw [List.getLast?_cons_cons]
        exact bottom
    | none => exact keeps _ rfl bottom
  · rw [eq, List.getLast?_cons_cons] at bottom
    exact keeps _ rfl bottom

end Turn

/-- A command that is given up leaves nothing of the session if it was to connect, and otherwise
what it found of the server and the connection. -/
theorem Turn.Minds.givesUp (minds : turn.Minds kind origin) (conforms : Transport.Conforms good)
    (fits : turn.Fits good) (again : (turn.step env).reply = .again) :
    Session.Changes call (some kind) .internalError origin
      (giveUp env (turn.step env).operation turn.below (turn.step env).noted).desk.session [] := by
  obtain ⟨after, doubts, eq⟩ := abandon_doubts env ((turn.step env).operation :: turn.below)
    ((turn.step env).noted.note .error _)
  have bottom : ((turn.step env).operation :: turn.below).getLast?.map HasKind.kind = some kind :=
    minds.bottom_step env
  rw [giveUp, breakDown, eq, bottom]
  by_cases connects : kind = .connect
  · rw [if_pos (congrArg some connects)]
    exact .failed (congrArg some connects) (by decide) rfl rfl
  · rw [if_neg (mt Option.some.inj connects)]
    have others := minds.not_disconnect fits again
    have kept := minds.step conforms fits env connects others
    have session : after.session = (turn.step env).desk.session := doubts.session
    refine .kept (mt Option.some.inj connects) (mt Option.some.inj others) ?_ ?_
    · exact (congrArg Session.server session).trans kept.1
    · exact (congrArg Session.connected session).trans kept.2

/-- While the command waits, a connection is being made or closed, or left alone. -/
theorem Turn.Minds.waits (minds : turn.Minds kind origin) (conforms : Transport.Conforms good)
    (fits : turn.Fits good) (moored : turn.Moored good)
    (wait : (turn.step env).reply = .wouldBlock) :
    Session.Changes call (some kind) .wouldBlock origin (turn.step env).desk.session
      ((turn.step env).operation :: turn.below) := by
  have under : Turn.FitsBelow (turn.step env).operation turn.below :=
    fits.below.succeeds (Turn.step_succeeds env turn)
  by_cases closes : kind = .disconnect
  · subst closes
    obtain ⟨-, ⟨-, same⟩ | ⟨ok, -⟩⟩ := minds.step_of_disconnect fits env
    · exact .closing rfl rfl same (List.cons_ne_nil _ _)
    · exact absurd (ok.symm.trans wait) Reply.ok_ne_wouldBlock
  · by_cases connects : kind = .connect
    · have stepped := moored.step conforms env
      have stands : ∀ op ∈ (turn.step env).operation :: turn.below,
          op.Moored (turn.step env).desk.past (turn.step env).desk.session :=
        List.forall_mem_cons.2 ⟨stepped.moored (.inr wait), stepped.others⟩
      obtain ⟨operation, mem, last, -⟩ := Engine.exists_bottom under
      have bottom := minds.bottom_step env
      rw [last, connects] at bottom
      have down := (stands operation mem).down (Option.some.inj bottom)
      exact .connecting (congrArg some connects) rfl down (under.isConnecting stands down)
    · have kept := minds.step conforms fits env connects closes
      exact .kept (mt Option.some.inj connects) (mt Option.some.inj closes) kept.1 kept.2

/-- A command that ends leaves a connection where it was to connect and has, nothing where it was to
connect or to disconnect otherwise, and what it found where it was to do anything else. -/
theorem Turn.Minds.finishes (minds : turn.Minds kind origin) (conforms : Transport.Conforms good)
    (fits : turn.Fits good) (wait : (turn.step env).reply ≠ .wouldBlock) (empty : turn.below = []) :
    Session.Changes call (some kind) (turn.step env).reply origin
      ((turn.step env).desk.session.afterEnd (turn.step env).operation.kind (turn.step env).reply)
      [] := by
  have own : turn.top.kind = kind := by
    have bottom := minds.bottom
    rw [empty] at bottom
    exact Option.some.inj bottom
  have same : (turn.step env).operation.kind = kind :=
    (Operation.step_kind env turn.event turn.top _).trans own
  rw [same]
  by_cases closes : kind = .disconnect
  · subst closes
    obtain ⟨-, ⟨blocks, -⟩ | ⟨ok, -⟩⟩ := minds.step_of_disconnect fits env
    · exact absurd blocks wait
    · exact .closed rfl ok (if_pos (.inr rfl)) rfl
  · by_cases connects : kind = .connect
    · subst connects
      by_cases ok : (turn.step env).reply = .ok
      · refine .connected rfl ok ?_ rfl
        rw [Session.afterEnd_of_plain]
        · exact Turn.connected_of_ok conforms fits own ok
        · rintro (⟨-, failed⟩ | closing)
          · exact failed ok
          · exact closes closing
      · exact .failed rfl ok (if_pos (.inl ⟨rfl, ok⟩)) rfl
    · rw [Session.afterEnd_of_plain]
      · have kept := minds.step conforms fits env connects closes
        exact .kept (mt Option.some.inj connects) (mt Option.some.inj closes) kept.1 kept.2
      · rintro (⟨connecting, -⟩ | closing)
        · exact connects connecting
        · exact closes closing

/-- What a call that drives the stack makes of the session. -/
theorem Turn.Minds.drive {first : Turn τ Operation} (minds : first.Minds kind origin)
    (conforms : Transport.Conforms good) (fits : first.Fits good) (moored : first.Moored good) :
    Session.Changes call (some kind) (first.drive env).reply origin (first.drive env).desk.session
      (first.drive env).stack := by
  refine Turn.Fits.rule (P := fun turn => turn.Moored good ∧ turn.Minds kind origin)
    (Q := fun outcome =>
      Session.Changes call (some kind) outcome.reply origin outcome.desk.session outcome.stack)
    conforms.neverGoesOn ?_ ?_ fits ⟨moored, minds⟩
  · rintro turn after fits ⟨moored, minds⟩ next
    exact ⟨moored.next conforms next, minds.next conforms fits next⟩
  · rintro turn outcome fits ⟨moored, minds⟩ next
    have does := Turn.step_does conforms fits.transport env
    rcases Step.next_eq_inl next with ⟨again, -, rfl⟩ | ⟨stops, child, asked, -⟩ |
      ⟨wait, -, rfl⟩ | ⟨-, wait, -, empty, rfl⟩
    · exact minds.givesUp conforms fits again
    · exact absurd (does.waitsFor asked).1 stops
    · exact minds.waits conforms fits moored wait
    · obtain ⟨text, finished⟩ := finish_eq (HasKind.kind (turn.step env).operation)
        (turn.step env).reply (turn.step env).noted
      rw [finished]
      exact minds.finishes conforms fits wait empty

end Turns

/-! ## From call to call -/

namespace Engine

variable {τ : Type} [Transport τ] {good : Transport.States τ} {engine : Engine τ Operation}
  {call : Call}

/-- The kind of the command a call is about: the command that it starts, or else the one in
progress. A call that starts nothing because the command is refused is about none. -/
def concerned (engine : Engine τ Operation) : Call → Option CommandKind
  | .execute command => (engine.accept command).toOption.map Operation.kind
  | .resume | .cancel | .connectionLost => engine.stack.getLast?.map Operation.kind

omit [Transport τ] in
theorem concerned_of_accepted {command : Command} {operation : Operation}
    (accepted : engine.accept command = .ok operation) :
    engine.concerned (.execute command) = some operation.kind := by
  rw [concerned, accepted]
  rfl

/-- A call that drives nothing and gives nothing up is about no command. -/
theorem concerned_of_not_opened (h : engine.opening call = none) (stays : call ≠ .cancel)
    (found : call ≠ .connectionLost) : engine.concerned call = none := by
  cases call with
  | execute command =>
      unfold Engine.opening at h
      cases accepted : engine.accept command with
      | error refusal =>
          rw [concerned, accepted]
          rfl
      | ok operation => simp [accepted] at h
  | resume =>
      rw [concerned, stack_of_not_resumed h]
      rfl
  | cancel => exact absurd rfl stays
  | connectionLost => exact absurd rfl found

/-- A call that drives the stack is about some command. -/
theorem minds_of_opening {first : Turn τ Operation} (h : engine.opening call = some first) :
    ∃ kind, engine.concerned call = some kind ∧ first.Minds kind engine.session := by
  rcases opening_eq_some h with ⟨command, operation, rfl, accepted, rfl⟩ |
    ⟨top, below, rfl, stack, rfl⟩
  · refine ⟨_, concerned_of_accepted accepted, rfl, ?_, ?_, ?_⟩
    all_goals exact fun _ => rfl
  · rw [concerned, stack, List.getLast?_cons, Option.map_some]
    refine ⟨_, rfl, ?_, ?_, ?_, ?_⟩
    · exact congrArg (Option.map Operation.kind) List.getLast?_cons
    all_goals exact fun _ => rfl

/-- What giving up the command in progress makes of the session. -/
theorem cancel_changes (engine : Engine τ Operation) :
    Session.Changes .cancel (engine.concerned .cancel) engine.cancel.1 engine.session
      engine.cancel.2.session engine.cancel.2.stack := by
  rw [concerned]
  unfold cancel
  by_cases busy : engine.isBusy = true
  · rw [if_pos busy]
    obtain ⟨after, doubts, eq⟩ := abandon_doubts engine.env engine.stack
      ((engine.desk.record .canceled).note .info "Command canceled")
    have same : after.session = engine.session := doubts.session
    change Session.Changes _ _ .canceled _ (abandon _ _ _).session []
    rw [eq]
    by_cases connects : engine.stack.getLast?.map HasKind.kind = some .connect
    · rw [if_pos connects]
      exact .failed connects (by decide) rfl rfl
    · rw [if_neg connects]
      by_cases closes : engine.stack.getLast?.map Operation.kind = some .disconnect
      · exact .recalled closes rfl rfl same rfl
      · exact .kept connects closes (congrArg Session.server same)
          (congrArg Session.connected same)
  · rw [if_neg busy]
    have empty : engine.stack = [] := by simpa [isBusy] using busy
    rw [empty]
    exact .kept (Option.some_ne_none _).symm (Option.some_ne_none _).symm rfl rfl

theorem connectionLost_forgets (engine : Engine τ Operation) :
    engine.connectionLost.2.session = {} ∧ engine.connectionLost.2.stack = [] := by
  unfold connectionLost
  by_cases busy : engine.isBusy = true
  · rw [if_pos busy]
    exact ⟨rfl, rfl⟩
  · rw [if_neg busy]
    exact ⟨rfl, by simpa [isBusy] using busy⟩

theorem make_changes (conforms : Transport.Conforms good) (reachable : engine.Reachable good)
    (call : Call) (may : engine.MayMake good call) (found : call ≠ .connectionLost) :
    Session.Changes call (engine.concerned call) (engine.make call).1 engine.session
      (engine.make call).2.session (engine.make call).2.stack := by
  cases opened : engine.opening call with
  | some first =>
      obtain ⟨kind, concerned, minds⟩ := minds_of_opening opened
      rw [make_of_opening opened, concerned]
      have rests := rests_of_reachable conforms.neverGoesOn reachable
      exact minds.drive conforms (rests.opening may opened)
        ((moored_of_reachable conforms reachable).opening opened)
  | none =>
      by_cases stays : call = .cancel
      · subst stays
        exact engine.cancel_changes
      · obtain ⟨reply, desk, made, -, same⟩ := make_of_not_opened opened stays found
        have kept : desk.session = engine.session := by
          rcases same with rfl | ⟨level, text, rfl⟩
          · rfl
          · rfl
        rw [made, concerned_of_not_opened opened stays found]
        exact .kept nofun nofun (congrArg Session.server kept) (congrArg Session.connected kept)

/-- In every run over a transport that keeps to its contract, between any two calls: where there is
a connection the server is known, where a directory is known there is a connection, and it is a
directory; if nothing is to be done, the server is known exactly if there is a connection; and if
there is none, nothing is to be done but to connect, nor is anything else done in the course of a
call. A call makes of the session what its command is for, and it makes it connected only if it
brings a command to connect to a good end; the report that the connection is lost ends
everything. -/
theorem session_coherent (conforms : Transport.Conforms good) (reachable : engine.Reachable good) :
    engine.session.Sensible ∧
      (engine.stack = [] →
        (engine.session.server.isSome = true ↔ engine.session.connected = true)) ∧
      (engine.session.connected = false → engine.stack = [] ∨ IsConnecting engine.stack) ∧
      (∀ call turn, engine.Takes call turn → turn.desk.session.connected = false →
        IsConnecting (turn.top :: turn.below)) ∧
      (∀ call, engine.MayMake good call → call ≠ .connectionLost →
        Session.Changes call (engine.concerned call) (engine.make call).1 engine.session
          (engine.make call).2.session (engine.make call).2.stack) ∧
      (∀ call, engine.MayMake good call → engine.session.connected = false →
        (engine.make call).2.session.connected = true →
          engine.concerned call = some .connect ∧ (engine.make call).1 = .ok ∧
            (engine.make call).2.stack = []) ∧
      engine.connectionLost.2.session = {} ∧ engine.connectionLost.2.stack = [] := by
  have moored := moored_of_reachable conforms reachable
  refine ⟨moored.sensible, ?_, ?_, ?_, ?_, ?_, engine.connectionLost_forgets⟩
  · intro empty
    rcases moored.rest empty with forgotten | ⟨connected, -⟩
    · rw [session, forgotten]
      exact ⟨nofun, nofun⟩
    · exact ⟨fun _ => connected, fun _ => moored.sensible.server connected⟩
  · intro down
    cases stack : engine.stack with
    | nil => exact .inl rfl
    | cons top below =>
        exact .inr ((moored.below top below stack).isConnecting (stack ▸ moored.moored) down)
  · rintro call turn ⟨first, opened, leads⟩ down
    have stands : turn.Moored good := leads.keeps
      (fun turn after moored next => moored.next conforms next) (moored.opening opened)
    exact stands.isConnecting down
  · exact make_changes conforms reachable
  · intro call may down up
    by_cases lost : call = .connectionLost
    · subst lost
      have forgotten : (engine.make .connectionLost).2.session = {} :=
        engine.connectionLost_forgets.1
      rw [forgotten] at up
      cases up
    · exact (make_changes conforms reachable call may lost).connects down up

/-- An engine over a transport with which nothing succeeds. -/
def unlucky : Engine Scripted Operation :=
  { desk := { transport := { lastResult := .error } } }

/-- While it is waited for the next attempt to connect, that is all there is to be done. -/
theorem session_coherent_pausing :
    ∃ engine : Engine Scripted Operation, engine.Reachable Scripted.IsConforming ∧
      engine.stack.length = 2 ∧ IsConnecting engine.stack := by
  have run : (unlucky.after connecting).Reachable Scripted.IsConforming :=
    Run.after (.fresh ⟨rfl, rfl, rfl⟩ (.of_unscripted rfl rfl rfl ⟨by decide, by decide⟩)) _
  have two : (unlucky.after connecting).stack.length = 2 := by decide +kernel
  refine ⟨_, run, two, ?_⟩
  rcases (session_coherent Scripted.conforms run).2.2.1 (by decide +kernel) with empty | connecting
  · rw [empty] at two
    cases two
  · exact connecting

end Engine

end Courier
