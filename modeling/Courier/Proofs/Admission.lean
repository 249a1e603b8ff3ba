import Courier.Proofs.Requests

/-!
# Which commands are started

A command is refused for the first of five reasons that applies: another one is in progress, it is
not valid, there is a connection already, there is none, or it is not one for this connection. A
command that is refused leaves a note and nothing else. Any other is started, as one operation of
the command's kind.

What is asked of the session is whether it is connected. The protocol is that of the server the
session names, so in every state that comes up a session that is connected has to name one. This is
where the operations come in: only connecting makes a session connected, and whoever is connecting
has named the server before.
-/

namespace Courier

/-! ## The reasons -/

/-- Why a command is not started, and with which reply. A reason counts where none of those before
it applies. -/
inductive Engine.Objection {τ : Type} (engine : Engine τ Operation) (command : Command) :
    Reply → Prop
  | busy (busy : engine.stack ≠ []) : Objection engine command .busy
  | invalid (idle : engine.stack = []) (invalid : command.valid = false) :
      Objection engine command .syntaxError
  | alreadyConnected (idle : engine.stack = []) (valid : command.valid = true)
      (connects : command.kind = .connect) (up : engine.session.connected = true) :
      Objection engine command .alreadyConnected
  | notConnected (idle : engine.stack = []) (valid : command.valid = true)
      (other : command.kind ≠ .connect) (down : engine.session.connected = false) :
      Objection engine command .notConnected
  /-- Requests over HTTP are served by nothing. -/
  | http (idle : engine.stack = []) (valid : command.valid = true)
      (up : engine.session.connected = true) (http : command.kind = .httpRequest) :
      Objection engine command .notSupported
  /-- Everything but the connection itself is there for one protocol only. -/
  | foreign (idle : engine.stack = []) (valid : command.valid = true)
      (up : engine.session.connected = true) (other : command.kind ≠ .connect)
      (others : command.kind ≠ .disconnect) {server : Server}
      (ours : engine.session.server = some server) (foreign : server.protocol ≠ .sftp) :
      Objection engine command .notSupported

/-! ## The server of a connection -/

/-- Where there is a connection, or one of the operations is making one, the server is known. -/
structure Session.IsNamed (session : Session) (stack : List Operation) : Prop where
  server : session.connected = true → session.server.isSome = true
  dialing : ∀ task : ConnectTask, .connect task ∈ stack → task.stage = .connecting →
    session.server.isSome = true

section Names

variable {session after : Session} {stack rest : List Operation}

theorem Session.IsNamed.keeps (named : session.IsNamed stack)
    (server : after.server = session.server) (connected : after.connected = session.connected)
    (fewer : ∀ task : ConnectTask, .connect task ∈ rest → .connect task ∈ stack) :
    after.IsNamed rest := by
  constructor
  · intro up
    rw [connected] at up
    rw [server]
    exact named.server up
  · intro task mem stage
    rw [server]
    exact named.dialing task (fewer task mem) stage

/-- A session that is forgotten is not connected. -/
theorem Session.isNamed_forgotten : ({} : Session).IsNamed [] := by
  constructor
  · intro up
    cases up
  · intro task mem
    cases mem

theorem Session.IsNamed.ended (named : session.IsNamed stack) : session.IsNamed [] :=
  named.keeps rfl rfl fun _ mem => absurd mem List.not_mem_nil

theorem Session.IsNamed.afterEnd (named : session.IsNamed stack) (kind : CommandKind)
    (reply : Reply) : (session.afterEnd kind reply).IsNamed [] := by
  unfold Session.afterEnd
  split
  · exact Session.isNamed_forgotten
  · exact named.ended

end Names

variable {τ : Type} [Transport τ] {desk : Desk τ Operation}

theorem Session.IsNamed.abandon {stack : List Operation} (named : desk.session.IsNamed stack)
    (env : Env) (operations : List Operation) :
    (abandon env operations desk).session.IsNamed [] := by
  obtain ⟨after, doubts, eq⟩ := abandon_doubts env operations desk
  rw [eq]
  split
  · exact Session.isNamed_forgotten
  · show after.session.IsNamed []
    rw [doubts.session]
    exact named.ended

/-! ### Steps -/

namespace ConnectTask

theorem send_isNamed (task : ConnectTask) (named : desk.session.IsNamed [.connect task]) :
    (task.send desk).desk.session.IsNamed [.connect (task.send desk).operation] := by
  unfold send
  split
  · -- the server is named, and the attempt begins
    constructor
    · intro up
      cases up
    · intro _ _ _
      rfl
  · exact named
  · exact named

theorem completed_isNamed (env : Env) (task : ConnectTask)
    (named : desk.session.IsNamed [.connect task]) :
    (task.completed env desk).desk.session.IsNamed
      [.connect (task.completed env desk).operation] := by
  have server : task.stage = .connecting → desk.session.server.isSome = true :=
    named.dialing task List.mem_cons_self
  unfold completed
  split
  · rename_i stage
    simp only
    split
    · exact ⟨fun _ => server stage, fun _ _ _ => server stage⟩
    · split
      · exact named
      · split
        · exact named
        · constructor
          · intro _
            simpa [Desk.answer, Desk.sleep] using server stage
          · intro _ _ _
            simpa [Desk.answer, Desk.sleep] using server stage
  · exact named
  · exact named

omit [Transport τ] in
theorem returned_isNamed (reply : Reply) (finished : Operation) (task : ConnectTask)
    (named : desk.session.IsNamed [.connect task]) :
    (task.returned reply finished desk).desk.session.IsNamed
      [.connect (task.returned reply finished desk).operation] := by
  unfold returned
  split
  · split
    · -- the next attempt is only about to begin
      constructor
      · exact named.server
      · intro other mem stage
        obtain rfl := Operation.connect.inj (List.mem_singleton.1 mem)
        cases stage
    · exact named
  · exact named

end ConnectTask

namespace Operation

/-- Disconnecting forgets the session or leaves it as it is. -/
theorem step_session_of_disconnect (env : Env) (event : Event Operation) (task : DisconnectTask)
    (desk : Desk τ Operation) :
    (step env event (disconnect task) desk).desk.session = desk.session ∨
      (step env event (disconnect task) desk).desk.session = {} := by
  cases event with
  | send =>
      show (task.send desk).desk.session = _ ∨ (task.send desk).desk.session = _
      unfold DisconnectTask.send
      split
      · exact .inl rfl
      · simp only
        split
        · exact .inl rfl
        · exact .inr rfl
  | completed =>
      show (task.completed desk).desk.session = _ ∨ (task.completed desk).desk.session = _
      unfold DisconnectTask.completed
      split
      · exact .inr rfl
      · exact .inl rfl
  | returned reply finished => exact .inl rfl

/-- The operations that make or close the connection keep the server known, each alone on the
stack. -/
theorem step_isNamed_of_connection (env : Env) (event : Event Operation) {operation : Operation}
    (connection : operation.isConnection = true) (named : desk.session.IsNamed [operation]) :
    (step env event operation desk).desk.session.IsNamed
      [(step env event operation desk).operation] := by
  cases operation with
  | connect task =>
      cases event with
      | send => exact task.send_isNamed named
      | completed => exact task.completed_isNamed env named
      | returned reply finished => exact task.returned_isNamed reply finished named
  | disconnect task =>
      have closing : (step env event (.disconnect task) desk).operation.kind = .disconnect :=
        step_kind env event _ desk
      have other : ∀ after : ConnectTask,
          .connect after ∉ [(step env event (.disconnect task) desk).operation] := by
        intro after mem
        rw [← List.mem_singleton.1 mem] at closing
        cases closing
      rcases step_session_of_disconnect env event task desk with same | forgotten
      · rw [same]
        exact named.keeps rfl rfl fun after mem => absurd mem (other after)
      · rw [forgotten]
        exact Session.isNamed_forgotten.keeps rfl rfl fun after mem => absurd mem (other after)
  | _ => cases connection

end Operation

/-! ### Turns and calls -/

namespace Turn

variable {turn after : Turn τ Operation} {env : Env}

/-- The server is known, and the operations below fit the topmost one. -/
structure Names (turn : Turn τ Operation) : Prop where
  below : FitsBelow turn.top turn.below
  named : turn.desk.session.IsNamed (turn.top :: turn.below)

theorem Names.step (names : turn.Names) (env : Env) :
    (turn.step env).desk.session.IsNamed ((turn.step env).operation :: turn.below) := by
  by_cases connection : turn.top.isConnection = true
  · have alone := names.below.of_isConnection connection
    have named := names.named
    rw [alone] at named ⊢
    refine Operation.step_isNamed_of_connection env turn.event connection ?_
    exact named
  · -- everything else leaves the connection alone, and is not connecting after the step either
    have plain : turn.top.isConnection = false := Bool.eq_false_iff.2 connection
    have stays := (step_does Transport.answers_somehow trivial env).session plain
    refine names.named.keeps stays.server stays.connected ?_
    intro task mem
    rcases List.mem_cons.1 mem with made | mem
    · have same := Operation.step_kind env turn.event turn.top { turn.desk with pending := none }
      have connects : (turn.step env).operation.kind = .connect := by
        rw [← made]
        rfl
      exact absurd (Operation.isConnection_iff.2 (.inl (same.symm.trans connects))) connection
    · exact List.mem_cons_of_mem _ mem

theorem Names.next (names : turn.Names) (next : turn.next env = .inr after) : after.Names := by
  refine ⟨names.below.next Transport.answers_somehow trivial next, ?_⟩
  have named := names.step env
  rcases Step.next_eq_inr next with ⟨-, left, -, rfl⟩ | ⟨-, -, -, parent, rest, eq, rfl⟩
  · cases pending : (turn.step env).desk.pending with
    | some child =>
        rw [Step.onward_of_asks pending]
        refine named.keeps rfl rfl ?_
        intro task mem
        rcases List.mem_cons.1 mem with made | mem
        · -- nobody asks for a connection
          obtain ⟨-, waits, -⟩ :=
            (step_does Transport.answers_somehow trivial env).waitsFor pending
          obtain rfl : .connect task = child := made
          exact waits.elim
        · exact mem
    | none =>
        rw [Step.onward_of_silent pending]
        exact named
  · rw [eq] at named
    exact named.keeps rfl rfl fun task mem => List.mem_cons_of_mem _ mem

theorem Names.drive (names : turn.Names) (env : Env) :
    (turn.drive env).desk.session.IsNamed (turn.drive env).stack ∧
      ∀ top below, (turn.drive env).stack = top :: below → FitsBelow top below := by
  refine Turn.rule (P := Names) (Q := fun outcome =>
    outcome.desk.session.IsNamed outcome.stack ∧
      ∀ top below, outcome.stack = top :: below → FitsBelow top below) ?_ ?_ names
  · intro turn after names next
    exact names.next next
  · intro turn outcome names next
    have named := names.step env
    have broken (text : String) (operations : List Operation) : Session.IsNamed
        (abandon env operations ((turn.step env).noted.note .error text)).session [] := by
      have same : ((turn.step env).noted.note .error text).session.IsNamed
        ((turn.step env).operation :: turn.below) := named
      exact same.abandon env operations
    rcases Step.next_eq_inl next with ⟨-, -, rfl⟩ | ⟨-, child, -, rfl⟩ | ⟨-, -, rfl⟩ |
      ⟨-, -, -, -, rfl⟩
    · exact ⟨broken _ _, fun _ _ empty => by cases empty⟩
    · exact ⟨broken _ _, fun _ _ empty => by cases empty⟩
    · refine ⟨named, ?_⟩
      rintro top below ⟨⟩
      exact names.below.succeeds (step_succeeds env turn)
    · obtain ⟨text, finished⟩ := finish_eq (HasKind.kind (turn.step env).operation)
        (turn.step env).reply (turn.step env).noted
      rw [finished]
      exact ⟨named.afterEnd _ _, fun _ _ empty => by cases empty⟩

end Turn

/-! ### What goes on record while the stack is driven -/

/-- Something that operations do at their desk. -/
def Happening.isDeed (happening : Happening) : Bool :=
  happening.isWork || happening.answer?.isSome

theorem Happening.isDeed_of_isWork {happening : Happening} (work : happening.isWork = true) :
    happening.isDeed = true := Bool.or_eq_true_iff.2 (.inl work)

theorem Happening.isDeed_of_isDoubt {happening : Happening} (doubt : happening.isDoubt = true) :
    happening.isDeed = true := by
  cases happening <;> first | rfl | cases doubt

/-- From one history to a later one, operations did things. -/
def Deeds (before after : List Happening) : Prop :=
  ∃ deeds, (∀ happening ∈ deeds, happening.isDeed = true) ∧ after = deeds ++ before

namespace Deeds

variable {before middle after deeds : List Happening}

theorem refl (past : List Happening) : Deeds past past := ⟨[], List.forall_mem_nil _, rfl⟩

theorem trans (first : Deeds before middle) (second : Deeds middle after) : Deeds before after := by
  obtain ⟨former, formerAll, rfl⟩ := first
  obtain ⟨later, laterAll, rfl⟩ := second
  refine ⟨later ++ former, ?_, (List.append_assoc ..).symm⟩
  intro happening mem
  rcases List.mem_append.1 mem with mem | mem
  · exact laterAll happening mem
  · exact formerAll happening mem

omit [Transport τ] in
theorem of_works {operation : Operation} {good : Transport.States τ} {start desk : Desk τ Operation}
    (works : start.Works good operation desk) : Deeds start.past desk.past := by
  obtain ⟨made, all, past⟩ := works.past
  exact ⟨made, fun happening mem => Happening.isDeed_of_isWork (all happening mem), past⟩

theorem step (env : Env) (turn : Turn τ Operation) :
    Deeds turn.desk.past (turn.step env).desk.past := by
  show Deeds ({ turn.desk with pending := none } : Desk τ Operation).past _
  cases turn.step_does Transport.answers_somehow trivial env with
  | rests works => exact of_works works
  | asks works again waits acts asked =>
      rw [asked, Desk.request_past]
      exact of_works works
  | @requests before request works own waits past pending transport session =>
      refine (of_works works).trans ⟨[request], ?_, past⟩
      intro happening mem
      obtain rfl := List.mem_singleton.1 mem
      cases happening <;> first | rfl | cases own

theorem breakDown (env : Env) (text : String) (stack : List Operation) (desk : Desk τ Operation) :
    Deeds desk.past (breakDown env text stack desk).desk.past := by
  obtain ⟨doubts, all, past⟩ := Engine.abandon_past env stack (desk.note .error text)
  exact ⟨doubts, fun happening mem => Happening.isDeed_of_isDoubt (all happening mem), past⟩

end Deeds

/-- Driving the stack puts on record what operations do, and nothing else. -/
theorem Turn.drive_deeds (env : Env) (first : Turn τ Operation) :
    Deeds first.desk.past (first.drive env).desk.past := by
  refine Turn.rule (P := fun turn => Deeds first.desk.past turn.desk.past)
    (Q := fun outcome => Deeds first.desk.past outcome.desk.past) ?_ ?_ (.refl _)
  · intro turn after so next
    have done := so.trans (.step env turn)
    rcases Step.next_eq_inr next with ⟨-, left, -, rfl⟩ | ⟨-, -, -, parent, rest, -, rfl⟩
    · unfold Step.onward
      cases (turn.step env).noted.pending <;> exact done
    · exact done
  · intro turn outcome so next
    have done := so.trans (.step env turn)
    rcases Step.next_eq_inl next with ⟨-, -, rfl⟩ | ⟨-, child, -, rfl⟩ | ⟨-, -, rfl⟩ |
      ⟨-, -, -, -, rfl⟩
    · exact done.trans (.breakDown env _ _ (turn.step env).noted)
    · exact done.trans (.breakDown env _ _ (turn.step env).noted)
    · exact done
    · obtain ⟨text, finished⟩ := finish_eq (HasKind.kind (turn.step env).operation)
        (turn.step env).reply (turn.step env).noted
      rw [finished]
      exact done

/-! ## In every state -/

namespace Engine

variable {good : Transport.States τ} {engine : Engine τ Operation} {command : Command}
  {reply : Reply}

/-- The server is known where it has to be, and the stack is one that calls leave behind. -/
structure IsNamed (engine : Engine τ Operation) : Prop where
  below : ∀ top below, engine.stack = top :: below → Turn.FitsBelow top below
  named : engine.session.IsNamed engine.stack

theorem IsNamed.opening (names : engine.IsNamed) {call : Call} {first : Turn τ Operation}
    (h : engine.opening call = some first) : first.Names := by
  rcases opening_eq_some h with ⟨command, operation, rfl, accepted, rfl⟩ |
    ⟨top, below, rfl, stack, rfl⟩
  · obtain ⟨-, -, protocol, -, offered⟩ := accept_eq_ok accepted
    refine ⟨.inl ⟨rfl, (Operation.ofCommand?_eq_some offered).2⟩, names.named.server, ?_⟩
    intro task mem stage
    obtain rfl := List.mem_singleton.1 mem
    -- a command to connect has not called the server yet
    exact absurd ((Operation.ofCommand?_eq_some offered).1) (by simp [Operation.acts, stage])
  · exact ⟨names.below top below stack, stack ▸ names.named⟩

omit [Transport τ] in
theorem IsNamed.of_idle (idle : engine.stack = []) (named : engine.session.IsNamed []) :
    engine.IsNamed := by
  refine ⟨?_, idle ▸ named⟩
  intro top below stack
  rw [idle] at stack
  cases stack

theorem IsNamed.make (names : engine.IsNamed) (call : Call) : (engine.make call).2.IsNamed := by
  refine make_rule (P := IsNamed) call ?_ ?_ ?_ names ?_
  · intro first opened
    obtain ⟨named, below⟩ := (names.opening opened).drive engine.env
    exact ⟨below, named⟩
  · refine .of_idle (isBusy_eq_false_iff.1 engine.cancel_idle) ?_
    unfold cancel
    split
    · have canceled : ((engine.desk.record .canceled).note .info
          "Command canceled").session.IsNamed engine.stack := names.named
      exact canceled.abandon engine.env engine.stack
    · exact names.named.ended
  · refine .of_idle (isBusy_eq_false_iff.1 engine.connectionLost_idle) ?_
    unfold connectionLost
    split
    · exact Session.isNamed_forgotten
    · exact Session.isNamed_forgotten
  · intro level text
    exact ⟨names.below, names.named⟩

omit [Transport τ] in
theorem IsNamed.drifts {after : Engine τ Operation} (names : engine.IsNamed)
    (drifts : engine.Drifts good after) : after.IsNamed := by
  have same : after.session = engine.session := drifts.session
  rcases drifts.stack with stack | ⟨top, below, channel, before, -, now⟩
  · refine ⟨?_, ?_⟩
    · rw [stack]
      exact names.below
    · rw [same, stack]
      exact names.named
  · have fits := names.below top below before
    have kind : (top.withChannel channel).kind = top.kind := by cases top <;> rfl
    refine ⟨?_, ?_⟩
    · rw [now]
      rintro _ _ ⟨⟩
      rcases fits with ⟨rfl, command⟩ | ⟨parent, rfl, waits⟩
      · exact .inl ⟨rfl, by cases top <;> first | rfl | cases command⟩
      · exact .inr ⟨parent, rfl, by cases top <;> exact waits⟩
    · rw [same, now]
      refine names.named.keeps rfl rfl ?_
      intro task mem
      rw [before]
      rcases List.mem_cons.1 mem with made | mem
      · cases top <;> first | exact made ▸ List.mem_cons_self | cases made
      · exact List.mem_cons_of_mem _ mem

theorem isNamed_of_reachable (reachable : engine.Reachable good) : engine.IsNamed := by
  induction reachable with
  | fresh new transport =>
      refine .of_idle new.stack ?_
      rw [session, new.session]
      exact Session.isNamed_forgotten
  | call _ call _ ih => exact ih.make call
  | wait _ drifts ih => exact ih.drifts drifts

/-! ## The decision -/

section Decision

variable {session : Session}

omit [Transport τ] in
theorem protocolFor_of_down (other : command.kind ≠ .connect) (down : session.connected = false) :
    protocolFor session command = .error .notConnected := by
  cases command with
  | connect request => exact absurd rfl other
  | _ =>
      unfold protocolFor
      cases session.server with
      | some server => exact if_neg (by simp [down])
      | none => rfl

omit [Transport τ] in
theorem protocolFor_of_up (other : command.kind ≠ .connect) (up : session.connected = true)
    {server : Server} (ours : session.server = some server) :
    protocolFor session command = .ok server.protocol := by
  cases command with
  | connect request => exact absurd rfl other
  | _ =>
      unfold protocolFor
      rw [ours]
      exact if_pos up

omit [Transport τ] in
/-- An idle engine looks a valid command up among what it can do over the protocol. -/
theorem accept_of_protocol (idle : engine.stack = []) (valid : command.valid = true)
    {protocol : Protocol} (served : protocolFor engine.session command = .ok protocol) :
    engine.accept command =
      match Operation.ofCommand? command protocol with
      | some operation => .ok operation
      | none => .error (.notSupported protocol) := by
  unfold accept
  rw [if_neg (by simpa [isBusy] using idle), if_neg (by simpa using valid), served]
  have same : Behaviour.ofCommand? command protocol = Operation.ofCommand? command protocol := rfl
  simp only [same]
  cases Operation.ofCommand? command protocol with
  | some operation => rfl
  | none => rfl

/-- A command that is refused leaves a note at most. -/
theorem execute_of_refusal {refusal : Refusal} (refused : engine.accept command = .error refusal) :
    ∃ desk, engine.desk.Quiet desk ∧
      engine.execute command = (refusal.reply, { engine with desk }) := by
  unfold execute
  simp only [refused]
  refine ⟨_, ?_, rfl⟩
  split
  · exact .note (.refl _) _ _
  · exact .refl _

omit [Transport τ] in
/-- Where there is an objection the command is refused with the reply it calls for. -/
theorem accept_of_objection (names : engine.IsNamed) (objection : engine.Objection command reply) :
    ∃ refusal, engine.accept command = .error refusal ∧ refusal.reply = reply := by
  cases objection with
  | busy busy => exact ⟨.busy, accept_of_busy (isBusy_eq_true_iff.2 busy) command, rfl⟩
  | invalid idle invalid =>
      refine ⟨.invalid, ?_, rfl⟩
      unfold accept
      rw [if_neg (by simpa [isBusy] using idle), if_pos (by simpa using invalid)]
  | alreadyConnected idle valid connects up =>
      refine ⟨.alreadyConnected, ?_, rfl⟩
      cases command with
      | connect request =>
          have refused : protocolFor engine.session (.connect request) =
              .error .alreadyConnected := if_pos up
          unfold accept
          rw [if_neg (by simpa [isBusy] using idle), if_neg (by simpa using valid), refused]
      | _ => cases connects
  | notConnected idle valid other down =>
      refine ⟨.notConnected, ?_, rfl⟩
      unfold accept
      rw [if_neg (by simpa [isBusy] using idle), if_neg (by simpa using valid),
        protocolFor_of_down other down]
  | http idle valid up http =>
      -- a session that is connected names a server, whose protocol is looked up in vain
      obtain ⟨server, ours⟩ := Option.isSome_iff_exists.1 (names.named.server up)
      have other : command.kind ≠ .connect := by
        rw [http]
        decide
      refine ⟨.notSupported server.protocol, ?_, rfl⟩
      rw [accept_of_protocol idle valid (protocolFor_of_up other up ours)]
      cases command with
      | http request => cases server.protocol <;> rfl
      | _ => cases http
  | @foreign idle valid up other others server ours foreign =>
      refine ⟨.notSupported server.protocol, ?_, rfl⟩
      rw [accept_of_protocol idle valid (protocolFor_of_up other up ours)]
      cases protocol : server.protocol with
      | sftp => exact absurd protocol foreign
      | _ =>
          cases command with
          | connect request => exact absurd rfl other
          | disconnect => exact absurd rfl others
          | _ => rfl

omit [Transport τ] in
/-- Where there is none the command is accepted, as an operation of its kind. -/
theorem accept_of_no_objection (names : engine.IsNamed)
    (fine : ∀ reply, ¬engine.Objection command reply) :
    ∃ operation, engine.accept command = .ok operation ∧ operation.kind = command.kind := by
  have idle : engine.stack = [] := by
    by_contra busy
    exact fine _ (.busy busy)
  have valid : command.valid = true := by
    by_contra invalid
    exact fine _ (.invalid idle (Bool.eq_false_iff.2 invalid))
  by_cases connects : command.kind = .connect
  · have down : ¬engine.session.connected = true := fun up =>
      fine _ (.alreadyConnected idle valid connects up)
    cases command with
    | connect request =>
        have served : protocolFor engine.session (.connect request) =
            .ok request.server.protocol := if_neg down
        exact ⟨.connect { request }, accept_of_protocol idle valid served, rfl⟩
    | _ => cases connects
  · have up : engine.session.connected = true := by
      by_contra down
      exact fine _ (.notConnected idle valid connects (Bool.eq_false_iff.2 down))
    obtain ⟨server, ours⟩ := Option.isSome_iff_exists.1 (names.named.server up)
    have accepted := accept_of_protocol idle valid (protocolFor_of_up connects up ours)
    by_cases closes : command.kind = .disconnect
    · cases command with
      | disconnect => exact ⟨.disconnect {}, accepted, rfl⟩
      | _ => cases closes
    · have sftp : server.protocol = .sftp := by
        by_contra foreign
        exact fine _ (.foreign idle valid up connects closes ours foreign)
      rw [sftp] at accepted
      cases command with
      | connect request => exact absurd rfl connects
      | disconnect => exact absurd rfl closes
      | http request => exact absurd (.http idle valid up rfl) (fine _)
      | _ => exact ⟨_, accepted, rfl⟩

end Decision

/-- In every run over any transport, whatever is to be executed: where there is an objection, the
reply is the one it calls for, and nothing is left of the call but perhaps a note. Where there is
none, the stack is driven with one operation on it, of the kind of the command, and the command
goes on record as started, with what the operations do after it. To report a completion to an idle
engine leaves a note and to cancel there leaves nothing. -/
theorem execute_refuses_or_starts (reachable : engine.Reachable good) :
    (∀ command reply, engine.Objection command reply →
      ∃ desk, engine.desk.Quiet desk ∧
        engine.execute command = (reply, { engine with desk })) ∧
    (∀ command, (∀ reply, ¬engine.Objection command reply) →
      ∃ operation : Operation, operation.kind = command.kind ∧
        engine.opening (.execute command) = some (engine.starting command operation) ∧
        engine.execute command =
          engine.take ((engine.starting command operation).drive engine.env) ∧
        Deeds (.started command :: engine.desk.past) (engine.execute command).2.desk.past) ∧
    (engine.stack = [] →
      (∃ desk, engine.desk.Quiet desk ∧
        engine.resume = (.internalError, { engine with desk })) ∧
      engine.cancel = (.ok, engine)) := by
  have names := isNamed_of_reachable reachable
  refine ⟨?_, ?_, ?_⟩
  · intro command reply objection
    obtain ⟨refusal, refused, rfl⟩ := accept_of_objection names objection
    exact execute_of_refusal refused
  · intro command fine
    obtain ⟨operation, accepted, kind⟩ := accept_of_no_objection names fine
    have opened := opening_of_accepted accepted
    have made : engine.execute command =
        engine.take ((engine.starting command operation).drive engine.env) :=
      make_of_opening opened
    refine ⟨operation, kind, opened, made, ?_⟩
    rw [made]
    exact (engine.starting command operation).drive_deeds engine.env
  · intro idle
    constructor
    · exact ⟨_, .note (.refl _) _ _, resume_of_idle idle⟩
    · unfold cancel
      exact if_neg (by simpa [isBusy] using idle)

/-- On a connection another one is refused, and a listing is started. -/
theorem execute_refuses_or_starts_connected : ∃ engine : Engine Scripted Operation,
    engine.Reachable Scripted.IsConforming ∧
      (∀ request, (Command.connect request).valid = true →
        (engine.execute (.connect request)).1 = .alreadyConnected ∧
          (engine.execute (.connect request)).2.desk.past = engine.desk.past) ∧
      ∃ operation : Operation, operation.kind = .list ∧
        engine.opening (.execute (.list {})) = some (engine.starting (.list {}) operation) := by
  let engine := (rehearsed {}).after connecting
  have run : engine.Reachable Scripted.IsConforming := conforming_reachable _ _
  have idle : engine.stack = [] := isBusy_eq_false_iff.1 (by decide +kernel)
  have up : engine.session.connected = true := by decide +kernel
  have ours : engine.session.server = some stage := by decide +kernel
  obtain ⟨refuses, starts, -⟩ := execute_refuses_or_starts run
  refine ⟨engine, run, ?_, ?_⟩
  · intro request valid
    obtain ⟨desk, quiet, refused⟩ := refuses _ _ (.alreadyConnected idle valid rfl up)
    rw [refused]
    exact ⟨rfl, quiet.past⟩
  · obtain ⟨operation, kind, opened, -⟩ := starts (.list {}) (by
      intro reply objection
      cases objection with
      | busy busy => exact busy idle
      | invalid _ invalid => exact absurd invalid (by decide)
      | alreadyConnected _ _ connects => cases connects
      | notConnected _ _ _ down => exact absurd (up.symm.trans down) (by decide)
      | http _ _ _ http => cases http
      | foreign _ _ _ _ _ known foreign =>
          rw [ours] at known
          exact foreign (by rw [← Option.some.inj known]; rfl))
    exact ⟨operation, kind, opened⟩

end Engine

end Courier
