import Courier.Proofs.Abandon
import Courier.Proofs.Ownership
import Courier.Proofs.Rehearsal
import Courier.Proofs.Settling
import Mathlib.Data.List.Forall2

/-!
# Foreign flags make no difference

Two commands that differ in flags the engine does not own are executed by engines in the same state,
over transports that answer alike. Call by call, whatever their owners do and whatever happens in
between, if only it happens to both, the runs come to the same: the steps do, hence the turns of a
call, hence the calls.
-/

namespace Courier

open List (Forall₂)

variable {τ σ : Type} [Transport τ] [Transport σ] {R : τ → σ → Prop}

/-! ## Turns and calls -/

/-- The calls come to the same. -/
structure Outcome.Alike (R : τ → σ → Prop) (outcome : Outcome τ Operation)
    (twin : Outcome σ Operation) : Prop where
  reply : twin.reply = outcome.reply
  stack : Forall₂ Operation.Akin outcome.stack twin.stack
  desk : outcome.desk.Alike R twin.desk

/-- The turns begin alike. Who asked for what before makes no difference. -/
structure Turn.Alike (R : τ → σ → Prop) (turn : Turn τ Operation) (twin : Turn σ Operation) :
    Prop where
  budget : twin.budget = turn.budget
  below : Forall₂ Operation.Akin turn.below twin.below
  event : turn.event.Akin twin.event
  top : turn.top.Akin twin.top
  desk : Desk.Alike R { turn.desk with pending := none } { twin.desk with pending := none }

omit [Transport τ] [Transport σ] in
theorem Operation.Akin.kinds {stack other : List Operation}
    (akin : Forall₂ Operation.Akin stack other) :
    other.map Operation.kind = stack.map Operation.kind := by
  induction akin with
  | nil => rfl
  | cons first _ ih => rw [List.map_cons, List.map_cons, first.kind, ih]

namespace Desk.Alike

variable {desk : Desk τ Operation} {twin : Desk σ Operation} {stack other : List Operation}

omit [Transport τ] [Transport σ] in
theorem pending_cases (alike : desk.Alike R twin) :
    (desk.pending = none ∧ twin.pending = none) ∨
      ∃ child child', desk.pending = some child ∧ twin.pending = some child' ∧
        child.Akin child' := by
  have asked := alike.pending
  generalize desk.pending = here at asked ⊢
  generalize twin.pending = there at asked ⊢
  rcases asked with akin | _
  · exact .inr ⟨_, _, rfl, rfl, akin⟩
  · exact .inl ⟨rfl, rfl⟩

theorem abandon (akin : Forall₂ Operation.Akin stack other)
    (alike : Desk.Alike R { desk with pending := none } { twin with pending := none })
    (env : Env) : (abandon env stack desk).Alike R (abandon env other twin) := by
  have given : Desk.Alike R
      { stack.foldl (fun desk operation =>
          (Behaviour.cancel env operation { desk with pending := none }).2) desk with
        pending := none }
      { other.foldl (fun desk operation =>
          (Behaviour.cancel env operation { desk with pending := none }).2) twin with
        pending := none } := by
    induction akin generalizing desk twin with
    | nil => exact alike
    | cons first _ ih => exact ih (first.cancel_alike alike).withoutPending
  have kinds : other.getLast?.map HasKind.kind = stack.getLast?.map HasKind.kind := by
    have mapped := congrArg List.getLast? (Operation.Akin.kinds akin)
    rwa [List.getLast?_map, List.getLast?_map] at mapped
  unfold Courier.abandon
  simp only
  rw [kinds]
  split
  · exact given.withSession fun _ => {}
  · exact given

theorem breakDown (akin : Forall₂ Operation.Akin stack other) (alike : desk.Alike R twin)
    (env : Env) (text text' : String) :
    (breakDown env text stack desk).Alike R (breakDown env text' other twin) :=
  ⟨rfl, .nil, (alike.note _ _ _ _).withoutPending.abandon akin env⟩

omit [Transport τ] [Transport σ] in
theorem finish (alike : desk.Alike R twin) (kind : CommandKind) (reply : Reply) :
    (finish kind reply desk).Alike R (finish kind reply twin) := by
  obtain ⟨text, ended⟩ := finish_eq kind reply desk
  obtain ⟨text', ended'⟩ := finish_eq kind reply twin
  rw [ended, ended']
  exact ⟨rfl, .nil, (alike.withSession fun session => session.afterEnd kind reply).note _ _ _ _⟩

end Desk.Alike

namespace Step.Alike

variable {step : Step τ Operation Operation} {twin : Step σ Operation Operation}
  {below below' : List Operation}

omit [Transport τ] [Transport σ] in
theorem noted (alike : step.Alike R twin) : step.noted.Alike R twin.noted :=
  alike.desk.note _ _ _ _

omit [Transport τ] [Transport σ] in
theorem onward (alike : step.Alike R twin) (under : Forall₂ Operation.Akin below below')
    (budget : Nat) : (step.onward budget below).Alike R (twin.onward budget below') := by
  have noted := alike.noted
  unfold Step.onward
  rcases noted.pending_cases with ⟨here, there⟩ | ⟨child, child', here, there, akin⟩
  · rw [here, there]
    exact ⟨rfl, under, .send, alike.operation, noted.withoutPending⟩
  · rw [here, there]
    exact ⟨rfl, .cons alike.operation under, .send, akin, (noted.note _ _ _ _).withoutPending⟩

omit [Transport τ] [Transport σ] in
theorem upward (alike : step.Alike R twin) {parent parent' : Operation}
    {rest rest' : List Operation} (akin : parent.Akin parent')
    (under : Forall₂ Operation.Akin rest rest') (budget : Nat) :
    (step.upward budget parent rest).Alike R (twin.upward budget parent' rest') := by
  refine ⟨rfl, under, ?_, akin, (alike.noted.note _ _ _ _).withoutPending⟩
  change (Event.returned step.reply step.operation).Akin (.returned twin.reply twin.operation)
  rw [alike.reply]
  exact .returned _ _ _

/-- Steps that come to the same end their calls alike or lead to turns that begin alike. -/
theorem next (alike : step.Alike R twin) (under : Forall₂ Operation.Akin below below') (env : Env)
    (budget : Nat) :
    Sum.LiftRel (Outcome.Alike R) (Turn.Alike R) (step.next env budget below)
      (twin.next env budget below') := by
  have noted := alike.noted
  have stack : Forall₂ Operation.Akin (step.operation :: below) (twin.operation :: below') :=
    .cons alike.operation under
  unfold Step.next Step.broken giveUp
  rw [alike.reply]
  by_cases again : step.reply = .again
  · simp only [again, if_true]
    cases budget with
    | zero => exact .inl (noted.breakDown stack env _ _)
    | succ left => exact .inr (alike.onward under left)
  · simp only [again, if_false]
    rcases noted.pending_cases with ⟨here, there⟩ | ⟨child, child', here, there, akin⟩
    · simp only [here, there]
      by_cases wait : step.reply = .wouldBlock
      · simp only [wait, if_true]
        exact .inl ⟨rfl, stack, noted⟩
      · simp only [wait, if_false]
        rcases under with _ | ⟨akin, under⟩
        · have kind : HasKind.kind twin.operation = HasKind.kind step.operation :=
            alike.operation.kind
          simp only [kind]
          exact .inl (noted.finish _ _)
        · exact .inr (alike.upward akin under budget)
    · simp only [here, there]
      exact .inl (noted.breakDown stack env _ _)

end Step.Alike

/-- Calls that begin with turns that are alike come to the same. -/
theorem Turn.Alike.drive (transports : Transport.Alike R) {turn : Turn τ Operation}
    {twin : Turn σ Operation} (alike : turn.Alike R twin) (env : Env) :
    (turn.drive env).Alike R (twin.drive env) := by
  refine Turn.induction env (motive := fun turn => ∀ twin : Turn σ Operation,
    turn.Alike R twin → (turn.drive env).Alike R (twin.drive env)) ?_ turn twin alike
  rintro turn ih ⟨_, below, event, top, desk⟩ ⟨rfl, under, told, akin, alike⟩
  rw [drive_next, drive_next]
  have stepped : (turn.step env).Alike R (Turn.step env ⟨turn.budget, below, event, top, desk⟩) :=
    akin.step_alike transports alike told env
  have next : Sum.LiftRel (Outcome.Alike R) (Turn.Alike R) (turn.next env)
      (Turn.next env ⟨turn.budget, below, event, top, desk⟩) := stepped.next under env turn.budget
  -- either the call ends in both, or another turn follows in both
  generalize here : turn.next env = ending at next
  generalize Turn.next env ⟨turn.budget, below, event, top, desk⟩ = ending' at next
  rcases next with same | same
  · exact same
  · exact ih _ here _ same

/-- The stack when data has moved through the local end of the operation on top, if any has. -/
def Operation.afterMove : Option Local.Channel → List Operation → List Operation
  | some channel, top :: below => top.withChannel channel :: below
  | _, stack => stack

namespace Engine

/-! ## Engines -/

/-- The engines are in the same state, flags and notes apart, over transports that are related. -/
structure Alike (R : τ → σ → Prop) (engine : Engine τ Operation) (twin : Engine σ Operation) :
    Prop where
  desk : Desk.Alike R { engine.desk with pending := none } { twin.desk with pending := none }
  stack : Forall₂ Operation.Akin engine.stack twin.stack
  settings : twin.settings = engine.settings
  now : twin.now = engine.now

/-- The engine in the same state over another transport. -/
def withTransport (engine : Engine τ Operation) (transport : σ) : Engine σ Operation where
  desk :=
    { transport, cache := engine.desk.cache, session := engine.desk.session
      store := engine.desk.store, journal := engine.desk.journal, pending := engine.desk.pending }
  stack := engine.stack
  settings := engine.settings
  now := engine.now

section Calls

variable {engine : Engine τ Operation} {twin : Engine σ Operation}

theorem Alike.drive (transports : Transport.Alike R) (alike : engine.Alike R twin)
    {first : Turn τ Operation} {first' : Turn σ Operation} (begun : first.Alike R first') :
    (twin.take (first'.drive twin.env)).1 = (engine.take (first.drive engine.env)).1 ∧
      (engine.take (first.drive engine.env)).2.Alike R (twin.take (first'.drive twin.env)).2 := by
  have env : twin.env = engine.env := by
    rw [Engine.env, alike.settings, alike.now]
    rfl
  rw [env]
  have driven := begun.drive transports engine.env
  exact ⟨driven.reply, driven.desk.withoutPending, driven.stack, alike.settings, alike.now⟩

omit [Transport τ] [Transport σ] in
theorem Alike.isBusy (alike : engine.Alike R twin) : twin.isBusy = engine.isBusy := by
  have stack := alike.stack
  unfold Engine.isBusy
  generalize engine.stack = here at stack
  generalize twin.stack = there at stack
  rcases stack with _ | _ <;> rfl

/-- A completion is heard of alike. -/
theorem Alike.resume (transports : Transport.Alike R) (alike : engine.Alike R twin) :
    twin.resume.1 = engine.resume.1 ∧ engine.resume.2.Alike R twin.resume.2 := by
  have stack := alike.stack
  generalize here : engine.stack = operations at stack
  generalize there : twin.stack = operations' at stack
  rcases stack with _ | ⟨akin, under⟩
  · rw [resume_of_idle here, resume_of_idle there]
    exact ⟨rfl, alike.desk.note _ _ _ _, alike.stack, alike.settings, alike.now⟩
  · have heard := alike.desk.record_congr (congrArg (fun result => dealings [.completed result])
      (alike.desk.result transports))
    have budget := congrArg (fun settings => settings.maxContinue.toNat) alike.settings
    change (twin.make .resume).1 = (engine.make .resume).1 ∧
      (engine.make .resume).2.Alike R (twin.make .resume).2
    rw [make_of_opening (opening_of_stack here), make_of_opening (opening_of_stack there)]
    exact alike.drive transports ⟨budget, under, .completed, akin, heard⟩

theorem Alike.cancel (transports : Transport.Alike R) (alike : engine.Alike R twin) :
    twin.cancel.1 = engine.cancel.1 ∧ engine.cancel.2.Alike R twin.cancel.2 := by
  have noted := (alike.desk.record .canceled).note .info .info "Command canceled"
    "Command canceled"
  have given : (abandon engine.env engine.stack
        ((engine.desk.record .canceled).note .info "Command canceled")).Alike R
      (abandon twin.env twin.stack ((twin.desk.record .canceled).note .info "Command canceled")) :=
    Desk.Alike.abandon alike.stack noted _
  unfold Engine.cancel
  rw [alike.isBusy]
  split
  · exact ⟨rfl, (given.abort transports).withoutPending, .nil, alike.settings, alike.now⟩
  · exact ⟨rfl, alike⟩

theorem Alike.connectionLost (alike : engine.Alike R twin) :
    twin.connectionLost.1 = engine.connectionLost.1 ∧
      engine.connectionLost.2.Alike R twin.connectionLost.2 := by
  have lost := alike.desk.record .connectionLost
  have noted := lost.note .warn .warn "connection lost while a command was in progress"
    "connection lost while a command was in progress"
  have given : (abandon engine.env engine.stack ((engine.desk.record .connectionLost).note .warn
        "connection lost while a command was in progress")).Alike R
      (abandon twin.env twin.stack ((twin.desk.record .connectionLost).note .warn
        "connection lost while a command was in progress")) :=
    Desk.Alike.abandon alike.stack noted _
  unfold Engine.connectionLost
  rw [alike.isBusy]
  split
  · exact ⟨rfl, (given.withSession fun _ => {}).withoutPending, .nil, alike.settings, alike.now⟩
  · exact ⟨rfl, lost.withSession fun _ => {}, alike.stack, alike.settings, alike.now⟩

/-- While a command is in progress, the same call comes to the same. -/
theorem Alike.make (transports : Transport.Alike R) (alike : engine.Alike R twin)
    (busy : engine.isBusy = true) (call : Call) :
    (twin.make call).1 = (engine.make call).1 ∧
      (engine.make call).2.Alike R (twin.make call).2 := by
  rcases call with command | _ | _ | _
  · -- any other command is refused
    change (twin.execute command).1 = (engine.execute command).1 ∧
      (engine.execute command).2.Alike R (twin.execute command).2
    unfold execute
    rw [accept_of_busy busy, accept_of_busy (alike.isBusy.trans busy)]
    exact ⟨rfl, alike.desk.note _ _ _ _, alike.stack, alike.settings, alike.now⟩
  · exact alike.resume transports
  · exact alike.cancel transports
  · exact alike.connectionLost

end Calls

/-! ## Two executions -/

/-- By the time of the next call the same has become of both engines: others have used the cache,
time has passed, the settings have been changed, data has moved through the local end of the running
transfer. Their transports are related. -/
structure DriftAlike (R : τ → σ → Prop) (engine after : Engine τ Operation)
    (twin later : Engine σ Operation) : Prop where
  transport : R after.desk.transport later.desk.transport
  cache : later.desk.cache = after.desk.cache
  session : later.desk.session = after.desk.session
  store : later.desk.store = after.desk.store
  settings : later.settings = after.settings
  now : later.now = after.now
  stack : ∃ channel, after.stack = Operation.afterMove channel engine.stack ∧
    later.stack = Operation.afterMove channel twin.stack
  past : ∃ happenings, after.desk.past = happenings ++ engine.desk.past ∧
    later.desk.past = happenings ++ twin.desk.past

/-- What two executions come to, call by call: that of `command` by the engine `start`, and that of
`other` by the engine in the same state over another transport. As long as the command is in
progress the same calls are made on both engines, and between the calls the same becomes of both. -/
inductive Abreast (R : τ → σ → Prop) (start : Engine τ Operation) (command : Command)
    (transport : σ) (other : Command) : Reply × Engine τ Operation → Reply × Engine σ Operation →
    Prop
  | execute :
      Abreast R start command transport other (start.execute command)
        ((start.withTransport transport).execute other)
  | call {run : Reply × Engine τ Operation} {twin : Reply × Engine σ Operation}
      {after : Engine τ Operation} {later : Engine σ Operation}
      (abreast : Abreast R start command transport other run twin)
      (idle : start.isBusy = false) (progresses : run.2.isBusy = true)
      (drift : DriftAlike R run.2 after twin.2 later) (call : Call) :
      Abreast R start command transport other (after.make call) (later.make call)

section Executions

variable {start : Engine τ Operation} {transport : σ} {command other : Command}

omit [Transport τ] [Transport σ] in
/-- Commands that are akin are refused for the same reason or accepted alike. -/
theorem accept_alike (akin : command.Akin other) :
    (∃ refusal, start.accept command = .error refusal ∧
      (start.withTransport transport).accept other = .error refusal) ∨
    ∃ operation operation', start.accept command = .ok operation ∧
      (start.withTransport transport).accept other = .ok operation' ∧
        operation.Akin operation' := by
  have busy : (start.withTransport transport).isBusy = start.isBusy := rfl
  have served : protocolFor (start.withTransport transport).session other =
      protocolFor start.session command := by
    rcases akin with _ | _ <;> rfl
  unfold accept
  rw [busy, akin.valid, served]
  split
  · exact .inl ⟨.busy, rfl, rfl⟩
  · split
    · exact .inl ⟨.invalid, rfl, rfl⟩
    · rcases protocolFor start.session command with refusal | protocol
      · exact .inl ⟨refusal, rfl, rfl⟩
      · have begins : Option.Rel Operation.Akin (Behaviour.ofCommand? command protocol)
            (Behaviour.ofCommand? other protocol) := akin.ofCommand? protocol
        simp only
        generalize (Behaviour.ofCommand? command protocol : Option Operation) = here at begins ⊢
        generalize (Behaviour.ofCommand? other protocol : Option Operation) = there at begins ⊢
        rcases begins with begun | _
        · exact .inr ⟨_, _, rfl, rfl, begun⟩
        · exact .inl ⟨.notSupported protocol, rfl, rfl⟩

/-- The first call comes to the same, unless another command is in progress. -/
theorem execute_alike (transports : Transport.Alike R) (akin : command.Akin other)
    (related : R start.desk.transport transport) (idle : start.isBusy = false) :
    ((start.withTransport transport).execute other).1 = (start.execute command).1 ∧
      (start.execute command).2.Alike R ((start.withTransport transport).execute other).2 := by
  have empty : start.stack = [] := isBusy_eq_false_iff.1 idle
  have alike : start.Alike R (start.withTransport transport) := by
    refine ⟨⟨related, rfl, rfl, rfl, .none, rfl⟩, ?_, rfl, rfl⟩
    change Forall₂ Operation.Akin start.stack start.stack
    rw [empty]
    exact .nil
  rcases accept_alike akin with ⟨refusal, here, there⟩ | ⟨operation, operation', here, there, begun⟩
  · unfold execute
    rw [here, there]
    refine ⟨rfl, ?_, alike.stack, alike.settings, alike.now⟩
    rcases refusal with _ | _ | _ | _ | protocol
    · exact alike.desk.note _ _ _ _
    · exact alike.desk.note _ _ _ _
    · exact alike.desk
    · exact alike.desk
    · exact alike.desk.note _ _ _ _
  · have recorded := alike.desk.record_congr
      (show dealings [.started other] = dealings [.started command] from rfl)
    change ((start.withTransport transport).make (.execute other)).1 =
        (start.make (.execute command)).1 ∧
      (start.make (.execute command)).2.Alike R
        ((start.withTransport transport).make (.execute other)).2
    rw [make_of_opening (opening_of_accepted here), make_of_opening (opening_of_accepted there)]
    refine alike.drive transports ⟨rfl, .nil, .send, begun, ?_⟩
    exact ⟨recorded.transport, recorded.cache, recorded.session, recorded.store, .none,
      recorded.past⟩

omit [Transport τ] [Transport σ] in
theorem Alike.drift {engine after : Engine τ Operation} {twin later : Engine σ Operation}
    (alike : engine.Alike R twin) (drift : DriftAlike R engine after twin later) :
    after.Alike R later := by
  obtain ⟨happenings, past, past'⟩ := drift.past
  obtain ⟨channel, stack, stack'⟩ := drift.stack
  refine ⟨⟨drift.transport, drift.cache, drift.session, drift.store, .none, ?_⟩, ?_,
    drift.settings, drift.now⟩
  · change dealings later.desk.past = dealings after.desk.past
    have before : dealings twin.desk.past = dealings engine.desk.past := alike.desk.past
    unfold dealings at before ⊢
    rw [past, past', List.filter_append, List.filter_append, before]
  · -- the local end is the same on top of both stacks
    rw [stack, stack']
    have under := alike.stack
    generalize engine.stack = operations at under ⊢
    generalize twin.stack = operations' at under ⊢
    rcases channel with _ | channel
    · exact under
    · rcases under with _ | ⟨akin, under⟩
      · exact .nil
      · exact .cons (akin.withChannel channel) under

omit [Transport τ] [Transport σ] in
/-- It may be that nothing has happened. -/
theorem Alike.still {engine : Engine τ Operation} {twin : Engine σ Operation}
    (alike : engine.Alike R twin) : DriftAlike R engine engine twin twin :=
  ⟨alike.desk.transport, alike.desk.cache, alike.desk.session, alike.desk.store, alike.settings,
    alike.now, ⟨none, rfl, rfl⟩, ⟨[], rfl, rfl⟩⟩

omit [Transport τ] [Transport σ] in
/-- Whatever becomes of the one engine between two calls, the same can become of the other. -/
theorem Drifts.exists_alike {good : Transport.States τ} {engine after : Engine τ Operation}
    (drifts : engine.Drifts good after) (twin : Engine σ Operation)
    (related : R after.desk.transport transport) :
    ∃ later, DriftAlike R engine after twin later := by
  obtain ⟨waits, -, past⟩ := drifts.past
  obtain ⟨channel, stack⟩ : ∃ channel, after.stack = Operation.afterMove channel engine.stack := by
    rcases drifts.stack with same | ⟨top, below, channel, before, -, moved⟩
    · exact ⟨none, same⟩
    · refine ⟨some channel, ?_⟩
      rw [before, moved]
      rfl
  refine ⟨{ after.withTransport transport with
      desk := { (after.withTransport transport).desk with
        journal := { happenings := waits ++ twin.desk.past } }
      stack := Operation.afterMove channel twin.stack }, ?_⟩
  exact ⟨related, rfl, rfl, rfl, rfl, rfl, ⟨channel, stack, rfl⟩, ⟨waits, past, rfl⟩⟩

omit [Transport τ] [Transport σ] in
/-- Nothing that happens between the calls ends the command. -/
theorem DriftAlike.isBusy {engine after : Engine τ Operation} {twin later : Engine σ Operation}
    (drift : DriftAlike R engine after twin later) : after.isBusy = engine.isBusy := by
  obtain ⟨channel, stack, -⟩ := drift.stack
  unfold Engine.isBusy
  rw [stack]
  rcases channel with _ | channel
  · rfl
  · rcases engine.stack with _ | _ <;> rfl

/-- Two executions abreast come to the same, call by call. -/
theorem Abreast.alike (transports : Transport.Alike R) (akin : command.Akin other)
    (related : R start.desk.transport transport) (idle : start.isBusy = false)
    {run : Reply × Engine τ Operation} {twin : Reply × Engine σ Operation}
    (abreast : Abreast R start command transport other run twin) :
    twin.1 = run.1 ∧ run.2.Alike R twin.2 := by
  induction abreast with
  | execute => exact execute_alike transports akin related idle
  | call _ _ progresses drift call ih =>
      have alike := ih.2.drift drift
      exact alike.make transports (drift.isBusy.trans progresses) call

/-- Flags that the engine does not own make no difference. Two commands that differ in such flags
only are both valid or both not. Executed by engines in the same state over transports that answer
alike, they lead to the same replies, to the same requests to the transport and calls on the cache
in the same order, and leave the same session, cache and local store, at every point and so in the
end. -/
theorem foreign_flags_unseen (transports : Transport.Alike R) (akin : command.Akin other)
    (related : R start.desk.transport transport) :
    other.valid = command.valid ∧
      ∀ run twin, Abreast R start command transport other run twin →
        twin.1 = run.1 ∧ dealings twin.2.desk.past = dealings run.2.desk.past ∧
          twin.2.session = run.2.session ∧ twin.2.cache = run.2.cache ∧
            twin.2.desk.store = run.2.desk.store ∧ twin.2.isBusy = run.2.isBusy := by
  refine ⟨akin.valid, fun run twin abreast => ?_⟩
  cases busy : start.isBusy with
  | false =>
      obtain ⟨reply, alike⟩ := abreast.alike transports akin related busy
      exact ⟨reply, alike.desk.past, alike.desk.session, alike.desk.cache, alike.desk.store,
        alike.isBusy⟩
  | true =>
      -- both are refused
      rcases abreast with _ | ⟨_, idle, _, _, _⟩
      · have busy' : (start.withTransport transport).isBusy = true := busy
        unfold execute
        rw [accept_of_busy busy, accept_of_busy busy']
        exact ⟨rfl, rfl, rfl, rfl, rfl, rfl⟩
      · rw [busy] at idle
        cases idle

end Executions

/-- An upload, and the same with a flag of the protocol, one of the calling layer and one that is
nobody's: the directory is entered and the file is sent. -/
theorem foreign_flags_unseen_ascii :
    let start := (rehearsed {}).after connecting
    let request : TransferRequest :=
      { localEnd := .upload (.memory "m" [1]), path := .root, file := "f", flags := .none }
    let flags : TransferFlags := ⟨TransferFlags.ascii.bits ||| 0x48⟩
    let run := (start.execute (.transfer request)).2.resume.2.resume
    let twin := (start.execute (.transfer { request with flags })).2.resume.2.resume
    flags.owned = request.flags.owned ∧ flags ≠ request.flags ∧ run.1 = .ok ∧ twin.1 = run.1 ∧
      (dealings run.2.desk.past).length = 8 ∧
        dealings twin.2.desk.past = dealings run.2.desk.past ∧ twin.2.cache = run.2.cache := by
  intro start request flags run twin
  have transports : Transport.Alike (Eq : Scripted → Scripted → Prop) := .of_eq
  have akin : (Command.transfer request).Akin (.transfer { request with flags }) :=
    .transfer request flags (by decide)
  have idle : start.isBusy = false := by decide +kernel
  have entering : Abreast Eq start (.transfer request) start.desk.transport
      (.transfer { request with flags }) _ _ := .execute
  have sending := entering.call idle (by decide +kernel)
    (entering.alike transports akin rfl idle).2.still .resume
  have sent := sending.call idle (by decide +kernel)
    (sending.alike transports akin rfl idle).2.still .resume
  have same := (foreign_flags_unseen transports akin
    (show start.desk.transport = start.desk.transport from rfl)).2 run twin sent
  exact ⟨by decide, by decide, by decide +kernel, same.1, by decide +kernel, same.2.1,
    same.2.2.2.1⟩

end Engine

end Courier
