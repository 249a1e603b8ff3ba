import Courier.Proofs.Turn

/-!
# Runs

The owner of an engine makes calls on it, in any order. Between the calls the world goes on: the
transport works, the clock runs, the owner changes the settings, others use the directory cache,
and data goes through the local end of the running transfer. What is relied upon is said of the
transport: of its answers, in those of its states which it keeps to, and of the result where it
reports that a request is done.
-/

namespace Courier

/-- The states of a transport that are relied upon. -/
structure Transport.States (τ : Type) where
  /-- The transport keeps to these. -/
  keeps : τ → Prop
  /-- In these it reports that a request is done. -/
  reports : τ → Prop := fun _ => True

instance {τ : Type} : CoeFun (Transport.States τ) fun _ => τ → Prop := ⟨Transport.States.keeps⟩

/-- Whatever the state, the transport may report that a request is done. -/
instance {τ : Type} : Coe (τ → Prop) (Transport.States τ) := ⟨fun keeps => { keeps }⟩

/-- In any state anything may happen. -/
abbrev Transport.States.all (τ : Type) : Transport.States τ where
  keeps := fun _ => True

/-- The event is no completion, or one that the transport reports. -/
def Transport.States.Allows {τ ω : Type} (good : Transport.States τ) (event : Event ω) (t : τ) :
    Prop :=
  event = .completed → good.reports t

section Allows

variable {τ ω : Type} (good : Transport.States τ) (t : τ)

theorem Transport.States.allows_send : good.Allows (.send : Event ω) t := by
  rintro ⟨⟩

theorem Transport.States.allows_returned (reply : Reply) (finished : ω) :
    good.Allows (.returned reply finished) t := by
  rintro ⟨⟩

end Allows

/-- Of a transport in a good state: requests are answered at once by a reply in `starts`, the result
is in `ends` where the transport reports that a request is done, and the transport stays in a good
state. Nothing is said of the result while a request is under way, nor of how a request to
disconnect is answered. -/
structure Transport.Answers {τ : Type} [Transport τ] (good : Transport.States τ)
    (starts ends : Reply → Prop) : Prop where
  send : ∀ t text, good t → starts (Transport.send t text).1 ∧ good (Transport.send t text).2
  connect : ∀ t server credentials, good t →
    starts (Transport.connect t server credentials).1 ∧
      good (Transport.connect t server credentials).2
  wakeUp : ∀ t seconds, good t →
    starts (Transport.wakeUp t seconds).1 ∧ good (Transport.wakeUp t seconds).2
  disconnect : ∀ t, good t → good (Transport.disconnect t).2
  takeListing : ∀ t, good t → good (Transport.takeListing t).2
  announce : ∀ t announcement, good t → good (Transport.announce t announcement)
  abort : ∀ t, good t → good (Transport.abort t)
  result : ∀ t, good t → good.reports t → ends (Transport.result t)

/-- A transport as its contract has it: a request is under way or failed, and what completed has an
outcome. -/
abbrev Transport.Conforms {τ : Type} [Transport τ] (good : Transport.States τ) : Prop :=
  Transport.Answers good (fun reply => reply = .wouldBlock ∨ reply.isError = true)
    (fun result => result ≠ .wouldBlock ∧ result ≠ .again)

/-- A transport that never tells an operation to go on. -/
abbrev Transport.NeverGoesOn {τ : Type} [Transport τ] (good : Transport.States τ) : Prop :=
  Transport.Answers good (· ≠ .again) (· ≠ .again)

/-- A transport that never tells an operation to go on, and what completed has an outcome. -/
abbrev Transport.Concludes {τ : Type} [Transport τ] (good : Transport.States τ) : Prop :=
  Transport.Answers good (· ≠ .again) (fun result => result ≠ .wouldBlock ∧ result ≠ .again)

theorem Reply.again_ne_wouldBlock : Reply.again ≠ .wouldBlock := by decide

theorem Reply.again_ne_ok : Reply.again ≠ .ok := by decide

theorem Reply.ok_ne_wouldBlock : Reply.ok ≠ .wouldBlock := by decide

theorem Reply.internalError_ne_wouldBlock : Reply.internalError ≠ .wouldBlock := by decide

theorem Reply.ne_again_of_isError {reply : Reply} (h : reply.isError = true) : reply ≠ .again := by
  rintro rfl
  exact absurd h (by decide)

theorem Reply.ne_wouldBlock_of_isError {reply : Reply} (h : reply.isError = true) :
    reply ≠ .wouldBlock := by
  rintro rfl
  exact absurd h (by decide)

theorem Reply.ne_ok_of_isError {reply : Reply} (h : reply.isError = true) : reply ≠ .ok := by
  rintro rfl
  exact absurd h (by decide)

theorem Reply.ne_again_of_start {reply : Reply}
    (h : reply = .wouldBlock ∨ reply.isError = true) : reply ≠ .again := by
  rcases h with rfl | h
  · decide
  · exact ne_again_of_isError h

theorem Transport.Conforms.concludes {τ : Type} [Transport τ] {good : Transport.States τ}
    (conforms : Transport.Conforms good) : Transport.Concludes good where
  send := fun t text h =>
    ⟨Reply.ne_again_of_start (conforms.send t text h).1, (conforms.send t text h).2⟩
  connect := fun t server credentials h =>
    ⟨Reply.ne_again_of_start (conforms.connect t server credentials h).1,
      (conforms.connect t server credentials h).2⟩
  wakeUp := fun t seconds h =>
    ⟨Reply.ne_again_of_start (conforms.wakeUp t seconds h).1, (conforms.wakeUp t seconds h).2⟩
  disconnect := conforms.disconnect
  takeListing := conforms.takeListing
  announce := conforms.announce
  abort := conforms.abort
  result := conforms.result

theorem Transport.Concludes.neverGoesOn {τ : Type} [Transport τ] {good : Transport.States τ}
    (concludes : Transport.Concludes good) : Transport.NeverGoesOn good :=
  { concludes with result := fun t h reported => (concludes.result t h reported).2 }

theorem Transport.Conforms.neverGoesOn {τ : Type} [Transport τ] {good : Transport.States τ}
    (conforms : Transport.Conforms good) : Transport.NeverGoesOn good :=
  conforms.concludes.neverGoesOn

/-- The transport was waited for; nothing else happened. -/
def Happening.isWait : Happening → Bool
  | .awaited | .moved _ => true
  | _ => false

theorem Refusal.reply_isError (refusal : Refusal) : refusal.reply.isError = true := by
  cases refusal with
  | notSupported protocol => exact (by decide : Reply.notSupported.isError = true)
  | _ => rfl

namespace Engine

variable {τ ω : Type} [Transport τ] [Behaviour ω]

/-! ## The calls of the owner -/

inductive Call where
  | execute (command : Command)
  | resume
  | cancel
  | connectionLost

def make (engine : Engine τ ω) : Call → Reply × Engine τ ω
  | .execute command => engine.execute command
  | .resume => engine.resume
  | .cancel => engine.cancel
  | .connectionLost => engine.connectionLost

/-- The turn by which a call begins to drive the stack, if it does. -/
def opening (engine : Engine τ ω) : Call → Option (Turn τ ω)
  | .execute command =>
    match engine.accept command with
    | .error _ => none
    | .ok operation =>
      let desk := engine.desk.record (.started command)
      some
        { budget := engine.settings.maxContinue.toNat, below := [], event := .send
          top := operation
          desk := { desk with
            journal := desk.journal.note (.span command.spanName command.mainArgument) } }
  | .resume =>
    match engine.stack with
    | [] => none
    | top :: below =>
      some
        { budget := engine.settings.maxContinue.toNat, below, event := .completed, top
          desk := engine.desk.record (.completed engine.desk.result) }
  | .cancel | .connectionLost => none

/-- The turn in which a command that was accepted as this operation begins. -/
def starting (engine : Engine τ ω) (command : Command) (operation : ω) : Turn τ ω :=
  let desk := engine.desk.record (.started command)
  { budget := engine.settings.maxContinue.toNat, below := [], event := .send, top := operation
    desk := { desk with
      journal := desk.journal.note (.span command.spanName command.mainArgument) } }

/-- The turn in which the operation on top hears of a completion. -/
def resuming (engine : Engine τ ω) (top : ω) (below : List ω) : Turn τ ω :=
  { budget := engine.settings.maxContinue.toNat, below, event := .completed, top
    desk := engine.desk.record (.completed engine.desk.result) }

theorem opening_of_accepted {engine : Engine τ ω} {command : Command} {operation : ω}
    (accepted : engine.accept command = .ok operation) :
    engine.opening (.execute command) = some (engine.starting command operation) := by
  simp only [opening, accepted]
  rfl

theorem opening_of_stack {engine : Engine τ ω} {top : ω} {below : List ω}
    (stack : engine.stack = top :: below) :
    engine.opening .resume = some (engine.resuming top below) := by
  simp only [opening, stack]
  rfl

/-- Only a command that is accepted and a completion somebody waits for begin to drive the
stack. -/
theorem opening_eq_some {engine : Engine τ ω} {call : Call} {first : Turn τ ω}
    (opened : engine.opening call = some first) :
    (∃ command operation, call = .execute command ∧ engine.accept command = .ok operation ∧
      first = engine.starting command operation) ∨
    ∃ top below, call = .resume ∧ engine.stack = top :: below ∧
      first = engine.resuming top below := by
  cases call with
  | execute command =>
      cases accepted : engine.accept command with
      | error refusal => simp [opening, accepted] at opened
      | ok operation =>
          refine .inl ⟨command, operation, rfl, accepted, ?_⟩
          exact (Option.some.inj ((opening_of_accepted accepted).symm.trans opened)).symm
  | resume =>
      cases stack : engine.stack with
      | nil => simp [opening, stack] at opened
      | cons top below =>
          refine .inr ⟨top, below, rfl, rfl, ?_⟩
          exact (Option.some.inj ((opening_of_stack stack).symm.trans opened)).symm
  | cancel => cases opened
  | connectionLost => cases opened

/-- In the course of the call, the turn is taken. -/
def Takes (engine : Engine τ ω) (call : Call) (turn : Turn τ ω) : Prop :=
  ∃ first, engine.opening call = some first ∧ first.Leads engine.env turn

theorem make_of_opening {engine : Engine τ ω} {call : Call} {first : Turn τ ω}
    (h : engine.opening call = some first) :
    engine.make call = engine.take (first.drive engine.env) := by
  rcases opening_eq_some h with ⟨command, operation, rfl, accepted, rfl⟩ |
    ⟨top, below, rfl, stack, rfl⟩
  · unfold make execute
    simp only [accepted]
    rfl
  · unfold make resume
    simp only [stack]
    rfl

/-- A completion is reported in vain only where there is nothing to do. -/
theorem stack_of_not_resumed {engine : Engine τ ω} (h : engine.opening .resume = none) :
    engine.stack = [] := by
  unfold opening at h
  cases stack : engine.stack with
  | nil => rfl
  | cons top below => simp [stack] at h

/-- A completion nobody waits for leaves a note. -/
theorem resume_of_idle {engine : Engine τ ω} (idle : engine.stack = []) :
    engine.resume = (.internalError, { engine with
      desk := engine.desk.note .debug "response received with no command in progress" }) := by
  unfold resume
  simp only [idle]

/-- A command that is refused leaves no more than a note. -/
theorem execute_of_refused {engine : Engine τ ω} {command : Command}
    (h : engine.opening (.execute command) = none) :
    ∃ refusal desk, engine.execute command = (Refusal.reply refusal, { engine with desk }) ∧
      (desk = engine.desk ∨ ∃ level text, level ≠ .error ∧ desk = engine.desk.note level text) := by
  unfold opening at h
  unfold execute
  cases accepted : engine.accept command with
  | ok operation => simp [accepted] at h
  | error refusal =>
      refine ⟨refusal, _, rfl, ?_⟩
      cases refusal with
      | busy => exact .inr ⟨.warn, _, by decide, rfl⟩
      | invalid => exact .inr ⟨.debug, _, by decide, rfl⟩
      | alreadyConnected => exact .inl rfl
      | notConnected => exact .inl rfl
      | notSupported protocol => exact .inr ⟨.debug, _, by decide, rfl⟩

/-- What is to be shown of the engine after any call is shown where the stack is driven, where it is
given up, and where the call leaves no more than a note. -/
theorem make_rule {engine : Engine τ ω} {P : Engine τ ω → Prop} (call : Call)
    (driven : ∀ first, engine.opening call = some first →
      P (engine.take (first.drive engine.env)).2)
    (canceled : P engine.cancel.2) (lost : P engine.connectionLost.2) (still : P engine)
    (noted : ∀ level text, P { engine with desk := engine.desk.note level text }) :
    P (engine.make call).2 := by
  cases opened : engine.opening call with
  | some first =>
      rw [make_of_opening opened]
      exact driven first opened
  | none =>
      cases call with
      | execute command =>
          obtain ⟨refusal, desk, refused, rfl | ⟨level, text, -, rfl⟩⟩ := execute_of_refused opened
          · rw [make, refused]
            exact still
          · rw [make, refused]
            exact noted level text
      | resume =>
          rw [make, resume_of_idle (stack_of_not_resumed opened)]
          exact noted _ _
      | cancel => exact canceled
      | connectionLost => exact lost

omit [Transport τ] in
/-- A command is accepted only by an engine that has nothing to do, and only if it is valid. -/
theorem accept_eq_ok {engine : Engine τ ω} {command : Command} {operation : ω}
    (h : engine.accept command = .ok operation) :
    engine.stack = [] ∧ command.valid = true ∧
      ∃ protocol, protocolFor engine.session command = .ok protocol ∧
        Behaviour.ofCommand? command protocol = some operation := by
  -- a busy engine, an invalid command and one that is not served are refused in turn
  unfold accept at h
  split at h
  · cases h
  rename_i idle
  split at h
  · cases h
  rename_i valid
  refine ⟨by simpa [isBusy] using idle, by simpa using valid, ?_⟩
  cases served : protocolFor engine.session command with
  | error refusal => simp [served] at h
  | ok protocol =>
      simp only [served] at h
      refine ⟨protocol, rfl, ?_⟩
      split at h
      · rename_i found
        rw [found, ← Except.ok.inj h]
      · cases h

/-- The owner tells of a completion only where the transport reports one, or where nobody waits. -/
def MayMake (good : Transport.States τ) (engine : Engine τ ω) (call : Call) : Prop :=
  call = .resume → engine.stack ≠ [] → good.reports engine.desk.transport

omit [Transport τ] [Behaviour ω] in
theorem mayMake_execute {good : Transport.States τ} {engine : Engine τ ω} (command : Command) :
    engine.MayMake good (.execute command) := by
  rintro ⟨⟩

/-! ## Between the calls -/

/-- What may have become of `engine` by the time of the next call. -/
structure Drifts (good : Transport.States τ) (engine after : Engine τ ω) : Prop where
  transport : good after.desk.transport
  session : after.desk.session = engine.desk.session
  /-- Only the open local end of a transfer changes. -/
  stack : after.stack = engine.stack ∨
    ∃ top below channel, engine.stack = top :: below ∧
      (Behaviour.channel? top).isSome = true ∧
        after.stack = Behaviour.withChannel channel top :: below
  past : ∃ waits, (∀ happening ∈ waits, happening.isWait = true) ∧
    after.desk.past = waits ++ engine.desk.past

omit [Transport τ] in
theorem Drifts.refl {good : Transport.States τ} {engine : Engine τ ω}
    (transport : good engine.desk.transport) : engine.Drifts good engine :=
  ⟨transport, rfl, .inl rfl, [], List.forall_mem_nil _, rfl⟩

omit [Transport τ] in
/-- Without a local end the stack stays as it is. -/
theorem Drifts.same_stack {good : Transport.States τ} {engine after : Engine τ ω}
    (drifts : engine.Drifts good after)
    (closed : ∀ operation ∈ engine.stack, (Behaviour.channel? operation).isSome = false) :
    after.stack = engine.stack := by
  rcases drifts.stack with same | ⟨top, below, channel, before, transfers, -⟩
  · exact same
  · rw [closed top (before ▸ List.mem_cons_self)] at transfers
    cases transfers

/-- Nobody else uses the directory cache. -/
structure DriftsAlone (good : Transport.States τ) (engine after : Engine τ ω) : Prop
    extends Drifts good engine after where
  cache : after.desk.cache = engine.desk.cache

/-- By the time of the next call the request that was under way is done. -/
structure Completes (good : Transport.States τ) (engine after : Engine τ ω) : Prop
    extends Drifts good engine after where
  reported : good.reports after.desk.transport

/-- Nobody else uses the directory cache, and the request that was under way is done. -/
structure CompletesAlone (good : Transport.States τ) (engine after : Engine τ ω) : Prop
    extends DriftsAlone good engine after, Completes good engine after

omit [Transport τ] in
theorem Completes.mayMake {good : Transport.States τ} {engine after : Engine τ ω}
    (completes : engine.Completes good after) (call : Call) : after.MayMake good call :=
  fun _ _ => completes.reported

/-- An engine nobody has called yet. -/
structure IsFresh (engine : Engine τ ω) : Prop where
  stack : engine.stack = []
  session : engine.desk.session = {}
  past : engine.desk.past = []

/-- The engines that come up in a run over a transport that starts in a good state. Its owner makes
calls that may be made, and `meanwhile` says what may happen between two of them. -/
inductive Run (good : Transport.States τ) (meanwhile : Engine τ ω → Engine τ ω → Prop) :
    Engine τ ω → Prop
  | fresh {engine : Engine τ ω} (new : engine.IsFresh) (transport : good engine.desk.transport) :
      Run good meanwhile engine
  | call {engine : Engine τ ω} (run : Run good meanwhile engine) (call : Call)
      (may : engine.MayMake good call) : Run good meanwhile (engine.make call).2
  | wait {engine after : Engine τ ω} (run : Run good meanwhile engine)
      (drifts : meanwhile engine after) : Run good meanwhile after

/-- The engines that come up in any run over a transport. -/
abbrev Reachable (good : Transport.States τ) : Engine τ ω → Prop := Run good (Drifts good)

/-- The engines that come up in a run which begins with `start`. -/
inductive RunFrom (good : Transport.States τ) (meanwhile : Engine τ ω → Engine τ ω → Prop)
    (start : Engine τ ω) : Engine τ ω → Prop
  | start : RunFrom good meanwhile start start
  | call {engine : Engine τ ω} (run : RunFrom good meanwhile start engine) (call : Call)
      (may : engine.MayMake good call) : RunFrom good meanwhile start (engine.make call).2
  | wait {engine after : Engine τ ω} (run : RunFrom good meanwhile start engine)
      (drifts : meanwhile engine after) : RunFrom good meanwhile start after

section Runs

variable {good : Transport.States τ} {meanwhile loosely : Engine τ ω → Engine τ ω → Prop}
  {start engine : Engine τ ω}

theorem RunFrom.run (run : RunFrom good meanwhile start engine) (new : start.IsFresh)
    (transport : good start.desk.transport) : Run good meanwhile engine := by
  induction run with
  | start => exact .fresh new transport
  | call _ call may ih => exact ih.call call may
  | wait _ drifts ih => exact ih.wait drifts

theorem Run.exists_start (run : Run good meanwhile engine) :
    ∃ start : Engine τ ω, start.IsFresh ∧ good start.desk.transport ∧
      RunFrom good meanwhile start engine := by
  induction run with
  | fresh new transport => exact ⟨_, new, transport, .start⟩
  | call _ call may ih =>
      obtain ⟨start, new, transport, run⟩ := ih
      exact ⟨start, new, transport, run.call call may⟩
  | wait _ drifts ih =>
      obtain ⟨start, new, transport, run⟩ := ih
      exact ⟨start, new, transport, run.wait drifts⟩

theorem Run.mono (run : Run good meanwhile engine)
    (h : ∀ engine after, meanwhile engine after → loosely engine after) :
    Run good loosely engine := by
  induction run with
  | fresh new transport => exact .fresh new transport
  | call _ call may ih => exact ih.call call may
  | wait _ drifts ih => exact ih.wait (h _ _ drifts)

/-- A run of an engine that has the cache to itself is a run. -/
theorem Run.reachable (run : Run good (DriftsAlone good) engine) : engine.Reachable good :=
  run.mono fun _ _ alone => alone.toDrifts

end Runs

end Engine

end Courier
