import Courier.Proofs.LateFailures

/-!
# Two runs of a command

A command is executed over a transport and over one that answers in the same way, but tells late of
one failure. As long as that is still to be told, the second run lags behind; otherwise the two have
come to the same, if the operation that hears of the failure late treats it as it does one it is
told of at once.
-/

namespace Courier

variable {τ : Type} [Transport τ] {good : Transport.States τ} {settled : Bool}

/-! ## What leaves desks alike -/

omit [Transport τ] in
theorem requests_waits {waits past : List Happening}
    (all : ∀ happening ∈ waits, happening.isWait = true) :
    requests (waits ++ past) = requests past := by
  have none_asked : waits.filterMap Happening.request? = [] := by
    refine List.filterMap_eq_nil_iff.2 fun happening mem => ?_
    have wait := all happening mem
    cases happening <;> first | rfl | cases wait
  rw [requests, List.filterMap_append, none_asked]
  rfl

namespace Turn

/-- All turns of a call lead to the same end. -/
theorem Leads.drive {env : Env} {first turn : Turn τ Operation} (leads : first.Leads env turn) :
    first.drive env = turn.drive env := by
  induction leads with
  | refl => rfl
  | tail _ next ih => rw [ih, drive_next, next]

end Turn

namespace Engine

/-- The engine over a transport that tells late of the failure of the request after so many
others. -/
def deferring (engine : Engine τ Operation) (countdown : Nat) : Engine (Deferring τ) Operation where
  desk :=
    { transport := { inner := engine.desk.transport, countdown := some countdown }
      cache := engine.desk.cache, session := engine.desk.session, store := engine.desk.store
      journal := engine.desk.journal, pending := engine.desk.pending }
  stack := engine.stack
  settings := engine.settings
  now := engine.now

/-- By the time of the next call a request has completed, and the same has become of the engine and
of its twin. -/
structure DriftTogether (good : Transport.States τ) (engine after : Engine τ Operation)
    (twin later : Engine (Deferring τ) Operation) : Prop where
  drifts : engine.Completes good after
  follows : twin.Drifts (Deferring.states good) later
  transport : later.desk.transport = twin.desk.transport.completes after.desk.transport
  cache : later.desk.cache = after.desk.cache
  store : later.desk.store = after.desk.store
  pending : later.desk.pending = after.desk.pending
  stack : later.stack = after.stack
  settings : later.settings = after.settings
  now : later.now = after.now

/-- By the time of the next call nothing has happened but that the twin can hear of the failure. -/
structure Hears (good : Transport.States τ) (twin later : Engine (Deferring τ) Operation) :
    Prop where
  drifts : twin.Drifts (Deferring.states good) later
  transport : later.desk.transport = twin.desk.transport.tell
  cache : later.desk.cache = twin.desk.cache
  store : later.desk.store = twin.desk.store
  pending : later.desk.pending = twin.desk.pending
  stack : later.stack = twin.stack
  settings : later.settings = twin.settings

/-- What becomes of the twin when this has become of the engine. -/
def follow (twin : Engine (Deferring τ) Operation) (after : Engine τ Operation) :
    Engine (Deferring τ) Operation where
  desk :=
    { transport := twin.desk.transport.completes after.desk.transport
      cache := after.desk.cache, session := after.desk.session, store := after.desk.store
      journal := twin.desk.journal, pending := after.desk.pending }
  stack := after.stack
  settings := after.settings
  now := after.now

/-- The twin when it can hear of the failure. -/
def told (twin : Engine (Deferring τ) Operation) : Engine (Deferring τ) Operation :=
  { twin with desk := twin.desk.tells }

omit [Transport τ] in
theorem Hears.told {twin : Engine (Deferring τ) Operation}
    (keeps : twin.desk.transport.Keeps good) : Hears good twin twin.told :=
  ⟨⟨keeps.tell, rfl, .inl rfl, [], List.forall_mem_nil _, rfl⟩, rfl, rfl, rfl, rfl, rfl, rfl⟩

omit [Transport τ] in
theorem DriftTogether.mayMake {engine after : Engine τ Operation}
    {twin later : Engine (Deferring τ) Operation}
    (drift : DriftTogether good engine after twin later) (call : Call) :
    later.MayMake (Deferring.states good) call := by
  intro _ _
  rw [drift.transport]
  exact .inr drift.drifts.reported

omit [Transport τ] in
/-- The owner of the twin may tell it of the failure. -/
theorem Hears.mayMake {twin later : Engine (Deferring τ) Operation} {failure : Reply}
    (hears : Hears good twin later) (held : twin.desk.transport.held = some failure) (call : Call) :
    later.MayMake (Deferring.states good) call := by
  intro _ _
  rw [hears.transport]
  exact .inl (Option.isSome_of_eq_some held)

/-- What the two runs of a command come to, call by call, where `alike` is known of the failure and
of the operation that hears of it late. -/
inductive Twins (good : Transport.States τ) (alike : Env → Reply → Operation → Prop)
    (start : Engine τ Operation) (countdown : Nat) (command : Command) :
    Reply × Engine τ Operation → Reply × Engine (Deferring τ) Operation → Prop
  | execute :
      Twins good alike start countdown command (start.execute command)
        ((start.deferring countdown).execute command)
  | resume {run : Reply × Engine τ Operation} {twin : Reply × Engine (Deferring τ) Operation}
      {after : Engine τ Operation} {later : Engine (Deferring τ) Operation}
      (twins : Twins good alike start countdown command run twin)
      (heard : twin.2.desk.transport.held = none)
      (drift : DriftTogether good run.2 after twin.2 later) :
      Twins good alike start countdown command after.resume later.resume
  | hear {run : Reply × Engine τ Operation} {twin : Reply × Engine (Deferring τ) Operation}
      {later : Engine (Deferring τ) Operation} {failure : Reply} {top : Operation}
      {below : List Operation} (twins : Twins good alike start countdown command run twin)
      (held : twin.2.desk.transport.held = some failure) (stack : twin.2.stack = top :: below)
      (treats : alike twin.2.env failure top) (hears : Hears good twin.2 later) :
      Twins good alike start countdown command run later.resume

/-! ## Together or apart -/

/-- The two runs have come to the same. -/
structure Together (run : Reply × Engine τ Operation)
    (twin : Reply × Engine (Deferring τ) Operation) : Prop where
  reply : twin.1 = run.1
  stack : twin.2.stack = run.2.stack
  settings : twin.2.settings = run.2.settings
  desk : ∃ settled, run.2.desk.Like settled twin.2.desk

/-- The twin waits since it made the request in question; the other run has gone on from there. -/
structure Lags (good : Transport.States τ) (env : Env) (parting : Turn τ Operation)
    (run : Reply × Engine τ Operation) (twin : Reply × Engine (Deferring τ) Operation) : Prop where
  fits : parting.Fits good
  thrifty : parting.Thrifty env.settings.maxContinue.toNat
  parts : parting.Parts env ⟨twin.1, twin.2.desk, twin.2.stack⟩
  came : ∃ engine : Engine τ Operation, engine.settings = env.settings ∧
    run = engine.take (parting.drive env)
  settings : twin.2.settings = env.settings

omit [Transport τ] in
theorem Together.of_like {engine : Engine τ Operation} {twin : Engine (Deferring τ) Operation}
    {outcome : Outcome τ Operation} {other : Outcome (Deferring τ) Operation}
    (like : outcome.Like settled other) (settings : twin.settings = engine.settings) :
    Together (engine.take outcome) (twin.take other) :=
  ⟨like.reply, like.stack, settings, settled, like.desk⟩

omit [Transport τ] in
/-- Where the two are together, the twin can follow. -/
theorem Together.follow {run : Reply × Engine τ Operation}
    {twin : Reply × Engine (Deferring τ) Operation} {after : Engine τ Operation}
    (together : Together run twin) (keeps : twin.2.desk.transport.Keeps good)
    (drifts : run.2.Completes good after) :
    DriftTogether good run.2 after twin.2 (twin.2.follow after) := by
  obtain ⟨settled, like⟩ := together.desk
  refine ⟨drifts, ⟨keeps.completes drifts.transport, ?_, ?_, [], List.forall_mem_nil _, rfl⟩, rfl,
    rfl, rfl, rfl, rfl, rfl, rfl⟩
  · exact drifts.session.trans like.session.symm
  · rw [together.stack]
    exact drifts.stack

/-- A call that begins alike leaves the two together or takes them apart. -/
theorem make_together (conforms : Transport.Conforms good) {engine : Engine τ Operation}
    {twin : Engine (Deferring τ) Operation} {call : Call} {first : Turn τ Operation}
    {first' : Turn (Deferring τ) Operation} (rests : engine.Rests good)
    (may : engine.MayMake good call) (opened : engine.opening call = some first)
    (opened' : twin.opening call = some first') (like : first.Like settled first')
    (settings : twin.settings = engine.settings) (now : twin.now = engine.now) :
    Together (engine.make call) (twin.make call) ∨
      ∃ env parting, Lags good env parting (engine.make call) (twin.make call) := by
  have env : twin.env = engine.env := by rw [Engine.env, settings, now]; rfl
  rw [make_of_opening opened, make_of_opening opened', env]
  have fits := rests.opening may opened
  rcases like.drive conforms fits with same | ⟨-, parting, leads, fits', parts⟩
  · exact .inl (.of_like same settings)
  · refine .inr ⟨engine.env, parting, fits', ?_, parts, ?_, settings⟩
    · exact (Turn.Fits.leads conforms.neverGoesOn
        (fun _ _ fits thrifty next => thrifty.next conforms.neverGoesOn fits next) leads fits
        (opening_thrifty opened)).2
    · exact ⟨engine, rfl, by rw [leads.drive]⟩

/-- The first call begins alike, or the command is refused. -/
theorem execute_together (conforms : Transport.Conforms good) {start : Engine τ Operation}
    (rests : start.Rests good) (countdown : Nat) (command : Command) :
    Together (start.execute command) ((start.deferring countdown).execute command) ∨
      ∃ env parting, Lags good env parting (start.execute command)
        ((start.deferring countdown).execute command) := by
  have like : start.desk.Like false (start.deferring countdown).desk :=
    ⟨rfl, rfl, by rintro ⟨⟩, rfl, rfl, rfl, rfl, rfl⟩
  have same : (start.deferring countdown).accept command = start.accept command := rfl
  cases accepted : start.accept command with
  | error refusal =>
      unfold execute
      rw [same, accepted]
      refine .inl ⟨rfl, rfl, rfl, false, ?_⟩
      simp only
      cases refusal.note? command with
      | none => exact like
      | some note => exact like.note _ _ _ _
  | ok operation =>
      have begun : (start.desk.record (.started command)).Like false
          ((start.deferring countdown).desk.record (.started command)) := like.record rfl
      have spanned : Desk.Like false
          { start.desk.record (.started command) with
            journal := (start.desk.record (.started command)).journal.note
              (.span command.spanName command.mainArgument) }
          { (start.deferring countdown).desk.record (.started command) with
            journal := ((start.deferring countdown).desk.record (.started command)).journal.note
              (.span command.spanName command.mainArgument) } :=
        ⟨begun.inner, begun.held, begun.settled, begun.cache, begun.session, begun.store,
          begun.pending, begun.requests⟩
      exact make_together conforms rests (mayMake_execute command) (opening_of_accepted accepted)
        (opening_of_accepted (same.trans accepted)) ⟨rfl, rfl, rfl, rfl, spanned, by rintro ⟨⟩⟩ rfl
        rfl

/-- Two runs that are together begin the next call alike. -/
theorem Together.resume (conforms : Transport.Conforms good)
    {run : Reply × Engine τ Operation} {twin : Reply × Engine (Deferring τ) Operation}
    {after : Engine τ Operation} {later : Engine (Deferring τ) Operation}
    (together : Together run twin) (rests : after.Rests good)
    (drift : DriftTogether good run.2 after twin.2 later) :
    Together after.resume later.resume ∨
      ∃ env parting, Lags good env parting after.resume later.resume := by
  obtain ⟨settled, like⟩ := together.desk
  obtain ⟨waits, all, past⟩ := drift.drifts.past
  obtain ⟨waits', all', past'⟩ := drift.follows.past
  have alike : after.desk.Like settled later.desk := by
    refine ⟨?_, ?_, ?_, drift.cache, ?_, drift.store, drift.pending, ?_⟩
    · rw [drift.transport]
      rfl
    · rw [drift.transport]
      exact like.held
    · rw [drift.transport]
      exact like.settled
    · rw [drift.follows.session, drift.drifts.session, like.session]
    · rw [past, past', requests_waits all, requests_waits all', like.requests]
  have result : later.desk.result = after.desk.result := by
    refine alike.result ?_
    rw [drift.transport]
    rfl
  have heard : (after.desk.record (.completed after.desk.result)).Like settled
      (later.desk.record (.completed later.desk.result)) := alike.record rfl
  cases stack : after.stack with
  | nil =>
      unfold Engine.resume
      rw [drift.stack, stack]
      exact .inl ⟨rfl, rfl, drift.settings, settled, alike.note _ _ _ _⟩
  | cons top below =>
      refine make_together conforms rests (drift.drifts.mayMake .resume) (opening_of_stack stack)
        (opening_of_stack (drift.stack.trans stack)) ⟨?_, rfl, rfl, rfl, heard, fun _ => result⟩
        drift.settings drift.now
      exact congrArg (fun settings => settings.maxContinue.toNat) drift.settings

/-- The twin that lagged behind hears of the failure. -/
theorem Lags.hear (conforms : Transport.Conforms good) {env : Env} {parting : Turn τ Operation}
    {run : Reply × Engine τ Operation} {twin : Reply × Engine (Deferring τ) Operation}
    {later : Engine (Deferring τ) Operation} {failure : Reply} {top : Operation}
    {below : List Operation} (lags : Lags good env parting run twin)
    (rests : twin.2.Rests (Deferring.states good))
    (held : twin.2.desk.transport.held = some failure) (stack : twin.2.stack = top :: below)
    (treats : top.FailsAlike twin.2.env failure) (hears : Hears good twin.2 later) :
    Together run later.resume := by
  obtain ⟨engine, engineSettings, rfl⟩ := lags.came
  obtain ⟨waits, all, past⟩ := hears.drifts.past
  have parts := lags.parts
  obtain rfl : (parting.step env).reply = failure :=
    Option.some.inj (parts.held.symm.trans held)
  obtain ⟨rfl, rfl⟩ : (parting.step env).operation = top ∧ parting.below = below := by
    simpa using parts.stack.symm.trans stack
  have before : (parting.step env).noted.Like true twin.2.desk.tells := parts.desk
  have told : (parting.step env).noted.Like true later.desk := by
    refine ⟨?_, ?_, ?_, hears.cache.trans before.cache, hears.drifts.session.trans before.session,
      hears.store.trans before.store, hears.pending.trans before.pending, ?_⟩
    · rw [hears.transport]
      exact before.inner
    · rw [hears.transport]
      rfl
    · rw [hears.transport]
      exact before.settled
    · rw [past, requests_waits all]
      exact before.requests
  have result : later.desk.result = (parting.step env).reply := by
    change later.desk.transport.told.getD _ = _
    rw [hears.transport, Deferring.tell, held]
    rfl
  have heard : (parting.step env).noted.Like true
      (later.desk.record (.completed later.desk.result)) :=
    ⟨told.inner, told.held, told.settled, told.cache, told.session, told.store, told.pending,
      told.requests⟩
  have settings : later.env.settings = env.settings := hears.settings.trans lags.settings
  have sameEnv : later.env.settings = twin.2.env.settings := hears.settings
  have treats := treats.of_settings sameEnv
  have waits : (parting.step env).operation.awaitsCompletion = true := by
    have form := rests.form
    rw [stack] at form
    exact form.awaitsCompletion
  have same := parts.told conforms lags.fits heard result lags.thrifty settings waits treats
  have made := make_of_opening (opening_of_stack (hears.stack.trans stack))
  change Together _ (later.make .resume)
  rw [made]
  exact .of_like same (settings.trans engineSettings.symm)

/-- In every run of a command the twin has come to the same, or still has to hear of the failure. -/
theorem together_or_lags (conforms : Transport.Conforms good) {start : Engine τ Operation}
    (idle : start.stack = []) (transport : good start.desk.transport) {countdown : Nat}
    {command : Command} {run : Reply × Engine τ Operation}
    {twin : Reply × Engine (Deferring τ) Operation}
    (twins : Twins good Operation.FailsAlike start countdown command run twin) :
    run.2.Rests good ∧ twin.2.Rests (Deferring.states good) ∧
      (Together run twin ∨ ∃ env parting, Lags good env parting run twin) := by
  have answers := conforms.neverGoesOn
  have answers' := (Deferring.conforms conforms).neverGoesOn
  have rests : start.Rests good := ⟨transport, by rw [idle]; exact .idle⟩
  have rests' : (start.deferring countdown).Rests (Deferring.states good) :=
    ⟨⟨transport, by rintro _ ⟨⟩, by rintro _ ⟨⟩⟩, rests.form⟩
  induction twins with
  | execute =>
      exact ⟨rests.make answers (.execute command) (mayMake_execute command),
        rests'.make answers' (.execute command) (mayMake_execute command),
        execute_together conforms rests countdown command⟩
  | resume twins heard drift ih =>
      obtain ⟨resting, resting', came⟩ := ih
      have after := resting.drifts drift.drifts.toDrifts
      refine ⟨after.make answers .resume (drift.drifts.mayMake .resume),
        (resting'.drifts drift.follows).make answers' .resume (drift.mayMake .resume), ?_⟩
      rcases came with together | ⟨env, parting, lags⟩
      · exact together.resume conforms after drift
      · have held : _ = some _ := lags.parts.held
        rw [show _ = none from heard] at held
        cases held
  | hear twins held stack treats hears ih =>
      obtain ⟨resting, resting', came⟩ := ih
      refine ⟨resting, (resting'.drifts hears.drifts).make answers' .resume
        (hears.mayMake held .resume), .inl ?_⟩
      rcases came with together | ⟨env, parting, lags⟩
      · obtain ⟨settled, like⟩ := together.desk
        rw [like.held] at held
        cases held
      · exact lags.hear conforms resting' held stack treats hears

/-- The twin never gets stuck: it follows whatever becomes of the engine, or can hear of the
failure. -/
theorem twin_goes_on (conforms : Transport.Conforms good) {start : Engine τ Operation}
    (idle : start.stack = []) (transport : good start.desk.transport) {countdown : Nat}
    {command : Command} {run : Reply × Engine τ Operation}
    {twin : Reply × Engine (Deferring τ) Operation}
    (twins : Twins good Operation.FailsAlike start countdown command run twin) :
    (twin.2.desk.transport.held = none ∧
      ∀ after, run.2.Completes good after → ∃ later, DriftTogether good run.2 after twin.2 later) ∨
    ∃ failure top below, twin.2.desk.transport.held = some failure ∧
      twin.2.stack = top :: below ∧ ∃ later, Hears good twin.2 later := by
  obtain ⟨-, rests, together | ⟨env, parting, lags⟩⟩ :=
    together_or_lags conforms idle transport twins
  · obtain ⟨settled, like⟩ := together.desk
    exact .inl ⟨like.held, fun after drifts => ⟨_, together.follow rests.transport drifts⟩⟩
  · exact .inr ⟨_, _, _, lags.parts.held, lags.parts.stack, _, .told rests.transport⟩

/-! ## Rehearsals -/

/-- An engine that is connected, over a transport that answers in this way when a line is sent. -/
def rehearsing (sends : List Reply) : Engine Scripted Operation :=
  { desk := { transport := { sends }, session := { server := some stage, connected := true } } }

/-- What a command comes to after its second line. -/
def secondLine (sends : List Reply) (command : Command) : Reply × Engine Scripted Operation :=
  ((rehearsing sends).execute command).2.resume

/-- The same where it is told late that the second line failed. -/
def secondLineLate (sends : List Reply) (command : Command) :
    Reply × Engine (Deferring Scripted) Operation :=
  ((((rehearsing sends).deferring 1).execute command).2.follow
    ((rehearsing sends).execute command).2).resume

theorem secondLine_twins {sends : List Reply} {command : Command}
    {alike : Env → Reply → Operation → Prop} {failure : Reply} {kind : CommandKind}
    (starts : ∀ reply ∈ sends, reply = .wouldBlock ∨ reply.isError = true)
    (first : (((rehearsing sends).deferring 1).execute command).2.desk.transport.held = none)
    (held : (secondLineLate sends command).2.desk.transport.held = some failure)
    (stack : (secondLineLate sends command).2.stack.map Operation.kind = [kind])
    (treats : ∀ top : Operation, top.kind = kind →
      alike (secondLineLate sends command).2.env failure top) :
    Twins Scripted.IsConforming alike (rehearsing sends) 1 command (secondLine sends command)
      (secondLineLate sends command).2.told.resume := by
  have good : Scripted.IsConforming (rehearsing sends).desk.transport :=
    ⟨starts, List.forall_mem_nil _, List.forall_mem_nil _, Reply.ok_ne_wouldBlock,
      Reply.again_ne_ok.symm⟩
  have executed : Twins Scripted.IsConforming Operation.FailsAlike (rehearsing sends) 1 command
      _ _ := .execute
  obtain ⟨rests, rests', together | ⟨env, parting, lags⟩⟩ :=
    together_or_lags Scripted.conforms rfl good executed
  · have drift := together.follow rests'.transport ⟨.refl rests.transport, trivial⟩
    have keeps := (rests'.drifts drift.follows).make
      (Deferring.conforms Scripted.conforms).neverGoesOn .resume (drift.mayMake .resume)
    obtain ⟨top, below, busy, is, -⟩ := List.map_eq_cons_iff.1 stack
    exact .hear (.resume .execute first drift) held busy (treats top is) (.told keeps.transport)
  · have held : _ = some _ := lags.parts.held
    rw [show _ = none from first] at held
    cases held

/-! ## Told late as at once -/

/-- A command comes to the same over a transport that says at once that a request failed and over
one that tells late of that failure: the same is asked for, and the reply, the session, the cache
and the stack are the same in the end. So it is at every point of the run, for every request and
every failure, where the operation that hears of the failure makes no difference between the two;
as long as the failure is still to be told, the run over the second transport waits. -/
theorem failure_late_as_at_once (conforms : Transport.Conforms good) {start : Engine τ Operation}
    (idle : start.stack = []) (transport : good start.desk.transport) {countdown : Nat}
    {command : Command} {run : Reply × Engine τ Operation}
    {twin : Reply × Engine (Deferring τ) Operation}
    (twins : Twins good Operation.FailsAlike start countdown command run twin)
    (heard : twin.1 = .wouldBlock → twin.2.desk.transport.held = none) :
    twin.1 = run.1 ∧ twin.2.stack = run.2.stack ∧ twin.2.session = run.2.session ∧
      twin.2.cache = run.2.cache ∧ requests twin.2.desk.past = requests run.2.desk.past := by
  obtain ⟨-, -, together | ⟨env, parting, lags⟩⟩ := together_or_lags conforms idle transport twins
  · obtain ⟨settled, like⟩ := together.desk
    exact ⟨together.reply, together.stack, like.session, like.cache, like.requests⟩
  · have held : twin.2.desk.transport.held = some _ := lags.parts.held
    rw [heard lags.parts.reply] at held
    cases held

/-- A change of permissions whose line fails: told late as at once, it ends the command. -/
theorem failure_late_as_at_once_chmod :
    let command : Command := .chmod ⟨.root, "f", "644"⟩
    let run := secondLine [.wouldBlock, .error] command
    let twin := (secondLineLate [.wouldBlock, .error] command).2.told.resume
    run.1 = .error ∧ twin.1 = run.1 ∧ (requests run.2.desk.past).length = 2 ∧
      requests twin.2.desk.past = requests run.2.desk.past := by
  intro command run twin
  have starts : ∀ reply ∈ [Reply.wouldBlock, .error],
      reply = .wouldBlock ∨ reply.isError = true := by
    decide
  have twins : Twins Scripted.IsConforming Operation.FailsAlike
      (rehearsing [.wouldBlock, .error]) 1 command run twin :=
    secondLine_twins starts (by decide +kernel) (show _ = some Reply.error by decide +kernel)
      (show _ = [CommandKind.chmod] by decide +kernel) fun top is => by
        cases top <;> trivial
  have same := failure_late_as_at_once Scripted.conforms rfl
    ⟨starts, List.forall_mem_nil _, List.forall_mem_nil _, by decide, by decide⟩ twins
    (fun _ => by decide +kernel)
  exact ⟨by decide +kernel, same.1, by decide +kernel, same.2.2.2.2⟩

/-- A file that cannot be removed stops the others if that is told at once, and does not if it is
told late. -/
theorem failure_late_unlike_at_once :
    let start := rehearsing [.wouldBlock, .error, .error]
    ∃ run twin, Scripted.IsConforming start.desk.transport ∧
      Twins Scripted.IsConforming (fun _ _ _ => True) start 1 (.delete ⟨.root, ["a", "b"]⟩) run
        twin ∧
      twin.2.desk.transport.held = none ∧ run.1 = .error ∧ twin.1 = .error ∧
      (requests run.2.desk.past).length = 2 ∧ (requests twin.2.desk.past).length = 3 := by
  intro start
  have starts : ∀ reply ∈ [Reply.wouldBlock, .error, .error],
      reply = .wouldBlock ∨ reply.isError = true := by
    decide
  refine ⟨_, _, ⟨starts, List.forall_mem_nil _, List.forall_mem_nil _, by decide, by decide⟩,
    secondLine_twins starts (by decide +kernel) (show _ = some Reply.error by decide +kernel)
      (show _ = [CommandKind.delete] by decide +kernel) fun _ _ => trivial, ?_⟩
  decide +kernel

end Engine

end Courier
