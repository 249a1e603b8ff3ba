import Courier.Proofs.Abandon
import Courier.Proofs.Rehearsal
import Courier.Proofs.Soundness

/-!
# The stack of operations

Between two calls the stack is empty, or holds an operation that waits for a completion, or a
subcommand that does and below it the operation that asked for it. During a call the topmost
operation is told only what it expects. Each of the two follows from the other: a call starts from
a stack of this form, and every turn hands on to the next one that the event is expected and that
at most one operation is below, which waits for the topmost.
-/

namespace Courier

/-- The stack as it is between two calls. -/
inductive StackForm : List Operation → Prop
  | idle : StackForm []
  | single (operation : Operation) (command : operation.isSubcommand = false)
      (waits : operation.awaitsCompletion = true) : StackForm [operation]
  /-- A change of directory is under way for the operation below, which waits to enter it. -/
  | entering (task : ChangeDirTask) (parent : Operation) (waits : task.waiting = true)
      (enters : parent.entering? = some task.path) : StackForm [.changeDir task, parent]
  /-- The time until the next attempt to connect runs. -/
  | retrying (task : SleepTask) (parent : ConnectTask) (waits : task.waiting = true)
      (retries : parent.stage = .retryWait) : StackForm [.sleep task, .connect parent]

namespace Operation

theorem isSubcommand_of_entering {operation : Operation} {path : RemotePath}
    (h : operation.entering? = some path) : operation.isSubcommand = false := by
  cases operation <;> first | rfl | cases h

theorem isRetrying_eq_true {operation : Operation} (h : operation.isRetrying = true) :
    ∃ task, operation = .connect task ∧ task.stage = .retryWait := by
  cases operation with
  | connect task => exact ⟨task, rfl, by simpa [isRetrying] using h⟩
  | _ => cases h

/-- Who waits for a subcommand is none itself. -/
theorem WaitsFor.not_isSubcommand {parent child : Operation} (h : parent.WaitsFor child) :
    parent.isSubcommand = false := by
  cases child with
  | sleep task =>
      obtain ⟨connect, rfl, -⟩ := isRetrying_eq_true h
      rfl
  | changeDir task => exact isSubcommand_of_entering h
  | _ => exact h.elim

/-- The operation of a command is no subcommand and has something to do. -/
theorem ofCommand?_eq_some {command : Command} {protocol : Protocol} {operation : Operation}
    (h : ofCommand? command protocol = some operation) :
    operation.acts = true ∧ operation.isSubcommand = false := by
  unfold ofCommand? at h
  split at h <;> cases h <;> exact ⟨rfl, rfl⟩

end Operation

namespace StackForm

/-- The form with the two ways of waiting for a subcommand taken together. -/
theorem of_waitsFor {top parent : Operation} (waits : top.awaitsCompletion = true)
    (asked : parent.WaitsFor top) : StackForm [top, parent] := by
  cases top with
  | sleep task =>
      obtain ⟨connect, rfl, stage⟩ := Operation.isRetrying_eq_true asked
      exact .retrying task connect waits stage
  | changeDir task => exact .entering task parent waits asked
  | _ => exact asked.elim

/-- The topmost operation expects a completion. -/
theorem awaitsCompletion {top : Operation} {below : List Operation}
    (form : StackForm (top :: below)) : top.awaitsCompletion = true := by
  cases form with
  | single _ _ waits => exact waits
  | entering _ _ waits _ => exact waits
  | retrying _ _ waits _ => exact waits

end StackForm

/-! ## Along the turns of a call -/

variable {τ : Type} [Transport τ] {good : Transport.States τ}

namespace Turn

/-- The operations below fit the topmost one. -/
def FitsBelow (top : Operation) (below : List Operation) : Prop :=
  (below = [] ∧ top.isSubcommand = false) ∨ ∃ parent, below = [parent] ∧ parent.WaitsFor top

/-- The event is expected, and the operations below fit the topmost one. -/
structure Fits (good : Transport.States τ) (turn : Turn τ Operation) : Prop where
  transport : good turn.desk.transport
  reported : good.Allows turn.event turn.desk.transport
  outcome : turn.event.IsOutcome
  expected : turn.top.expects turn.event = true
  below : FitsBelow turn.top turn.below

/-- The step of the turn goes as it should: the topmost operation expects what it is told, notes no
defect, neither an unexpected event nor a request that takes the place of another, and goes on if
it asks for a subcommand. -/
structure Regular (env : Env) (turn : Turn τ Operation) : Prop where
  expected : turn.top.expects turn.event = true
  errors : (turn.step env).desk.errors = turn.desk.errors
  asks : (turn.step env).desk.pending ≠ none → (turn.step env).reply = .again

theorem Fits.sound {turn : Turn τ Operation} (answers : Transport.NeverGoesOn good) (env : Env)
    (fits : turn.Fits good) :
    (turn.step env).Sound good { turn.desk with pending := none } turn.top :=
  Operation.step_sound answers env fits.outcome ⟨fits.transport, rfl, rfl⟩ fits.reported
    fits.expected

theorem Fits.regular {turn : Turn τ Operation} (answers : Transport.NeverGoesOn good) (env : Env)
    (fits : turn.Fits good) : turn.Regular env := by
  have sound := fits.sound answers env
  refine ⟨fits.expected, sound.errors, ?_⟩
  intro asked
  by_cases again : (turn.step env).reply = .again
  · exact again
  · exact absurd (sound.stops again) asked

/-- What goes on is no subcommand, so nothing is below it. -/
theorem FitsBelow.of_command {top : Operation} {below : List Operation}
    (fits : FitsBelow top below) (command : top.isSubcommand = false) : below = [] := by
  rcases fits with ⟨rfl, -⟩ | ⟨parent, rfl, waits⟩
  · rfl
  · exact absurd (waits.isSubcommand.symm.trans command) (by decide)

/-- Who is below has asked for the topmost operation, and is alone there. -/
theorem FitsBelow.asked {top parent : Operation} {rest : List Operation}
    (fits : FitsBelow top (parent :: rest)) : parent.WaitsFor top ∧ rest = [] := by
  rcases fits with ⟨empty, -⟩ | ⟨asker, single, waits⟩
  · cases empty
  · cases single
    exact ⟨waits, rfl⟩

theorem FitsBelow.succeeds {top after : Operation} {below : List Operation}
    (fits : FitsBelow top below) (succeeds : after.Succeeds top) : FitsBelow after below := by
  rcases fits with ⟨rfl, command⟩ | ⟨parent, rfl, waits⟩
  · exact .inl ⟨rfl, succeeds.isSubcommand.trans command⟩
  · exact .inr ⟨parent, rfl, succeeds.awaited parent waits⟩

/-- Every turn hands the fit on to the next. -/
theorem Fits.next {turn after : Turn τ Operation} {env : Env}
    (answers : Transport.NeverGoesOn good) (fits : turn.Fits good)
    (next : turn.next env = .inr after) : after.Fits good := by
  have sound := fits.sound answers env
  rcases Step.next_eq_inr next with ⟨again, left, -, rfl⟩ | ⟨ends, wait, -, parent, rest, eq, rfl⟩
  · -- who goes on is no subcommand, so a subcommand it asks for has only this one below it
    obtain ⟨command, acts⟩ := sound.goesOn again
    have below := fits.below.of_command command
    have same := sound.succeeds.isSubcommand.trans command
    unfold Step.onward
    rw [Step.noted_pending]
    cases pending : (turn.step env).desk.pending with
    | some child =>
        simp only [pending] at acts
        rw [below]
        exact ⟨sound.transport, good.allows_send _, trivial, acts.2, .inr ⟨_, rfl, acts.1⟩⟩
    | none =>
        simp only [pending] at acts
        exact ⟨sound.transport, good.allows_send _, trivial, acts, .inl ⟨below, same⟩⟩
  · -- the operation below waited for the topmost one, and is told of its end
    rcases fits.below.succeeds sound.succeeds with ⟨empty, -⟩ | ⟨asker, single, waits⟩
    · simp [empty] at eq
    · obtain ⟨rfl, rfl⟩ : asker = parent ∧ [] = rest := by simpa [single] using eq
      exact ⟨sound.transport, good.allows_returned _ _ _, ⟨ends, wait⟩, waits.expects _,
        .inl ⟨rfl, waits.not_isSubcommand⟩⟩

section Rule

variable {env : Env} {P : Turn τ Operation → Prop} {first : Turn τ Operation}
  (answers : Transport.NeverGoesOn good)
  (turns : ∀ turn after, turn.Fits good → P turn → turn.next env = .inr after → P after)

include answers turns

/-- The rule for calls, where every turn is known to be one that fits. -/
theorem Fits.rule {Q : Outcome τ Operation → Prop}
    (ends : ∀ turn outcome, turn.Fits good → P turn → turn.next env = .inl outcome → Q outcome)
    (fits : first.Fits good) (start : P first) : Q (first.drive env) := by
  refine Turn.rule (P := fun turn => turn.Fits good ∧ P turn) ?_ ?_ ⟨fits, start⟩
  · rintro turn after ⟨fits, holds⟩ next
    exact ⟨fits.next answers next, turns turn after fits holds next⟩
  · rintro turn outcome ⟨fits, holds⟩ next
    exact ends turn outcome fits holds next

theorem Fits.leads {turn : Turn τ Operation} (leads : first.Leads env turn)
    (fits : first.Fits good) (start : P first) : turn.Fits good ∧ P turn := by
  refine leads.keeps (P := fun turn => turn.Fits good ∧ P turn) ?_ ⟨fits, start⟩
  rintro turn after ⟨fits, holds⟩ next
  exact ⟨fits.next answers next, turns turn after fits holds next⟩

end Rule

end Turn

/-! ## Between the calls -/

namespace StackForm

theorem of_fitsBelow {top : Operation} {below : List Operation}
    (waits : top.awaitsCompletion = true) (fits : Turn.FitsBelow top below) :
    StackForm (top :: below) := by
  rcases fits with ⟨rfl, command⟩ | ⟨parent, rfl, asked⟩
  · exact .single top command waits
  · exact .of_waitsFor waits asked

theorem fitsBelow {top : Operation} {below : List Operation} (form : StackForm (top :: below)) :
    Turn.FitsBelow top below := by
  cases form with
  | single _ command _ => exact .inl ⟨rfl, command⟩
  | entering task parent _ enters => exact .inr ⟨parent, rfl, enters⟩
  | retrying task parent _ retries =>
      exact .inr ⟨_, rfl, by simpa [Operation.WaitsFor, Operation.isRetrying] using retries⟩

/-- Data that goes through the local end of a transfer does not change the form. -/
theorem withChannel {top : Operation} {below : List Operation} (form : StackForm (top :: below))
    (channel : Local.Channel) : StackForm (top.withChannel channel :: below) := by
  cases form with
  | single top command waits =>
      cases top with
      | transfer task => exact .single _ rfl waits
      | _ => exact .single _ command waits
  | entering task parent waits enters => exact .entering task parent waits enters
  | retrying task parent waits retries => exact .retrying task parent waits retries

end StackForm

namespace Engine

/-- The engine may be called. -/
structure Rests (good : Transport.States τ) (engine : Engine τ Operation) : Prop where
  transport : good engine.desk.transport
  form : StackForm engine.stack

/-- A call begins with a turn of the kind that all others are. -/
theorem Rests.opening {engine : Engine τ Operation} {call : Call} {first : Turn τ Operation}
    (rests : engine.Rests good) (may : engine.MayMake good call)
    (h : engine.opening call = some first) : first.Fits good := by
  rcases opening_eq_some h with ⟨command, operation, rfl, accepted, rfl⟩ |
    ⟨top, below, rfl, stack, rfl⟩
  · obtain ⟨-, -, protocol, -, offered⟩ := accept_eq_ok accepted
    obtain ⟨acts, command⟩ := Operation.ofCommand?_eq_some offered
    exact ⟨rests.transport, good.allows_send _, trivial, acts, .inl ⟨rfl, command⟩⟩
  · have form := stack ▸ rests.form
    have reported := may rfl (stack ▸ List.cons_ne_nil top below)
    exact ⟨rests.transport, fun _ => reported, trivial, form.awaitsCompletion, form.fitsBelow⟩

/-- Where a turn ends the call, the engine may be called again. -/
theorem rests_of_next {turn : Turn τ Operation} {outcome : Outcome τ Operation} {env : Env}
    (answers : Transport.NeverGoesOn good) (fits : turn.Fits good)
    (next : turn.next env = .inl outcome) :
    good outcome.desk.transport ∧ StackForm outcome.stack := by
  have sound := fits.sound answers env
  rcases Step.next_eq_inl next with ⟨-, -, rfl⟩ | ⟨stops, child, asked, -⟩ | ⟨wait, -, rfl⟩ |
    ⟨-, -, -, -, rfl⟩
  · -- given up: nothing is left on the stack
    exact ⟨(congrArg good.keeps (abandon_transport ..)).mpr sound.transport, .idle⟩
  · exact (sound.asks_nothing stops asked).elim
  · exact ⟨sound.transport, .of_fitsBelow (sound.waits wait) (fits.below.succeeds sound.succeeds)⟩
  · obtain ⟨text, finished⟩ := finish_eq (HasKind.kind (turn.step env).operation)
      (turn.step env).reply (turn.step env).noted
    rw [finished]
    exact ⟨sound.transport, .idle⟩

theorem Rests.make {engine : Engine τ Operation} (answers : Transport.NeverGoesOn good)
    (rests : engine.Rests good) (call : Call) (may : engine.MayMake good call) :
    (engine.make call).2.Rests good := by
  refine make_rule (P := fun after => after.Rests good) call ?_ ?_ ?_ rests ?_
  · intro first opened
    have ended : good (first.drive engine.env).desk.transport ∧
        StackForm (first.drive engine.env).stack := by
      refine Turn.rule (P := fun turn => turn.Fits good)
        (Q := fun outcome => good outcome.desk.transport ∧ StackForm outcome.stack) ?_ ?_
        (rests.opening may opened)
      · intro turn after fits next
        exact fits.next answers next
      · intro turn outcome fits next
        exact rests_of_next answers fits next
    exact ⟨ended.1, ended.2⟩
  · unfold Engine.cancel
    split
    · refine ⟨answers.abort _ ?_, .idle⟩
      exact (congrArg good.keeps (abandon_transport ..)).mpr rests.transport
    · exact rests
  · unfold Engine.connectionLost
    split
    · exact ⟨(congrArg good.keeps (abandon_transport ..)).mpr rests.transport, .idle⟩
    · exact ⟨rests.transport, rests.form⟩
  · intro level text
    exact ⟨rests.transport, rests.form⟩

omit [Transport τ] in
theorem Rests.drifts {engine after : Engine τ Operation} (rests : engine.Rests good)
    (drifts : engine.Drifts good after) : after.Rests good := by
  refine ⟨drifts.transport, ?_⟩
  rcases drifts.stack with same | ⟨top, below, channel, before, -, now⟩
  · rw [same]
    exact rests.form
  · rw [now]
    exact (before ▸ rests.form).withChannel channel

theorem rests_of_reachable {engine : Engine τ Operation} (answers : Transport.NeverGoesOn good)
    (reachable : engine.Reachable good) : engine.Rests good := by
  induction reachable with
  | fresh new transport => exact ⟨transport, by rw [new.stack]; exact .idle⟩
  | call _ call may ih => exact ih.make answers call may
  | wait _ drifts ih => exact ih.drifts drifts

/-- In every run over a transport that never tells an operation to go on, the stack is of its form
between the calls, and every step of a call that may be made goes as it should. -/
theorem stack_regular (answers : Transport.NeverGoesOn good) {engine : Engine τ Operation}
    (reachable : engine.Reachable good) :
    StackForm engine.stack ∧
      (∀ top below, engine.stack = top :: below → top.awaitsCompletion = true) ∧
      ∀ call turn, engine.MayMake good call → engine.Takes call turn →
        turn.Regular engine.env := by
  have rests := rests_of_reachable answers reachable
  refine ⟨rests.form, ?_, ?_⟩
  · intro top below stack
    exact (stack ▸ rests.form).awaitsCompletion
  · rintro call turn may ⟨first, opened, leads⟩
    have fits : turn.Fits good := by
      refine leads.keeps ?_ (rests.opening may opened)
      intro turn after fits next
      exact fits.next answers next
    exact fits.regular answers engine.env

/-- A change of permissions, stopped while it enters its directory. -/
theorem stack_regular_entering :
    ∃ engine : Engine Scripted Operation,
      engine.Reachable (Scripted.Keeps (· ≠ .again) (· ≠ .again)) ∧ engine.stack.length = 2 ∧
        StackForm engine.stack := by
  have answers : Transport.NeverGoesOn
      (Scripted.Keeps (· ≠ .again) (· ≠ .again) : Transport.States Scripted) :=
    Scripted.answers (by decide) _
  have run := rehearsed_reachable (· ≠ .again) (· ≠ .again) (by decide) {}
    (connecting ++ [.execute (.chmod ⟨.root, "f", "644"⟩)])
  exact ⟨_, run, by decide +kernel, (stack_regular answers run).1⟩

end Engine

end Courier
