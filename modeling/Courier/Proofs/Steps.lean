import Courier.Operation.Dispatch
import Courier.Proofs.Runs

/-!
# The steps of operations

Which events an operation has a use for in its present state, and what a step it expects can come
to. An operation that goes on either acts again or asks for a subcommand; one that waits expects
the completion; a subcommand never asks for another one.
-/

namespace Courier

/-! ## Expected events -/

/-- In this state there is something to do. -/
def Progress.acts : Progress → Bool
  | .start | .ready _ => true
  | .entering | .waiting _ => false

def Progress.isReady : Progress → Bool
  | .ready _ => true
  | _ => false

def Progress.isWaiting : Progress → Bool
  | .waiting _ => true
  | _ => false

def ListProgress.acts : ListProgress → Bool
  | .start | .ready _ => true
  | .entering _ | .waiting _ => false

def ListProgress.isWaiting : ListProgress → Bool
  | .waiting _ => true
  | _ => false

namespace Operation

/-- The operation has a use for being told to act. A change of permissions may send its line
again. -/
def acts : Operation → Bool
  | connect task => task.stage = .connect
  | disconnect task => !task.waiting
  | sleep task => !task.waiting
  | changeDir task => !task.waiting
  | list task => task.progress.acts
  | transfer task => task.progress.acts
  | delete task => task.progress.acts
  | removeDir task => task.progress.acts
  | makeDir task => task.stage ≠ .waiting
  | rename task => task.progress.acts
  | chmod task => task.progress ≠ .entering
  | raw task => !task.waiting

/-- The operation has a use for a completion. -/
def awaitsCompletion : Operation → Bool
  | connect task => task.stage = .connecting
  | disconnect task => task.waiting
  | sleep task => task.waiting
  | changeDir task => task.waiting
  | list task => task.progress.isWaiting
  | transfer task => task.progress.isWaiting
  | delete task => task.progress.isWaiting
  | removeDir task => task.progress.isWaiting
  | makeDir task => task.stage = .waiting
  | rename task => task.progress.isWaiting
  | chmod task => task.progress.isReady || task.progress.isWaiting
  | raw task => task.waiting

/-- The directory a change into which the operation waits for. -/
def entering? : Operation → Option RemotePath
  | list task =>
    match task.progress with
    | .entering target => some target
    | _ => none
  | transfer task => if task.progress = .entering then some task.request.path else none
  | delete task => if task.progress = .entering then some task.path else none
  | removeDir task => if task.progress = .entering then some task.request.path else none
  | rename task => if task.progress = .entering then some task.request.fromPath else none
  | chmod task => if task.progress = .entering then some task.request.path else none
  | connect _ | disconnect _ | sleep _ | changeDir _ | makeDir _ | raw _ => none

/-- The operation waits until it may connect again. -/
def isRetrying : Operation → Bool
  | connect task => task.stage = .retryWait
  | _ => false

/-- The operation has a use for this event. -/
def expects (operation : Operation) : Event Operation → Bool
  | .send => operation.acts
  | .completed => operation.awaitsCompletion
  | .returned _ finished =>
    operation.entering?.isSome || (operation.isRetrying && finished.kind = .sleep)

/-- The operation runs for another one. -/
def isSubcommand : Operation → Bool
  | sleep _ | changeDir _ => true
  | _ => false

/-- `operation` waits for `child`, which it asked for. -/
def WaitsFor (operation : Operation) : Operation → Prop
  | sleep _ => operation.isRetrying = true
  | changeDir task => operation.entering? = some task.path
  | _ => False

theorem WaitsFor.isSubcommand {operation child : Operation} (h : operation.WaitsFor child) :
    child.isSubcommand = true := by
  cases child <;> first | rfl | exact h.elim

theorem WaitsFor.expects {operation child : Operation} (h : operation.WaitsFor child)
    (reply : Reply) : operation.expects (.returned reply child) = true := by
  cases child with
  | sleep task => simp [Operation.expects, Operation.kind, show operation.isRetrying = true from h]
  | changeDir task =>
      simp [Operation.expects, show operation.entering? = some task.path from h]
  | _ => exact h.elim

/-- `after` may stand on the stack where `before` stood. -/
structure Succeeds (after before : Operation) : Prop where
  isSubcommand : after.isSubcommand = before.isSubcommand
  awaited : ∀ parent : Operation, parent.WaitsFor before → parent.WaitsFor after

/-- Nobody waits for the operation of a command. -/
theorem Succeeds.of_command {after before : Operation} (now : after.isSubcommand = false)
    (command : before.isSubcommand = false) : after.Succeeds before := by
  refine ⟨now.trans command.symm, ?_⟩
  intro parent waits
  rw [waits.isSubcommand] at command
  cases command

end Operation

/-! ## Sound steps -/

variable {τ : Type} [Transport τ] {good : Transport.States τ}

/-- What has been done at the desk so far leaves the step free to end in any way: no subcommand is
asked for, no defect was noted, and the transport is in a good state. -/
structure Desk.Clear (good : Transport.States τ) (before desk : Desk τ Operation) : Prop where
  transport : good desk.transport
  pending : desk.pending = none
  errors : desk.errors = before.errors

/-- What is promised of a step that the operation `before` expected at the desk `desk`. -/
structure Step.Sound (good : Transport.States τ) (desk : Desk τ Operation) (before : Operation)
    (step : Step τ Operation Operation) : Prop where
  /-- Going on leads to something to do, here or in a subcommand, which has none itself. -/
  goesOn : step.reply = .again → before.isSubcommand = false ∧
    match step.desk.pending with
    | some child => step.operation.WaitsFor child ∧ child.acts = true
    | none => step.operation.acts = true
  /-- Only who goes on asks for a subcommand. -/
  stops : step.reply ≠ .again → step.desk.pending = none
  waits : step.reply = .wouldBlock → step.operation.awaitsCompletion = true
  succeeds : step.operation.Succeeds before
  transport : good step.desk.transport
  /-- No event was unexpected, and no request for a subcommand took the place of another. -/
  errors : step.desk.errors = desk.errors

omit [Transport τ] in
theorem Step.Sound.asks_nothing {desk : Desk τ Operation} {before child : Operation}
    {step : Step τ Operation Operation} (sound : step.Sound good desk before)
    (stops : step.reply ≠ .again) (asked : step.desk.pending = some child) : False := by
  rw [sound.stops stops] at asked
  cases asked

namespace Desk.Clear

variable {before desk : Desk τ Operation}

section Alone

omit [Transport τ]

theorem note (clear : Clear good before desk) {level : LogLevel} (text : String)
    (h : level ≠ .error) : Clear good before (desk.note level text) :=
  ⟨clear.transport, clear.pending, (desk.note_errors level text h).trans clear.errors⟩

theorem noteEntered (clear : Clear good before desk) (entered : Reply) (consequence : String) :
    Clear good before (desk.noteEntered entered consequence) := by
  unfold Desk.noteEntered
  split
  · exact clear
  · exact clear.note _ (by decide)

theorem tellCache (clear : Clear good before desk) (call : Server → DirectoryCache.Call) :
    Clear good before (desk.tellCache call) :=
  ⟨by simpa using clear.transport, by simpa using clear.pending, by simpa using clear.errors⟩

theorem lookup (clear : Clear good before desk) (path : RemotePath) :
    Clear good before (desk.lookup path).2 :=
  ⟨by simpa using clear.transport, by simpa using clear.pending, by simpa using clear.errors⟩

theorem withSession (clear : Clear good before desk) (session : Session) :
    Clear good before { desk with session } :=
  ⟨clear.transport, clear.pending, clear.errors⟩

theorem withStore (clear : Clear good before desk) (store : Local.Store) :
    Clear good before { desk with store } :=
  ⟨clear.transport, clear.pending, clear.errors⟩

end Alone

variable {starts ends : Reply → Prop} (answers : Transport.Answers good starts ends)

include answers

theorem announce (clear : Clear good before desk) (announcement : Announcement) :
    Clear good before (desk.announce announcement) :=
  ⟨answers.announce _ _ clear.transport, clear.pending, clear.errors⟩

theorem takeListing (clear : Clear good before desk) : Clear good before desk.takeListing.2 :=
  ⟨answers.takeListing _ clear.transport, clear.pending, clear.errors⟩

theorem disconnect (clear : Clear good before desk) : Clear good before desk.disconnect.2 :=
  ⟨answers.disconnect _ clear.transport, clear.pending, clear.errors⟩

end Desk.Clear

/-! ## The ways in which a step ends -/

namespace Desk.Clear

variable {start desk : Desk τ Operation} {before : Operation} {κ : Type} {f : κ → Operation}
  {task : κ}

section Alone

omit [Transport τ]

theorem answer (clear : Clear good start desk) {reply : Reply} (again : reply ≠ .again)
    (waits : reply = .wouldBlock → (f task).awaitsCompletion = true)
    (succeeds : (f task).Succeeds before) :
    ((desk.answer reply task).map f).Sound good start before where
  goesOn := fun h => absurd h again
  stops := fun _ => clear.pending
  waits := waits
  succeeds := succeeds
  transport := clear.transport
  errors := clear.errors

theorem ends (clear : Clear good start desk) {reply : Reply} (again : reply ≠ .again)
    (wait : reply ≠ .wouldBlock) (succeeds : (f task).Succeeds before) :
    ((desk.answer reply task).map f).Sound good start before :=
  clear.answer again (fun h => absurd h wait) succeeds

theorem answerAgain (clear : Clear good start desk) (parent : before.isSubcommand = false)
    (acts : (f task).acts = true) (succeeds : (f task).Succeeds before) :
    ((desk.answer .again task).map f).Sound good start before where
  goesOn := fun _ => by
    refine ⟨parent, ?_⟩
    change match desk.pending with
      | some child => (f task).WaitsFor child ∧ child.acts = true
      | none => (f task).acts = true
    rw [clear.pending]
    exact acts
  stops := fun h => absurd rfl h
  waits := fun h => absurd h Reply.again_ne_wouldBlock
  succeeds := succeeds
  transport := clear.transport
  errors := clear.errors

theorem request (clear : Clear good start desk) (parent : before.isSubcommand = false)
    {child : Operation} (waits : (f task).WaitsFor child) (acts : child.acts = true)
    (succeeds : (f task).Succeeds before) :
    (((desk.request child).answer .again task).map f).Sound good start before where
  goesOn := fun _ => by
    refine ⟨parent, ?_⟩
    change match (desk.request child).pending with
      | some child => (f task).WaitsFor child ∧ child.acts = true
      | none => (f task).acts = true
    rw [request_pending]
    exact ⟨waits, acts⟩
  stops := fun h => absurd rfl h
  waits := fun h => absurd h Reply.again_ne_wouldBlock
  succeeds := succeeds
  transport := (congrArg good.keeps (desk.request_transport child)).mpr clear.transport
  errors := (desk.request_errors child clear.pending).trans clear.errors

end Alone

variable (answers : Transport.NeverGoesOn good)

include answers

theorem send (clear : Clear good start desk) (line : WireLine)
    (waits : (f task).awaitsCompletion = true) (succeeds : (f task).Succeeds before) :
    ((desk.send line task).map f).Sound good start before where
  goesOn := fun h => absurd h (answers.send _ _ clear.transport).1
  stops := fun _ => clear.pending
  waits := fun _ => waits
  succeeds := succeeds
  transport := (answers.send _ _ clear.transport).2
  errors := clear.errors

theorem connect (clear : Clear good start desk) (server : Server) (credentials : Credentials)
    (waits : (f task).awaitsCompletion = true) (succeeds : (f task).Succeeds before) :
    ((desk.connect server credentials task).map f).Sound good start before where
  goesOn := fun h => absurd h (answers.connect _ _ _ clear.transport).1
  stops := fun _ => clear.pending
  waits := fun _ => waits
  succeeds := succeeds
  transport := (answers.connect _ _ _ clear.transport).2
  errors := clear.errors

theorem wakeUp (clear : Clear good start desk) (seconds : Nat)
    (waits : (f task).awaitsCompletion = true) (succeeds : (f task).Succeeds before) :
    ((desk.wakeUp seconds task).map f).Sound good start before where
  goesOn := fun h => absurd h (answers.wakeUp _ _ clear.transport).1
  stops := fun _ => clear.pending
  waits := fun _ => waits
  succeeds := succeeds
  transport := (answers.wakeUp _ _ clear.transport).2
  errors := clear.errors

end Desk.Clear

end Courier
