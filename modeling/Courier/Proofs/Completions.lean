import Courier.Proofs.Course
import Courier.Proofs.Settling
import Mathlib.Algebra.Group.Nat.Defs

/-!
# How often a command waits

A command is never kept alive by failures: it ends after a number of completions that is known when
it starts. The operation at the bottom of the stack tells how many it can still hear of, those of
its subcommands included. Each time it hears of one, and goes on or waits again, there is one less.
A change of directory or a wait for the next attempt ends with its own completion, so that counts
only once.
-/

namespace Courier

/-! ## Completions to come -/

def Progress.due : Progress → Nat
  | .start | .entering => 2
  | .ready _ | .waiting _ => 1

def ListProgress.due : ListProgress → Nat
  | .start | .entering _ => 2
  | .ready _ | .waiting _ => 1

/-- One completion for the change of directory and one for each file. -/
def DeleteTask.due (task : DeleteTask) : Nat :=
  match task.progress with
  | .start | .entering => task.rest.length + 1
  | .ready _ => task.rest.length
  | .waiting _ => task.rest.tail.length + 1

/-- One completion for each attempt that may still be made, and one for each wait between two of
them. -/
def ConnectTask.due (retries : Nat) (task : ConnectTask) : Nat :=
  match task.stage with
  | .connect => if task.request.retry then 2 * (retries - task.attempts.toNat) + 1 else 1
  | .connecting => if task.request.retry then 2 * (retries + 1 - task.attempts.toNat) + 1 else 1
  | .retryWait => 2 * (retries - task.attempts.toNat) + 2

theorem Progress.due_pos (progress : Progress) : 1 ≤ progress.due := by
  cases progress <;> simp [due]

theorem ListProgress.due_pos (progress : ListProgress) : 1 ≤ progress.due := by
  cases progress <;> simp [due]

theorem ListProgress.due_le (progress : ListProgress) : progress.due ≤ 2 := by
  cases progress <;> simp [due]

theorem ConnectTask.due_pos (retries : Nat) (task : ConnectTask) : 1 ≤ task.due retries := by
  unfold due
  split
  · split <;> omega
  · split <;> omega
  · omega

namespace Operation

/-- How many completions the operation of a command can still hear of, where a failed attempt to
connect is repeated so often. -/
def due (retries : Nat) : Operation → Nat
  | connect task => task.due retries
  | list task => task.progress.due
  | transfer task => task.progress.due
  | delete task => task.due
  | removeDir task => task.progress.due
  | rename task => task.progress.due
  | chmod task => task.progress.due
  | disconnect _ | makeDir _ | raw _ | sleep _ | changeDir _ => 1

/-- The next attempt to connect, if one is made, is not one too many. -/
def Within (retries : Nat) : Operation → Prop
  | connect task => task.stage ≠ .connecting → task.attempts.toNat ≤ retries
  | _ => True

/-- The operation can hear of no more than so many completions. -/
structure Owes (retries left : Nat) (operation : Operation) : Prop where
  within : operation.Within retries
  due : operation.due retries ≤ left

/-- Who waits, for a completion or for a subcommand, can still hear of one. -/
theorem due_pos {retries : Nat} {operation : Operation}
    (waits : operation.awaitsCompletion = true ∨ operation.entering?.isSome = true ∨
      operation.isRetrying = true) : 1 ≤ operation.due retries := by
  cases operation with
  | connect task => exact task.due_pos retries
  | delete task =>
      obtain ⟨path, total, rest, failed, progress⟩ := task
      cases progress with
      | start | entering | waiting => exact Nat.succ_pos _
      | ready => rcases waits with waits | waits | waits <;> cases waits
  | list task => exact task.progress.due_pos
  | transfer task => exact task.progress.due_pos
  | removeDir task => exact task.progress.due_pos
  | rename task => exact task.progress.due_pos
  | chmod task => exact task.progress.due_pos
  | disconnect task | makeDir task | raw task | sleep task | changeDir task => exact Nat.le_refl 1

theorem WaitsFor.due_pos {retries : Nat} {operation child : Operation}
    (waits : operation.WaitsFor child) : 1 ≤ operation.due retries := by
  refine Operation.due_pos ?_
  cases child with
  | sleep task => exact .inr (.inr waits)
  | changeDir task => exact .inr (.inl (by rw [show operation.entering? = _ from waits]; rfl))
  | _ => exact waits.elim

end Operation

/-- How many completions a command can take at most, where a failed attempt to connect is repeated
so often. -/
def Command.mostCompletions (retries : Nat) : Command → Nat
  | .connect request => if request.retry then 2 * retries + 1 else 1
  | .delete request => 1 + request.files.length
  | .list _ | .transfer _ | .removeDir _ | .rename _ | .chmod _ => 2
  | .disconnect | .makeDir _ | .raw _ => 1
  | .http _ => 0

namespace Operation

/-- The operation of a command can hear of as many completions as the command can take. -/
theorem ofCommand?_due {command : Command} {protocol : Protocol} {operation : Operation}
    (offered : ofCommand? command protocol = some operation) (retries : Nat) :
    operation.due retries = command.mostCompletions retries ∧ operation.Within retries := by
  unfold ofCommand? at offered
  split at offered <;> cases offered <;> first
    | exact ⟨rfl, trivial⟩
    | skip
  · exact ⟨rfl, fun _ => Nat.zero_le _⟩
  · exact ⟨Nat.add_comm _ _, trivial⟩

end Operation

/-! ## Steps -/

/-- What an event uses up of the completions that are left. That a subcommand ended counts for its
completion, whether there was one or not. -/
def Event.price : Event Operation → Nat
  | .send => 0
  | .completed | .returned _ _ => 1

theorem Event.price_le (event : Event Operation) : event.price ≤ 1 := by
  cases event <;> simp [price]

/-- The operation has not ended with this reply. -/
def Reply.Stays (reply : Reply) : Prop := reply = .again ∨ reply = .wouldBlock

theorem Reply.Stays.elim {reply : Reply} (stays : reply.Stays) (again : reply ≠ .again)
    (wait : reply ≠ .wouldBlock) : False := by
  rcases stays with rfl | rfl
  · exact again rfl
  · exact wait rfl

theorem Reply.internalError_ends : ¬ Reply.internalError.Stays :=
  fun stays => stays.elim (by decide) (by decide)

theorem Reply.ends_of_isError {reply : Reply} (failed : reply.isError = true) : ¬ reply.Stays :=
  fun stays => stays.elim (ne_again_of_isError failed) (ne_wouldBlock_of_isError failed)

theorem Reply.ok_ends : ¬ Reply.ok.Stays := fun stays => stays.elim (by decide) (by decide)

theorem ConnectTask.not_isFinal {env : Env} {task : ConnectTask} {result : Reply}
    (another : ¬ task.isFinal env result = true) :
    result.isCritical = false ∧ task.request.retry = true ∧
      task.attempts.toNat ≤ env.settings.connectRetries.toNat := by
  simp only [isFinal, Bool.or_eq_true, Bool.not_eq_true', decide_eq_true_eq, not_or,
    Bool.not_eq_true, Bool.not_eq_false, UInt32.lt_iff_toNat_lt, Nat.not_lt] at another
  exact ⟨another.1.1, another.1.2, another.2⟩

namespace Operation

/-- `after` can still hear of so many completions, and `paid` more could `before`. -/
structure Pays (retries paid : Nat) (before after : Operation) : Prop where
  within : after.Within retries
  due : after.due retries + paid ≤ before.due retries

variable {τ : Type} [Transport τ] {good : Transport.States τ} {desk : Desk τ Operation} {env : Env}
  {retries : Nat} {operation : Operation}

/-- Who acts can hear of no more completions than before. -/
theorem send_pays (small : retries + 1 < 2 ^ 32) (within : operation.Within retries) :
    operation.Pays retries 0 (operation.send env desk).operation := by
  cases operation with
  | connect task =>
      obtain ⟨request, stage, attempts⟩ := task
      cases stage with
      | connect =>
          -- the attempt that is made now is counted, so one fewer is left
          have made : attempts.toNat ≤ retries := within (by rintro ⟨⟩)
          have counted : (attempts + 1).toNat = attempts.toNat + 1 := by
            rw [UInt32.toNat_add, UInt32.toNat_one]
            omega
          refine ⟨fun connecting => absurd rfl connecting, ?_⟩
          change (if request.retry then 2 * (retries + 1 - (attempts + 1).toNat) + 1 else 1) ≤
            if request.retry then 2 * (retries - attempts.toNat) + 1 else 1
          rw [counted]
          split <;> omega
      | connecting | retryWait => exact ⟨within, Nat.le_refl _⟩
  | list task =>
      obtain ⟨request, progress⟩ := task
      refine ⟨trivial, ?_⟩
      cases progress with
      | start => exact ListProgress.due_le _
      | entering target | ready target | waiting target => exact Nat.le_refl _
  | transfer task =>
      obtain ⟨request, progress, channel⟩ := task
      refine ⟨trivial, ?_⟩
      cases progress with
      | start => exact Nat.le_refl _
      | ready naming =>
          simp only [send, TransferTask.send]
          split <;> exact Nat.le_refl _
      | entering | waiting naming => exact Nat.le_refl _
  | delete task =>
      obtain ⟨path, total, rest, failed, progress⟩ := task
      refine ⟨trivial, ?_⟩
      cases progress with
      | ready naming =>
          simp only [send, DeleteTask.send]
          cases rest with
          | nil =>
              simp only
              split <;> exact Nat.le_refl _
          | cons file files => exact Nat.le_refl _
      | start | entering | waiting naming => exact Nat.le_refl _
  | removeDir task =>
      obtain ⟨request, progress⟩ := task
      cases progress <;> exact ⟨trivial, Nat.le_refl _⟩
  | rename task =>
      obtain ⟨request, progress⟩ := task
      cases progress <;> exact ⟨trivial, Nat.le_refl _⟩
  | chmod task =>
      obtain ⟨request, progress⟩ := task
      cases progress <;> exact ⟨trivial, Nat.le_refl _⟩
  | disconnect task | sleep task | changeDir task | makeDir task | raw task =>
      exact ⟨trivial, Nat.le_refl _⟩

/-- Who hears of a completion and has not ended can hear of one less. -/
theorem completed_pays (outcome : desk.result ≠ .wouldBlock ∧ desk.result ≠ .again)
    (stays : (operation.completed env desk).reply.Stays) :
    operation.Pays env.settings.connectRetries.toNat 1
      (operation.completed env desk).operation := by
  -- a result is no reply with which an operation stays
  have ended : ¬ (Transport.result desk.transport).Stays := fun stays =>
    stays.elim outcome.2 outcome.1
  cases operation with
  | connect task =>
      obtain ⟨request, stage, attempts⟩ := task
      cases stage with
      | connecting =>
          simp only [completed, ConnectTask.completed] at stays ⊢
          split at stays
          · exact absurd stays Reply.ok_ends
          · rename_i failed
            rw [if_neg failed]
            split at stays
            · have refused : (Reply.critical ||| .passwordFailed).isError = true := by decide
              exact absurd stays (Reply.ends_of_isError refused)
            · rename_i accepted
              rw [if_neg accepted]
              split at stays
              · exact absurd stays ended
              · rename_i another
                rw [if_neg another]
                obtain ⟨-, repeats, left⟩ := ConnectTask.not_isFinal another
                change attempts.toNat ≤ env.settings.connectRetries.toNat at left
                refine ⟨fun _ => left, ?_⟩
                change 2 * (env.settings.connectRetries.toNat - attempts.toNat) + 2 + 1 ≤
                  if request.retry then
                    2 * (env.settings.connectRetries.toNat + 1 - attempts.toNat) + 1 else 1
                rw [if_pos repeats]
                omega
      | connect | retryWait => exact absurd stays Reply.internalError_ends
  | list task =>
      obtain ⟨request, progress⟩ := task
      cases progress with
      | waiting target =>
          simp only [completed, ListTask.completed] at stays
          split at stays <;> exact absurd stays ended
      | start | entering target | ready target => exact absurd stays Reply.internalError_ends
  | transfer task =>
      obtain ⟨request, progress, channel⟩ := task
      cases progress with
      | waiting naming => exact absurd stays ended
      | start | entering | ready naming => exact absurd stays Reply.internalError_ends
  | delete task =>
      obtain ⟨path, total, rest, failed, progress⟩ := task
      cases progress with
      | waiting naming =>
          simp only [completed, DeleteTask.completed] at stays ⊢
          split at stays
          · split at stays
            · exact absurd stays ended
            · rename_i error fatal
              rw [if_pos error, if_neg fatal]
              exact ⟨trivial, Nat.le_refl _⟩
          · rename_i done
            rw [if_neg done]
            exact ⟨trivial, Nat.le_refl _⟩
      | start | entering | ready naming => exact absurd stays Reply.internalError_ends
  | removeDir task =>
      obtain ⟨request, progress⟩ := task
      cases progress with
      | waiting naming => exact absurd stays ended
      | start | entering | ready naming => exact absurd stays Reply.internalError_ends
  | makeDir task =>
      obtain ⟨request, stage⟩ := task
      cases stage with
      | waiting => exact absurd stays ended
      | start | ready => exact absurd stays Reply.internalError_ends
  | rename task =>
      obtain ⟨request, progress⟩ := task
      cases progress with
      | waiting naming => exact absurd stays ended
      | start | entering | ready naming => exact absurd stays Reply.internalError_ends
  | chmod task =>
      obtain ⟨request, progress⟩ := task
      cases progress with
      | ready naming | waiting naming => exact absurd stays ended
      | start | entering => exact absurd stays Reply.internalError_ends
  | disconnect task =>
      simp only [completed, DisconnectTask.completed] at stays
      split at stays
      · exact absurd stays Reply.ok_ends
      · exact absurd stays Reply.internalError_ends
  | sleep task =>
      simp only [completed, SleepTask.completed] at stays
      split at stays
      · exact absurd stays ended
      · exact absurd stays Reply.internalError_ends
  | changeDir task =>
      simp only [completed, ChangeDirTask.completed] at stays
      split at stays
      · exact absurd stays ended
      · exact absurd stays Reply.internalError_ends
  | raw task =>
      simp only [completed, RawTask.completed] at stays
      split at stays
      · exact absurd stays ended
      · exact absurd stays Reply.internalError_ends

omit [Transport τ] in
/-- Who hears of the end of a subcommand and has not ended can hear of one completion less. -/
theorem returned_pays {reply : Reply} {finished : Operation} (ended : ¬ reply.Stays)
    (within : operation.Within retries)
    (stays : (returned reply finished operation desk).reply.Stays) :
    operation.Pays retries 1 (returned reply finished operation desk).operation := by
  cases operation with
  | connect task =>
      obtain ⟨request, stage, attempts⟩ := task
      simp only [returned, ConnectTask.returned] at stays ⊢
      split at stays
      · rename_i waited
        obtain rfl : stage = .retryWait := waited.1
        rw [if_pos waited]
        split at stays
        · rename_i slept
          rw [if_pos slept]
          refine ⟨fun _ => within (by rintro ⟨⟩), ?_⟩
          change (if request.retry then 2 * (retries - attempts.toNat) + 1 else 1) + 1 ≤
            2 * (retries - attempts.toNat) + 2
          split <;> omega
        · exact absurd stays ended
      · exact absurd stays Reply.internalError_ends
  | list task =>
      obtain ⟨request, progress⟩ := task
      cases progress with
      | entering target =>
          simp only [returned, ListTask.returned] at stays ⊢
          split at stays
          · rename_i entered
            rw [if_pos entered]
            exact ⟨trivial, Nat.le_refl _⟩
          · rename_i refused
            rw [if_neg refused]
            split at stays
            · have refused : Reply.linkNotDir.isError = true := by decide
              exact absurd stays (Reply.ends_of_isError refused)
            · rename_i link
              rw [if_neg link]
              split at stays
              · exact absurd stays ended
              · rename_i fallback
                rw [if_neg fallback]
                exact ⟨trivial, Nat.le_refl _⟩
      | start | ready target | waiting target => exact absurd stays Reply.internalError_ends
  | transfer task =>
      obtain ⟨request, progress, channel⟩ := task
      cases progress with
      | entering => exact ⟨trivial, Nat.le_refl _⟩
      | start | ready naming | waiting naming => exact absurd stays Reply.internalError_ends
  | delete task =>
      obtain ⟨path, total, rest, failed, progress⟩ := task
      cases progress with
      | entering => exact ⟨trivial, Nat.le_refl _⟩
      | start | ready naming | waiting naming => exact absurd stays Reply.internalError_ends
  | removeDir task =>
      obtain ⟨request, progress⟩ := task
      cases progress with
      | entering => exact ⟨trivial, Nat.le_refl _⟩
      | start | ready naming | waiting naming => exact absurd stays Reply.internalError_ends
  | rename task =>
      obtain ⟨request, progress⟩ := task
      cases progress with
      | entering => exact ⟨trivial, Nat.le_refl _⟩
      | start | ready naming | waiting naming => exact absurd stays Reply.internalError_ends
  | chmod task =>
      obtain ⟨request, progress⟩ := task
      cases progress with
      | entering => exact ⟨trivial, Nat.le_refl _⟩
      | start | ready naming | waiting naming => exact absurd stays Reply.internalError_ends
  | disconnect task | sleep task | changeDir task | makeDir task | raw task =>
      exact absurd stays Reply.internalError_ends

/-- Who is told something and has not ended can hear of as many completions less as that costs. -/
theorem step_pays (conforms : Transport.Conforms good) {event : Event Operation}
    (transport : good desk.transport) (reported : good.Allows event desk.transport)
    (outcome : event.IsOutcome)
    (small : env.settings.connectRetries.toNat + 1 < 2 ^ 32)
    (within : operation.Within env.settings.connectRetries.toNat)
    (stays : (operation.step env event desk).reply.Stays) :
    operation.Pays env.settings.connectRetries.toNat event.price
      (operation.step env event desk).operation := by
  cases event with
  | send => exact send_pays small within
  | completed => exact completed_pays (conforms.result _ transport (reported rfl)) stays
  | returned reply finished =>
      exact returned_pays (fun ended => ended.elim outcome.1 outcome.2) within stays

theorem within_of_isSubcommand (subcommand : operation.isSubcommand = true) :
    operation.Within retries := by
  cases operation with
  | connect task => cases subcommand
  | _ => trivial

theorem due_of_isSubcommand (subcommand : operation.isSubcommand = true) :
    operation.due retries = 1 := by
  cases operation <;> first | rfl | cases subcommand

end Operation

/-! ## Turns -/

variable {τ : Type} [Transport τ] {good : Transport.States τ}

namespace Turn

variable {turn after : Turn τ Operation} {env : Env} {left : Nat}

/-- The operation of the command. -/
def bottom (turn : Turn τ Operation) : Operation := turn.below.getLastD turn.top

omit [Transport τ] in
theorem bottom_of_alone (alone : turn.below = []) : turn.bottom = turn.top := by
  unfold bottom
  rw [alone]
  rfl

omit [Transport τ] in
theorem bottom_of_asker {parent : Operation} (below : turn.below = [parent]) :
    turn.bottom = parent := by
  unfold bottom
  rw [below]
  rfl

/-- The operation of the command owes so many completions, and the one it may be hearing of. -/
def Owes (retries left : Nat) (turn : Turn τ Operation) : Prop :=
  turn.bottom.Owes retries (left + turn.event.price)

section Steps

variable (conforms : Transport.Conforms good)
  (small : env.settings.connectRetries.toNat + 1 < 2 ^ 32) (fits : turn.Fits good)

include conforms small fits

theorem step_pays (within : turn.top.Within env.settings.connectRetries.toNat)
    (stays : (turn.step env).reply.Stays) :
    turn.top.Pays env.settings.connectRetries.toNat turn.event.price
      (turn.step env).operation := by
  refine Operation.step_pays conforms ?_ ?_ fits.outcome small within stays
  · exact fits.transport
  · exact fits.reported

/-- Without a subcommand above it, the operation of the command pays for what it hears. -/
theorem Owes.step (alone : turn.below = [])
    (owes : turn.Owes env.settings.connectRetries.toNat left)
    (stays : (turn.step env).reply.Stays) :
    (turn.step env).operation.Owes env.settings.connectRetries.toNat left := by
  have ⟨within, due⟩ : turn.top.Owes env.settings.connectRetries.toNat
      (left + turn.event.price) := bottom_of_alone alone ▸ owes
  have pays := step_pays conforms small fits within stays
  have less := pays.due
  exact ⟨pays.within, by omega⟩

/-- A subcommand that goes on or waits was told to act, since its completion ends it. -/
theorem price_of_subcommand (subcommand : turn.top.isSubcommand = true)
    (stays : (turn.step env).reply.Stays) : turn.event.price = 0 := by
  have sound := fits.sound conforms.neverGoesOn env
  have pays := step_pays conforms small fits (Operation.within_of_isSubcommand subcommand) stays
  have less := pays.due
  rw [Operation.due_of_isSubcommand subcommand,
    Operation.due_of_isSubcommand (sound.succeeds.isSubcommand.trans subcommand)] at less
  omega

theorem Owes.next (owes : turn.Owes env.settings.connectRetries.toNat left)
    (next : turn.next env = .inr after) :
    after.Owes env.settings.connectRetries.toNat left := by
  have sound := fits.sound conforms.neverGoesOn env
  rcases Step.next_eq_inr next with ⟨again, steps, -, rfl⟩ | ⟨-, -, -, parent, rest, below, rfl⟩
  · -- only the operation of the command goes on
    have alone := fits.below.of_command (sound.goesOn again).1
    have paid := owes.step conforms small fits alone (.inl again)
    cases asked : (turn.step env).desk.pending with
    | none =>
        rw [Step.onward_of_silent asked, alone]
        exact paid
    | some child =>
        rw [Step.onward_of_asks asked, alone]
        exact paid
  · -- the operation of the command hears that its subcommand ended
    obtain ⟨-, rfl⟩ := (below ▸ fits.below : FitsBelow turn.top (parent :: rest)).asked
    have ⟨within, due⟩ : parent.Owes env.settings.connectRetries.toNat
        (left + turn.event.price) := bottom_of_asker below ▸ owes
    have cheap := turn.event.price_le
    refine ⟨within, ?_⟩
    change parent.due env.settings.connectRetries.toNat ≤ left + 1
    omega

/-- Where the topmost operation waits, the operation of the command has a completion to come. -/
theorem Owes.waits (owes : turn.Owes env.settings.connectRetries.toNat left)
    (wait : (turn.step env).reply = .wouldBlock) :
    (turn.below.getLastD (turn.step env).operation).Owes env.settings.connectRetries.toNat left ∧
      1 ≤ left := by
  have sound := fits.sound conforms.neverGoesOn env
  rcases fits.below with ⟨alone, -⟩ | ⟨parent, below, asked⟩
  · have paid := owes.step conforms small fits alone (.inr wait)
    have more := paid.due
    have waits : 1 ≤ (turn.step env).operation.due env.settings.connectRetries.toNat :=
      Operation.due_pos (.inl (sound.waits wait))
    rw [alone]
    exact ⟨paid, by omega⟩
  · have kept : parent.Owes env.settings.connectRetries.toNat (left + turn.event.price) :=
      bottom_of_asker below ▸ owes
    rw [price_of_subcommand conforms small fits asked.isSubcommand (.inr wait)] at kept
    have more := kept.due
    have waits : 1 ≤ parent.due env.settings.connectRetries.toNat := asked.due_pos
    rw [below]
    exact ⟨kept, by omega⟩

end Steps

end Turn

/-! ## The course of a command -/

/-- The operation at the bottom of the stack owes no more than so many completions, of which there
is one. -/
def StackOwes (retries left : Nat) (stack : List Operation) : Prop :=
  (∃ top below, stack = top :: below ∧ (below.getLastD top).Owes retries left) ∧ 1 ≤ left

namespace StackOwes

variable {retries left : Nat} {stack : List Operation}

/-- Data that goes through the local end of a transfer makes no difference. -/
theorem withChannel {top : Operation} {below : List Operation}
    (owes : StackOwes retries left (top :: below)) (channel : Local.Channel) :
    StackOwes retries left (top.withChannel channel :: below) := by
  obtain ⟨⟨_, _, same, bottom⟩, more⟩ := owes
  cases same
  refine ⟨⟨_, _, rfl, ?_⟩, more⟩
  cases below with
  | nil =>
      cases top with
      | transfer task => exact ⟨trivial, bottom.due⟩
      | _ => exact bottom
  | cons parent rest => exact bottom

omit [Transport τ] in
theorem drifts {engine after : Engine τ Operation} (drifts : engine.Drifts good after)
    (owes : StackOwes retries left engine.stack) : StackOwes retries left after.stack := by
  rcases drifts.stack with same | ⟨top, below, channel, before, -, now⟩
  · rw [same]
    exact owes
  · rw [now]
    exact (before ▸ owes).withChannel channel

/-- So there is an operation to report the completion to. -/
theorem opening {engine : Engine τ Operation} (owes : StackOwes retries left engine.stack) :
    ∃ first, engine.opening .resume = some first := by
  obtain ⟨⟨top, below, stack, -⟩, -⟩ := owes
  exact ⟨_, Engine.opening_of_stack stack⟩

end StackOwes

/-- Where a call ends with a wait, the command still owes what it owed. -/
theorem Turn.Owes.drive {env : Env} {left : Nat} {first : Turn τ Operation}
    (conforms : Transport.Conforms good)
    (small : env.settings.connectRetries.toNat + 1 < 2 ^ 32) (fits : first.Fits good)
    (owes : first.Owes env.settings.connectRetries.toNat left)
    (wait : (first.drive env).reply = .wouldBlock) :
    StackOwes env.settings.connectRetries.toNat left (first.drive env).stack := by
  refine Fits.rule conforms.neverGoesOn
    (P := fun turn => turn.Owes env.settings.connectRetries.toNat left) ?_
    (Q := fun outcome => outcome.reply = .wouldBlock →
      StackOwes env.settings.connectRetries.toNat left outcome.stack) ?_ fits owes wait
  · intro turn after fits owes next
    exact owes.next conforms small fits next
  · intro turn outcome fits owes next wait
    rcases Step.next_eq_inl next with ⟨-, -, rfl⟩ | ⟨-, child, -, rfl⟩ | ⟨waits, -, rfl⟩ |
      ⟨-, ends, -, -, rfl⟩
    · exact absurd wait Reply.internalError_ne_wouldBlock
    · exact absurd wait Reply.internalError_ne_wouldBlock
    · obtain ⟨bottom, more⟩ := owes.waits conforms small fits waits
      exact ⟨⟨_, _, rfl, bottom⟩, more⟩
    · exact absurd wait ends

namespace Engine

variable {engine start : Engine τ Operation} {command : Command} {left : Nat}
  {first : Turn τ Operation} {reply : Reply} {reports : List (Reply × Local.Store)}

/-- A command begins with all the completions it can take. -/
theorem owes_of_execute (opened : engine.opening (.execute command) = some first) (retries : Nat) :
    first.Owes retries (command.mostCompletions retries) := by
  rcases opening_eq_some opened with ⟨_, operation, ⟨⟩, accepted, rfl⟩ | ⟨top, below, ⟨⟩, -, -⟩
  obtain ⟨-, -, protocol, -, offered⟩ := accept_eq_ok accepted
  obtain ⟨due, within⟩ := Operation.ofCommand?_due offered retries
  exact ⟨within, Nat.le_of_eq due⟩

/-- A completion that is reported is one less to come. -/
theorem owes_of_resume {retries : Nat} (opened : engine.opening .resume = some first)
    (owes : StackOwes retries (left + 1) engine.stack) : first.Owes retries left := by
  obtain ⟨⟨top, below, stack, bottom⟩, -⟩ := owes
  obtain rfl := Option.some.inj ((opening_of_stack stack).symm.trans opened)
  exact bottom

/-- While the command waits, the completions reported and those it owes are no more than it can
take. -/
theorem owes_over_course (conforms : Transport.Conforms good) (idle : start.stack = [])
    (transport : good start.desk.transport)
    (small : start.settings.connectRetries.toNat + 1 < 2 ^ 32)
    (course : start.Course (fun engine after => engine.Completes good after ∧
      after.settings = engine.settings) command reports reply engine) :
    engine.Rests good ∧ engine.settings = start.settings ∧
      (reply = .wouldBlock →
        ∃ left, StackOwes start.settings.connectRetries.toNat left engine.stack ∧
          reports.length + left =
            command.mostCompletions start.settings.connectRetries.toNat) := by
  induction course with
  | execute =>
      have rests : start.Rests good := ⟨transport, by rw [idle]; exact .idle⟩
      have may : start.MayMake good (.execute command) := mayMake_execute command
      refine ⟨rests.make conforms.neverGoesOn (.execute command) may, ?_⟩
      cases opened : start.opening (.execute command) with
      | none =>
          obtain ⟨refusal, desk, refused, -⟩ := execute_of_refused opened
          rw [refused]
          have ends := Reply.ne_wouldBlock_of_isError refusal.reply_isError
          exact ⟨rfl, fun wait => absurd wait ends⟩
      | some first =>
          rw [show start.execute command = _ from make_of_opening opened]
          refine ⟨rfl, fun wait => ⟨_, ?_, Nat.zero_add _⟩⟩
          exact (owes_of_execute opened _).drive conforms small (rests.opening may opened) wait
  | @resume reports engine after course between ih =>
      obtain ⟨rests, same, owes⟩ := ih
      obtain ⟨left, owes, all⟩ := owes rfl
      obtain ⟨completes, settings⟩ := between
      have rests := rests.drifts completes.toDrifts
      have owes := owes.drifts completes.toDrifts
      have may := completes.mayMake .resume
      have equal : after.settings = start.settings := settings.trans same
      refine ⟨rests.make conforms.neverGoesOn .resume may, ?_⟩
      obtain ⟨first, opened⟩ := owes.opening
      obtain ⟨fewer, rfl⟩ : ∃ fewer, left = fewer + 1 := Nat.exists_eq_add_of_le' owes.2
      rw [show after.resume = _ from make_of_opening opened]
      refine ⟨equal, fun wait => ⟨fewer, ?_, ?_⟩⟩
      · rw [← equal] at owes small ⊢
        exact (owes_of_resume opened owes).drive conforms small (rests.opening may opened) wait
      · rw [List.length_append, List.length_singleton]
        omega

/-- Whatever the results are, a command that is started while nothing is in progress ends after at
most so many completions: one for making a directory, a line of the caller and disconnecting; one
more for what enters a directory first, and one for each file where several are deleted; and for
connecting one for each attempt and each wait between two, as many as the settings have it. -/
theorem ends_within (conforms : Transport.Conforms good) (idle : start.stack = [])
    (transport : good start.desk.transport)
    (small : start.settings.connectRetries.toNat < 2 ^ 32 - 1)
    (course : start.Course (fun engine after => engine.Completes good after ∧
      after.settings = engine.settings) command reports reply engine) :
    reports.length ≤ command.mostCompletions start.settings.connectRetries.toNat ∧
      (reply = .wouldBlock →
        reports.length < command.mostCompletions start.settings.connectRetries.toNat) ∧
      (reply ≠ .wouldBlock → engine.stack = []) := by
  have small : start.settings.connectRetries.toNat + 1 < 2 ^ 32 := by omega
  have waits : reply = .wouldBlock →
      reports.length < command.mostCompletions start.settings.connectRetries.toNat := by
    intro wait
    obtain ⟨left, owes, all⟩ :=
      (owes_over_course conforms idle transport small course).2.2 wait
    have more := owes.2
    omega
  refine ⟨?_, waits, ?_⟩
  · cases course with
    | execute => exact Nat.zero_le _
    | resume before between =>
        obtain ⟨left, owes, all⟩ :=
          (owes_over_course conforms idle transport small before).2.2 rfl
        have more := owes.2
        rw [List.length_append, List.length_singleton]
        omega
  · intro ended
    rw [← isBusy_eq_false_iff]
    cases course with
    | execute =>
        have told := start.make_isBusy (.execute command)
        rw [isBusy_eq_false_iff.2 idle] at told
        exact told.trans (decide_eq_false ended)
    | @resume _ _ after before between =>
        exact (after.make_isBusy .resume).trans (decide_eq_false ended)

/-- A file that is deleted over a transport that does whatever it is asked to takes all the
completions that are allowed for it. -/
theorem ends_within_delete :
    let start := (rehearsed {}).after connecting
    let command : Command := .delete ⟨.root, ["a"]⟩
    let between := fun engine after : Engine Scripted Operation =>
      engine.Completes Scripted.IsConforming after ∧ after.settings = engine.settings
    ∃ engine reports reply,
      start.Course between command reports reply engine ∧
      reports.length = command.mostCompletions start.settings.connectRetries.toNat ∧
      reply ≠ .wouldBlock ∧ engine.stack = [] := by
  intro start command between
  have entering : start.Course between command [] .wouldBlock (start.execute command).2 := by
    have wait : (start.execute command).1 = .wouldBlock := by decide +kernel
    exact wait ▸ .execute
  have waiting := entering.resume ⟨⟨.refl (by decide +kernel), trivial⟩, rfl⟩
  rw [show (start.execute command).2.resume.1 = .wouldBlock by decide +kernel] at waiting
  have course := waiting.resume ⟨⟨.refl (by decide +kernel), trivial⟩, rfl⟩
  have ended : (start.execute command).2.resume.2.resume.1 ≠ .wouldBlock := by decide +kernel
  obtain ⟨-, -, idle⟩ := ends_within Scripted.conforms
    (List.isEmpty_iff.1 (by decide +kernel)) (by decide +kernel) (by decide +kernel) course
  exact ⟨_, _, _, course, rfl, ended, idle ended⟩

end Engine

end Courier
