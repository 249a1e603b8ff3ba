import Courier.Engine.Basic
import Courier.Proofs.Desk
import Mathlib.Logic.Relation

/-!
# The driving loop, turn by turn

A turn is one step of the topmost operation and what the engine makes of its reply: the call ends,
or another turn follows. Driving the stack is taking turns until one ends the call. There are two
ways to another turn, and each of them gets closer to the end: going on uses up one of the allowed
steps, handing a result down takes one operation off. Facts about a call therefore follow from
facts about one turn, by `Turn.rule`.
-/

namespace Courier

/-- Where the loop is: the topmost operation is about to be told `event`. -/
structure Turn (τ ω : Type) where
  /-- How often operations may still go on without waiting. -/
  budget : Nat
  below : List ω
  event : Event ω
  top : ω
  desk : Desk τ ω

variable {τ ω : Type} [Transport τ] [Behaviour ω]

namespace Step

/-- The desk after the step has been noted. -/
def noted (step : Step τ ω ω) : Desk τ ω :=
  step.desk.note .trace
    ((HasKind.kind step.operation).text ++ " -> " ++ Behaviour.stage step.operation ++
      " (" ++ step.reply.text ++ ")")

/-- The turn after a step that asked to go on: that of the subcommand it asked for, if any. -/
def onward (step : Step τ ω ω) (budget : Nat) (below : List ω) : Turn τ ω :=
  match step.noted.pending with
  | some subcommand =>
    { budget, below := step.operation :: below, event := .send, top := subcommand
      desk :=
        { step.noted.note .trace ("starting subcommand " ++ (HasKind.kind subcommand).text) with
          pending := none } }
  | none => { budget, below, event := .send, top := step.operation, desk := step.noted }

/-- The turn in which the operation below is told how the topmost one ended. -/
def upward (step : Step τ ω ω) (budget : Nat) (parent : ω) (rest : List ω) : Turn τ ω :=
  { budget, below := rest, event := .returned step.reply step.operation, top := parent
    desk := step.noted.note .trace
      ("subcommand " ++ (HasKind.kind step.operation).text ++ " finished: " ++ step.reply.text) }

/-- The end of a call in which an operation asked for a subcommand but did not go on. -/
def broken (env : Env) (step : Step τ ω ω) (below : List ω) (subcommand : ω) : Outcome τ ω :=
  breakDown env
    ((HasKind.kind step.operation).text ++ " requested subcommand " ++
      (HasKind.kind subcommand).text ++ " but returned " ++ step.reply.text)
    (step.operation :: below) step.noted

/-- What the engine makes of a step: the end of the call, or the next turn. -/
def next (env : Env) (budget : Nat) (below : List ω) (step : Step τ ω ω) :
    Outcome τ ω ⊕ Turn τ ω :=
  if step.reply = .again then
    match budget with
    | 0 => .inl (giveUp env step.operation below step.noted)
    | budget + 1 => .inr (step.onward budget below)
  else
    match step.noted.pending with
    | some subcommand => .inl (step.broken env below subcommand)
    | none =>
      if step.reply = .wouldBlock then .inl ⟨step.reply, step.noted, step.operation :: below⟩
      else
        match below with
        | [] => .inl (finish (HasKind.kind step.operation) step.reply step.noted)
        | parent :: rest => .inr (step.upward budget parent rest)

omit [Transport τ] in
@[simp] theorem noted_pending (step : Step τ ω ω) : step.noted.pending = step.desk.pending := rfl

/-- Another turn follows where the operation asked to go on, and was still allowed to, or where it
ended above another one. -/
theorem next_eq_inr {env : Env} {budget : Nat} {below : List ω} {step : Step τ ω ω}
    {turn : Turn τ ω} (h : step.next env budget below = .inr turn) :
    (step.reply = .again ∧ ∃ left, budget = left + 1 ∧ turn = step.onward left below) ∨
    (step.reply ≠ .again ∧ step.reply ≠ .wouldBlock ∧ step.desk.pending = none ∧
      ∃ parent rest, below = parent :: rest ∧ turn = step.upward budget parent rest) := by
  unfold next at h
  by_cases again : step.reply = .again
  · left
    rw [if_pos again] at h
    cases budget with
    | zero => cases h
    | succ left => exact ⟨again, left, rfl, (Sum.inr.inj h).symm⟩
  · right
    rw [if_neg again, noted_pending] at h
    cases pending : step.desk.pending with
    | some subcommand => simp [pending] at h
    | none =>
        simp only [pending] at h
        split at h
        · cases h
        · rename_i wait
          cases below with
          | nil => cases h
          | cons parent rest => exact ⟨again, wait, rfl, parent, rest, rfl, (Sum.inr.inj h).symm⟩

/-- The call ends where the operation may not go on any more, where it asked for a subcommand
without going on, where it waits, and where the last operation ends. -/
theorem next_eq_inl {env : Env} {budget : Nat} {below : List ω} {step : Step τ ω ω}
    {outcome : Outcome τ ω} (h : step.next env budget below = .inl outcome) :
    (step.reply = .again ∧ budget = 0 ∧
      outcome = giveUp env step.operation below step.noted) ∨
    (step.reply ≠ .again ∧ ∃ subcommand, step.desk.pending = some subcommand ∧
      outcome = step.broken env below subcommand) ∨
    (step.reply = .wouldBlock ∧ step.desk.pending = none ∧
      outcome = ⟨.wouldBlock, step.noted, step.operation :: below⟩) ∨
    (step.reply ≠ .again ∧ step.reply ≠ .wouldBlock ∧ step.desk.pending = none ∧ below = [] ∧
      outcome = finish (HasKind.kind step.operation) step.reply step.noted) := by
  unfold next at h
  by_cases again : step.reply = .again
  · rw [if_pos again] at h
    cases budget with
    | zero => exact .inl ⟨again, rfl, (Sum.inl.inj h).symm⟩
    | succ left => cases h
  · rw [if_neg again, noted_pending] at h
    cases pending : step.desk.pending with
    | some subcommand =>
        simp only [pending] at h
        exact .inr (.inl ⟨again, subcommand, rfl, (Sum.inl.inj h).symm⟩)
    | none =>
        simp only [pending] at h
        split at h
        · rename_i wait
          exact .inr (.inr (.inl ⟨wait, rfl, wait ▸ (Sum.inl.inj h).symm⟩))
        · rename_i wait
          cases below with
          | nil => exact .inr (.inr (.inr ⟨again, wait, rfl, rfl, (Sum.inl.inj h).symm⟩))
          | cons parent rest => cases h

section

variable {env : Env} {budget : Nat} {below : List ω} {step : Step τ ω ω}

omit [Transport τ] in
theorem onward_of_asks {subcommand : ω} (asked : step.desk.pending = some subcommand) :
    step.onward budget below =
      ⟨budget, step.operation :: below, .send, subcommand,
        { step.noted.note .trace ("starting subcommand " ++ (HasKind.kind subcommand).text) with
          pending := none }⟩ := by
  unfold onward
  rw [noted_pending, asked]

omit [Transport τ] in
theorem onward_of_silent (silent : step.desk.pending = none) :
    step.onward budget below = ⟨budget, below, .send, step.operation, step.noted⟩ := by
  unfold onward
  rw [noted_pending, silent]

/-- An operation that asks to go on may, while steps are left. -/
theorem next_of_again (again : step.reply = .again) :
    step.next env (budget + 1) below = .inr (step.onward budget below) := by
  unfold next
  rw [if_pos again]

/-- It acts again itself where it asked for no subcommand. -/
theorem next_of_acts (again : step.reply = .again) (silent : step.desk.pending = none) :
    step.next env (budget + 1) below = .inr ⟨budget, below, .send, step.operation, step.noted⟩ := by
  rw [next_of_again again, onward_of_silent silent]

/-- Without steps left, the call is given up. -/
theorem next_of_spent (again : step.reply = .again) :
    step.next env 0 below = .inl (giveUp env step.operation below step.noted) := by
  unfold next
  rw [if_pos again]

/-- An operation that waits ends the call. -/
theorem next_of_waits (waits : step.reply = .wouldBlock) (silent : step.desk.pending = none) :
    step.next env budget below = .inl ⟨.wouldBlock, step.noted, step.operation :: below⟩ := by
  unfold next
  have stops : Reply.wouldBlock ≠ .again := by decide
  rw [waits, if_neg stops, noted_pending, silent]
  rfl

/-- The end of a subcommand is handed down. -/
theorem next_of_returns {parent : ω} (again : step.reply ≠ .again) (wait : step.reply ≠ .wouldBlock)
    (silent : step.desk.pending = none) :
    step.next env budget (parent :: below) = .inr (step.upward budget parent below) := by
  unfold next
  rw [if_neg again, noted_pending, silent]
  simp only [if_neg wait]

/-- The end of the command ends the call. -/
theorem next_of_ends (again : step.reply ≠ .again) (wait : step.reply ≠ .wouldBlock)
    (silent : step.desk.pending = none) :
    step.next env budget [] =
      .inl (finish (HasKind.kind step.operation) step.reply step.noted) := by
  unfold next
  rw [if_neg again, noted_pending, silent]
  simp only [if_neg wait]

end

end Step

namespace Turn

/-- What the topmost operation does in this turn. -/
def step (env : Env) (turn : Turn τ ω) : Step τ ω ω :=
  Behaviour.step env turn.event turn.top { turn.desk with pending := none }

def next (env : Env) (turn : Turn τ ω) : Outcome τ ω ⊕ Turn τ ω :=
  (turn.step env).next env turn.budget turn.below

/-- All turns from this one on. -/
def drive (env : Env) (turn : Turn τ ω) : Outcome τ ω :=
  Courier.drive env turn.budget turn.below turn.event turn.top turn.desk

/-- The turn is taken in the course of a call that begins with `first`. -/
def Leads (env : Env) (first turn : Turn τ ω) : Prop :=
  Relation.ReflTransGen (fun a b => a.next env = .inr b) first turn

/-- Driving with one step taken out, whatever is done with an operation that asks to go on. -/
theorem settle_eq (env : Env) (goOn : ω → List ω → Desk τ ω → Outcome τ ω) (budget : Nat)
    (below : List ω) (event : Event ω) (top : ω) (desk : Desk τ ω) (step : Step τ ω ω)
    (taken : Behaviour.step env event top { desk with pending := none } = step) :
    settle env goOn below event top desk =
      if step.reply = .again then goOn step.operation below step.noted
      else
        match step.next env budget below with
        | .inl outcome => outcome
        | .inr turn => settle env goOn turn.below turn.event turn.top turn.desk := by
  rw [settle.eq_def]
  simp only [taken]
  obtain ⟨reply, operation, desk⟩ := step
  by_cases again : reply = .again
  · simp only [again, if_true]
    rfl
  simp only [again, if_false, Step.next, Step.noted, Desk.note_pending]
  cases desk.pending with
  | some subcommand => rfl
  | none =>
      by_cases wait : reply = .wouldBlock
      · simp only [wait, if_true]
      · simp only [wait, if_false]
        cases below <;> rfl

/-- Driving is one turn after the other. -/
theorem drive_next (env : Env) (turn : Turn τ ω) :
    turn.drive env =
      match turn.next env with
      | .inl outcome => outcome
      | .inr turn => turn.drive env := by
  obtain ⟨budget, below, event, top, desk⟩ := turn
  by_cases again : (step env ⟨budget, below, event, top, desk⟩).reply = .again
  · -- what asks to go on is given up if no step is left, and uses one up otherwise
    cases budget with
    | zero =>
        have loop := settle_eq env (giveUp env) 0 below event top desk
          (step env ⟨0, below, event, top, desk⟩) rfl
        rw [if_pos again] at loop
        rw [next, Step.next.eq_def, if_pos again]
        exact loop
    | succ left =>
        have loop := settle_eq env
          (descend fun below top desk => Courier.drive env left below .send top desk)
          (left + 1) below event top desk (step env ⟨left + 1, below, event, top, desk⟩) rfl
        rw [if_pos again] at loop
        rw [next, Step.next.eq_def, if_pos again]
        refine loop.trans ?_
        unfold descend Step.onward
        cases (step env ⟨left + 1, below, event, top, desk⟩).noted.pending <;> rfl
  · -- nobody asks to go on, so it makes no difference how many steps are left
    obtain ⟨goOn, same⟩ : ∃ goOn : ω → List ω → Desk τ ω → Outcome τ ω,
        Courier.drive env budget = settle env goOn := by
      cases budget with
      | zero => exact ⟨giveUp env, by simp only [Courier.drive]⟩
      | succ left =>
          exact ⟨descend fun below top desk => Courier.drive env left below .send top desk,
            by simp only [Courier.drive]⟩
    have loop := settle_eq env goOn budget below event top desk
      (step env ⟨budget, below, event, top, desk⟩) rfl
    rw [if_neg again] at loop
    rw [← same] at loop
    refine loop.trans ?_
    change (match next env ⟨budget, below, event, top, desk⟩ with
      | .inl outcome => outcome
      | .inr turn => Courier.drive env budget turn.below turn.event turn.top turn.desk) = _
    cases followed : next env ⟨budget, below, event, top, desk⟩ with
    | inl outcome => rfl
    | inr turn =>
        rcases Step.next_eq_inr followed with ⟨goes, -⟩ | ⟨-, -, -, parent, rest, -, rfl⟩
        · exact absurd goes again
        · rfl

/-- The call ends with an operation that waits. -/
theorem drive_of_waits {env : Env} {turn : Turn τ ω} (wait : (turn.step env).reply = .wouldBlock)
    (silent : (turn.step env).desk.pending = none) :
    turn.drive env =
      ⟨.wouldBlock, (turn.step env).noted, (turn.step env).operation :: turn.below⟩ := by
  rw [drive_next, next, Step.next_of_waits wait silent]

/-- What asks to go on does, while steps are left. -/
theorem drive_of_again {env : Env} {turn : Turn τ ω} {left : Nat}
    (again : (turn.step env).reply = .again) (budget : turn.budget = left + 1) :
    turn.drive env = ((turn.step env).onward left turn.below).drive env := by
  rw [drive_next, next, budget, Step.next_of_again again]

/-- The call goes on with the operation below one that ended. -/
theorem drive_of_returns {env : Env} {turn : Turn τ ω} {parent : ω} {rest : List ω}
    (again : (turn.step env).reply ≠ .again) (wait : (turn.step env).reply ≠ .wouldBlock)
    (silent : (turn.step env).desk.pending = none) (under : turn.below = parent :: rest) :
    turn.drive env = ((turn.step env).upward turn.budget parent rest).drive env := by
  rw [drive_next, next, under, Step.next_of_returns again wait silent]

/-- The call ends with the last operation. -/
theorem drive_of_end {env : Env} {turn : Turn τ ω} (again : (turn.step env).reply ≠ .again)
    (wait : (turn.step env).reply ≠ .wouldBlock) (silent : (turn.step env).desk.pending = none)
    (alone : turn.below = []) :
    turn.drive env =
      finish (HasKind.kind (turn.step env).operation) (turn.step env).reply
        (turn.step env).noted := by
  rw [drive_next, next, alone, Step.next_of_ends again wait silent]

/-- Another turn is closer to the end of the call. -/
theorem next_closer {env : Env} {turn after : Turn τ ω} (h : turn.next env = .inr after) :
    after.budget < turn.budget ∨
      after.budget = turn.budget ∧ after.below.length < turn.below.length := by
  rcases Step.next_eq_inr h with ⟨-, left, budget, rfl⟩ | ⟨-, -, -, parent, rest, below, rfl⟩
  · left
    unfold Step.onward
    cases (turn.step env).noted.pending <;> simp [budget]
  · right
    simp [Step.upward, below]

/-- Induction along the turns of a call. -/
theorem induction (env : Env) {motive : Turn τ ω → Prop}
    (turn : ∀ turn, (∀ after, turn.next env = .inr after → motive after) → motive turn)
    (first : Turn τ ω) : motive first := by
  -- the steps that are left come first, then the operations below
  have closer : WellFounded (InvImage (Prod.Lex (· < ·) (· < ·))
      fun turn : Turn τ ω => (turn.budget, turn.below.length)) :=
    InvImage.wf _ (Prod.lex Nat.lt_wfRel Nat.lt_wfRel).wf
  induction first using closer.induction with
  | h first ih =>
      refine turn first fun after next => ih after ?_
      rcases next_closer next with budget | ⟨budget, below⟩
      · exact Prod.Lex.left _ _ budget
      · change Prod.Lex _ _ (after.budget, after.below.length) (first.budget, first.below.length)
        rw [budget]
        exact Prod.Lex.right _ below

/-- The rule for calls: what every turn hands on to the next and turns into `Q` where it ends the
call, is `Q` of the call's outcome. -/
theorem rule {env : Env} {P : Turn τ ω → Prop} {Q : Outcome τ ω → Prop}
    (turns : ∀ turn after, P turn → turn.next env = .inr after → P after)
    (ends : ∀ turn outcome, P turn → turn.next env = .inl outcome → Q outcome)
    {first : Turn τ ω} (start : P first) : Q (first.drive env) := by
  refine induction env (motive := fun first => P first → Q (first.drive env)) ?_ first start
  intro first ih start
  rw [drive_next]
  cases next : first.next env with
  | inl outcome => exact ends first outcome start next
  | inr after => exact ih after next (turns first after start next)

/-- The same with one fact of a turn, whichever way it goes. -/
theorem rule_elim {env : Env} {P : Turn τ ω → Prop} {Q : Outcome τ ω → Prop}
    (turns : ∀ turn, P turn → (turn.next env).elim Q P) {first : Turn τ ω} (start : P first) :
    Q (first.drive env) := by
  refine rule (P := P) ?_ ?_ start
  · intro turn after holds next
    have goes := turns turn holds
    rwa [next] at goes
  · intro turn outcome holds next
    have goes := turns turn holds
    rwa [next] at goes

/-- What every turn hands on to the next holds in all turns of a call. -/
theorem Leads.keeps {env : Env} {P : Turn τ ω → Prop} {first turn : Turn τ ω}
    (leads : first.Leads env turn)
    (turns : ∀ turn after, P turn → turn.next env = .inr after → P after) (start : P first) :
    P turn := by
  induction leads with
  | refl => exact start
  | tail _ next ih => exact turns _ _ ih next

end Turn

end Courier
