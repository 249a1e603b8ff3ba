import Courier.Proofs.Settling

/-!
# How long a call lasts

A call is a sequence of turns, one step of an operation in each. Operations may push as often as
they go on and pop as often as they end, so neither the depth of the stack nor the number of steps
still allowed shrinks all the time. Their combination does: a step that goes on uses up one that is
allowed, which is worth two, and adds at most one operation; any other step takes an operation off
or ends the call. Nothing is known here of the operations or of the transport.
-/

namespace Courier

variable {τ ω : Type} [Transport τ] [Behaviour ω]

/-! ## The turns of a call -/

namespace Turn

/-- The call that begins with a turn takes these turns, in this order, and comes to the outcome. -/
inductive Through (env : Env) : Turn τ ω → List (Turn τ ω) → Outcome τ ω → Prop where
  | last {turn : Turn τ ω} {outcome : Outcome τ ω} (ends : turn.next env = .inl outcome) :
      Through env turn [turn] outcome
  | more {turn after : Turn τ ω} {rest : List (Turn τ ω)} {outcome : Outcome τ ω}
      (goes : turn.next env = .inr after) (through : Through env after rest outcome) :
      Through env turn (turn :: rest) outcome

/-- How often an operation asked to go on without waiting. -/
def goings (env : Env) (turns : List (Turn τ ω)) : Nat :=
  turns.countP fun turn => (turn.step env).reply = .again

/-- The call ends although its last operation asked to go on: it was not allowed to any more. -/
def RunsOut (env : Env) (turns : List (Turn τ ω)) : Prop :=
  ∃ last, turns.getLast? = some last ∧ (last.step env).reply = .again

/-- What a turn can still bring about: two for each step that is allowed, one for each operation. -/
def reach (turn : Turn τ ω) : Nat := 2 * turn.budget + turn.below.length + 1

/-- Another turn can bring about less. -/
theorem reach_decreases {env : Env} {turn after : Turn τ ω} (goes : turn.next env = .inr after) :
    after.reach < turn.reach := by
  rcases Step.next_eq_inr goes with ⟨-, left, allowed, rfl⟩ | ⟨-, -, -, parent, rest, below, rfl⟩
  · -- one of the allowed steps is used up, for at most one operation more
    unfold Step.onward
    cases (turn.step env).noted.pending with
    | some subcommand =>
        simp only [reach, allowed, List.length_cons]
        omega
    | none =>
        simp only [reach, allowed]
        omega
  · simp only [reach, Step.upward, below, List.length_cons]
    omega

/-- A step that goes on uses up one of those allowed, and no other step does. -/
theorem budget_of_next {env : Env} {turn after : Turn τ ω} (goes : turn.next env = .inr after) :
    after.budget + (if (turn.step env).reply = .again then 1 else 0) = turn.budget := by
  rcases Step.next_eq_inr goes with ⟨again, left, allowed, rfl⟩ | ⟨again, -, -, _, _, -, rfl⟩
  · rw [if_pos again, allowed]
    unfold Step.onward
    cases (turn.step env).noted.pending <;> rfl
  · rw [if_neg again]
    rfl

namespace Through

variable {env : Env} {turn : Turn τ ω} {turns : List (Turn τ ω)} {outcome : Outcome τ ω}

/-- Every call comes to an end. -/
theorem exists_turns (env : Env) (turn : Turn τ ω) :
    ∃ turns outcome, Through env turn turns outcome := by
  refine induction env
    (motive := fun turn => ∃ turns outcome, Through env turn turns outcome) ?_ turn
  intro turn ih
  cases next : turn.next env with
  | inl outcome => exact ⟨[turn], outcome, .last next⟩
  | inr after =>
      obtain ⟨rest, outcome, through⟩ := ih after next
      exact ⟨turn :: rest, outcome, .more next through⟩

theorem ne_nil (through : Through env turn turns outcome) : turns ≠ [] := by
  cases through with
  | last => exact List.cons_ne_nil _ _
  | more => exact List.cons_ne_nil _ _

/-- What the turns come to is what driving does. -/
theorem outcome_eq (through : Through env turn turns outcome) : outcome = turn.drive env := by
  induction through with
  | last ends => rw [drive_next, ends]
  | more goes _ ih =>
      rw [drive_next, goes]
      exact ih

theorem length_le (through : Through env turn turns outcome) : turns.length ≤ turn.reach := by
  induction through with
  | last =>
      unfold reach
      simp
  | @more turn after rest outcome goes through ih =>
      have less := reach_decreases goes
      simp only [List.length_cons]
      omega

/-- Running out concerns the last turn alone. -/
theorem runsOut_cons {after : Turn τ ω} (through : Through env after turns outcome) :
    RunsOut env (turn :: turns) ↔ RunsOut env turns := by
  unfold RunsOut
  rw [List.getLast?_cons_of_ne_nil through.ne_nil]

/-- Operations go on as often as they are allowed to, and once more where that ends the call. -/
theorem goings_eq (through : Through env turn turns outcome) :
    (RunsOut env turns → goings env turns = turn.budget + 1) ∧
      (¬ RunsOut env turns → goings env turns ≤ turn.budget) := by
  induction through with
  | @last turn outcome ends =>
      have spent : RunsOut env [turn] ↔ (turn.step env).reply = .again := by simp [RunsOut]
      constructor
      · intro out
        have again := spent.1 out
        rcases Step.next_eq_inl ends with ⟨-, budget, -⟩ | ⟨stops, -⟩ | ⟨waits, -⟩ | ⟨stops, -⟩
        · simp [goings, again, budget]
        · exact absurd again stops
        · exact absurd (waits ▸ again) Reply.again_ne_wouldBlock.symm
        · exact absurd again stops
      · intro stays
        have stops : (turn.step env).reply ≠ .again := fun again => stays (spent.2 again)
        simp [goings, stops]
  | @more turn after rest outcome goes through ih =>
      have used := budget_of_next goes
      have counted : goings env (turn :: rest) =
          goings env rest + if (turn.step env).reply = .again then 1 else 0 := by
        simp [goings, List.countP_cons]
      rw [runsOut_cons through, counted]
      constructor
      · intro out
        have all := ih.1 out
        omega
      · intro stays
        have most := ih.2 stays
        omega

/-- The turn in which a call runs out gives up what is on the stack then. -/
theorem gives_up (through : Through env turn turns outcome) {last : Turn τ ω}
    (lastly : turns.getLast? = some last) (again : (last.step env).reply = .again) :
    outcome = giveUp env (last.step env).operation last.below (last.step env).noted := by
  induction through with
  | @last turn outcome ends =>
      obtain rfl : turn = last := by simpa using lastly
      rcases Step.next_eq_inl ends with ⟨-, -, given⟩ | ⟨stops, -⟩ | ⟨waits, -⟩ | ⟨stops, -⟩
      · exact given
      · exact absurd again stops
      · exact absurd (waits ▸ again) Reply.again_ne_wouldBlock.symm
      · exact absurd again stops
  | more _ through ih =>
      rw [List.getLast?_cons_of_ne_nil through.ne_nil] at lastly
      exact ih lastly

end Through

end Turn

/-! ## Giving up -/

/-- The operations are called off, each of them once and in this order, none with a subcommand
asked for. -/
inductive CalledOff (env : Env) : List ω → Desk τ ω → Desk τ ω → Prop where
  | none (desk : Desk τ ω) : CalledOff env [] desk desk
  | next {operation : ω} {rest : List ω} {desk after : Desk τ ω}
      (others : CalledOff env rest
        (Behaviour.cancel env operation { desk with pending := .none }).2 after) :
      CalledOff env (operation :: rest) desk after

theorem CalledOff.foldl (env : Env) (stack : List ω) (desk : Desk τ ω) :
    CalledOff env stack desk
      (stack.foldl (fun desk operation =>
        (Behaviour.cancel env operation { desk with pending := .none }).2) desk) := by
  induction stack generalizing desk with
  | nil => exact .none desk
  | cons operation rest ih => exact .next (ih _)

/-- Abandoning calls every operation off, topmost first, and then forgets the session if the one at
the bottom was to connect. -/
theorem abandon_calledOff (env : Env) (stack : List ω) (desk : Desk τ ω) :
    ∃ after, CalledOff env stack desk after ∧
      abandon env stack desk =
        { after with
          pending := none
          session := if stack.getLast?.map HasKind.kind = some .connect then {}
            else after.session } := by
  refine ⟨_, CalledOff.foldl env stack desk, ?_⟩
  unfold abandon
  by_cases connects : stack.getLast?.map HasKind.kind = some .connect
  · simp only [if_pos connects]
  · simp only [if_neg connects]

/-! ## The bound -/

/-- Whatever the operations reply and ask for, and whatever the transport answers: driving a stack
comes to an end, after at most twice as many steps as are allowed without waiting and one for each
operation of the stack, up to one. While operations go on no more often than allowed, the call is
not given up for it. If it is, they went on exactly once more than that; the reply says that this is
a defect, what was on the stack is called off, topmost first, nothing is left on it, and the session
is forgotten exactly if the command was to connect. -/
theorem drive_within (env : Env) (below : List ω) (event : Event ω) (top : ω) (desk : Desk τ ω) :
    let allowed := env.settings.maxContinue.toNat
    let first : Turn τ ω := ⟨allowed, below, event, top, desk⟩
    (∃ turns outcome, Turn.Through env first turns outcome) ∧
    ∀ turns outcome, Turn.Through env first turns outcome →
      outcome = drive env allowed below event top desk ∧
      turns.length ≤ 2 * allowed + (top :: below).length + 1 ∧
      (¬ Turn.RunsOut env turns → Turn.goings env turns ≤ allowed) ∧
      (Turn.RunsOut env turns →
        Turn.goings env turns = allowed + 1 ∧
        outcome.reply = .internalError ∧
        outcome.stack = [] ∧
        ∃ last after text, turns.getLast? = some last ∧
          CalledOff env ((last.step env).operation :: last.below)
            ((last.step env).noted.note .error text) after ∧
          outcome.desk =
            { after with
              pending := none
              session :=
                if ((last.step env).operation :: last.below).getLast?.map HasKind.kind =
                  some .connect then {} else after.session }) := by
  intro allowed first
  refine ⟨Turn.Through.exists_turns env first, ?_⟩
  intro turns outcome through
  refine ⟨through.outcome_eq, ?_, through.goings_eq.2, ?_⟩
  · have most := through.length_le
    simp only [Turn.reach, first] at most
    simp only [List.length_cons]
    omega
  · intro out
    obtain ⟨last, lastly, again⟩ := id out
    obtain rfl := through.gives_up lastly again
    obtain ⟨after, called, left⟩ := abandon_calledOff env
      ((last.step env).operation :: last.below)
      ((last.step env).noted.note .error
        ((HasKind.kind (last.step env).operation).text ++ " continued " ++
          toString (env.settings.maxContinue.toNat + 1) ++ " times without waiting, giving up"))
    exact ⟨through.goings_eq.1 out, rfl, rfl, last, after, _, lastly, called, left⟩

/-- A call of an engine may use all the steps its settings allow. -/
theorem Engine.opening_budget {engine : Engine τ ω} {call : Engine.Call} {first : Turn τ ω}
    (opened : engine.opening call = some first) :
    first.budget = engine.settings.maxContinue.toNat := by
  rcases opening_eq_some opened with ⟨command, operation, rfl, -, rfl⟩ | ⟨top, below, rfl, -, rfl⟩
  · rfl
  · rfl

/-- An operation that never stops asking for another one of its kind, where one step is allowed
without waiting: it is told to act, so is its subcommand, and both are called off. -/
theorem drive_within_stubborn :
    let env : Env := ⟨{ Settings.default with maxContinue := 1 }, 0⟩
    let circling : Stubborn := ⟨.again, true⟩
    let desk : Desk Scripted Stubborn := { transport := {} }
    ∃ turns : List (Turn Scripted Stubborn),
      Turn.RunsOut env turns ∧ turns.length ≤ 4 ∧ Turn.goings env turns = 2 ∧
      (drive env 1 [] .send circling desk).reply = .internalError ∧
      (drive env 1 [] .send circling desk).stack = [] := by
  intro env circling desk
  let first : Turn Scripted Stubborn :=
    ⟨env.settings.maxContinue.toNat, [], .send, circling, desk⟩
  let second : Turn Scripted Stubborn := (first.step env).onward 0 []
  have goes : first.next env = .inr second := Step.next_of_again rfl
  have ends : second.next env = .inl (giveUp env (second.step env).operation second.below
      (second.step env).noted) := Step.next_of_spent rfl
  have through : Turn.Through env first [first, second] _ := .more goes (.last ends)
  obtain ⟨driven, short, -, spent⟩ :=
    (drive_within env [] .send circling desk).2 _ _ through
  have out : Turn.RunsOut env [first, second] := ⟨second, rfl, rfl⟩
  obtain ⟨often, reply, stack, -⟩ := spent out
  refine ⟨_, out, short, often, ?_, ?_⟩
  · exact driven ▸ reply
  · exact driven ▸ stack

end Courier
