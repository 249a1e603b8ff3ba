import Courier.Proofs.Allowance
import Courier.Proofs.Calls
import Courier.Proofs.Course

/-!
# Who goes on without waiting

The limit on steps without waiting is there for operations that go round in circles. Those of the
commands do not: in one call at most two steps go on, one that asks for a subcommand, or gives up
on it before it has begun, and one that hears how it ended. What is left to do then sends a line,
connects or ends. So a limit of two never gets in the way of a command, but the least limit that
settings may have, one, does where a subcommand ends in the call that started it: a directory is
entered already, or cannot be entered, or the time to the next attempt is over at once.
-/

namespace Courier

/-- The settings pass only with a step allowed without waiting. -/
theorem Settings.maxContinue_pos {settings : Settings} (valid : settings.validate = .ok ()) :
    0 < settings.maxContinue.toNat := by
  unfold validate at valid
  split at valid
  · cases valid
  · split at valid
    · cases valid
    · rename_i allowed
      exact UInt32.lt_iff_toNat_lt.1 (UInt32.pos_iff_ne_zero.2 allowed)

variable {τ : Type} [Transport τ] {good : Transport.States τ}

namespace Turn

/-! ## What is left to go on for -/

/-- How often operations may still go on, in this turn and in those after it. -/
def strides (turn : Turn τ Operation) : Nat :=
  match turn.event with
  | .completed => 2
  | .returned _ _ => 1
  | .send =>
    if turn.top.hasBegun = false then 2
    else if turn.top.isSubcommand then 1
    else 0

omit [Transport τ] in
theorem strides_le (turn : Turn τ Operation) : turn.strides ≤ 2 := by
  unfold strides
  split
  · omega
  · omega
  · split
    · omega
    · split <;> omega

section Steps

variable {turn : Turn τ Operation} {env : Env}

/-- An operation goes on only when there is something left to go on for. -/
theorem strides_of_again (answers : Transport.NeverGoesOn good) (fits : turn.Fits good)
    (again : (turn.step env).reply = .again) :
    turn.event = .send ∧ turn.strides = 2 ∨ turn.event = .completed ∧ turn.strides = 2 ∨
      (∃ reply finished, turn.event = .returned reply finished) ∧ turn.strides = 1 := by
  obtain ⟨budget, below, event, top, desk⟩ := turn
  cases event with
  | send =>
      -- a step that goes on when told to act is the first one of its operation
      have idle : top.hasBegun = false := by
        refine Operation.send_again answers ?_
          (show (top.send env { desk with pending := none }).reply = .again from again)
        exact fits.transport
      exact .inl ⟨rfl, if_pos idle⟩
  | completed => exact .inr (.inl ⟨rfl, rfl⟩)
  | returned reply finished => exact .inr (.inr ⟨⟨reply, finished, rfl⟩, rfl⟩)

omit [Transport τ] in
/-- A subcommand that is asked for has one step to go on for, which hears of its end. -/
theorem strides_onward_asked {left : Nat} {below : List Operation}
    {step : Step τ Operation Operation} {child : Operation} (asked : step.desk.pending = some child)
    (waits : step.operation.WaitsFor child) : (step.onward left below).strides = 1 := by
  rw [Step.onward_of_asks asked]
  unfold strides
  simp only [waits.child_hasBegun, waits.isSubcommand]
  rfl

omit [Transport τ] in
/-- Whoever goes on alone has nothing left to go on for. -/
theorem strides_onward_silent {left : Nat} {below : List Operation}
    {step : Step τ Operation Operation} (silent : step.desk.pending = none)
    (begun : step.operation.hasBegun = true) (command : step.operation.isSubcommand = false) :
    (step.onward left below).strides = 0 := by
  rw [Step.onward_of_silent silent]
  unfold strides
  simp only [begun, command]
  rfl

/-- A step that goes on leaves one thing less to go on for. -/
theorem strides_next (answers : Transport.NeverGoesOn good) (fits : turn.Fits good)
    {after : Turn τ Operation} (next : turn.next env = .inr after) :
    after.strides + (if (turn.step env).reply = .again then 1 else 0) ≤ turn.strides := by
  have sound := fits.sound answers env
  rcases Step.next_eq_inr next with ⟨again, left, -, rfl⟩ | ⟨stops, -, -, parent, rest, below, rfl⟩
  · rw [if_pos again]
    obtain ⟨command, goesOn⟩ := sound.goesOn again
    have begun : (turn.step env).operation.hasBegun = true := Operation.step_again_begun again
    cases asked : (turn.step env).desk.pending with
    | none =>
        rw [strides_onward_silent asked begun (sound.succeeds.isSubcommand.trans command)]
        rcases strides_of_again answers fits again with ⟨-, most⟩ | ⟨-, most⟩ | ⟨-, most⟩ <;> omega
    | some child =>
        simp only [asked] at goesOn
        rw [strides_onward_asked asked goesOn.1]
        rcases strides_of_again answers fits again with ⟨-, most⟩ | ⟨-, most⟩ |
          ⟨⟨reply, finished, hears⟩, -⟩
        · omega
        · omega
        · -- nobody asks for a subcommand on hearing how another one ended
          obtain ⟨budget, below, event, top, desk⟩ := turn
          obtain rfl : event = .returned reply finished := hears
          have none_asked :=
            Operation.returned_asks reply finished top { desk with pending := none }
          exact absurd (none_asked.symm.trans asked) (by rintro ⟨⟩)
  · -- what ends above another operation is a subcommand, and it was told something
    rw [if_neg stops]
    have asker := (below ▸ fits.below : FitsBelow turn.top (parent :: rest)).asked.1
    have hears : (Turn.strides ((turn.step env).upward turn.budget parent rest)) = 1 := rfl
    have left : 1 ≤ turn.strides := by
      unfold strides
      split
      · omega
      · omega
      · rw [asker.isSubcommand]
        simp only [if_true]
        split <;> omega
    omega

end Steps

/-! ## Whole calls -/

/-- All that goes on, up to the last turn, had something to go on for. -/
theorem Through.goings_le {env : Env} {turn : Turn τ Operation} {turns : List (Turn τ Operation)}
    {outcome : Outcome τ Operation} (answers : Transport.NeverGoesOn good)
    (through : Through env turn turns outcome) (fits : turn.Fits good) :
    ∃ last, turns.getLast? = some last ∧ last.Fits good ∧
      goings env turns + last.strides ≤
        turn.strides + if (last.step env).reply = .again then 1 else 0 := by
  induction through with
  | @last turn outcome ends =>
      refine ⟨turn, rfl, fits, ?_⟩
      simp only [goings, List.countP_singleton, decide_eq_true_eq]
      omega
  | @more turn after rest outcome goes through ih =>
      obtain ⟨last, lastly, lastFits, most⟩ := ih (fits.next answers goes)
      refine ⟨last, ?_, lastFits, ?_⟩
      · rw [List.getLast?_cons_of_ne_nil through.ne_nil]
        exact lastly
      · have less := strides_next answers fits goes
        simp only [goings, List.countP_cons, decide_eq_true_eq] at most ⊢
        omega

end Turn

namespace Engine

/-- In every run over a transport that never tells an operation to go on, with any settings that
pass: no call sees more than two steps that go on without waiting. It is given up for that exactly
if there are two and the limit is one, and then the second step is that of an operation which hears
that its directory was entered, or was not, or that the time to its next attempt is over. -/
theorem continues_at_most_twice (answers : Transport.NeverGoesOn good)
    {engine : Engine τ Operation} (reachable : engine.Reachable good)
    (valid : engine.settings.validate = .ok ()) {call : Call} (may : engine.MayMake good call)
    {first : Turn τ Operation} (opened : engine.opening call = some first)
    {turns : List (Turn τ Operation)} {outcome : Outcome τ Operation}
    (through : Turn.Through engine.env first turns outcome) :
    engine.make call = engine.take outcome ∧
    Turn.goings engine.env turns ≤ 2 ∧
    (Turn.RunsOut engine.env turns ↔
      engine.settings.maxContinue = 1 ∧ Turn.goings engine.env turns = 2) ∧
    (Turn.RunsOut engine.env turns → ∃ last reply finished, turns.getLast? = some last ∧
      last.event = .returned reply finished ∧
      (last.top.entering?.isSome = true ∨ last.top.isRetrying = true)) := by
  have allowed : first.budget = engine.settings.maxContinue.toNat := opening_budget opened
  have least := Settings.maxContinue_pos valid
  obtain ⟨last, lastly, fits, most⟩ :=
    through.goings_le answers ((rests_of_reachable answers reachable).opening may opened)
  have start := first.strides_le
  -- a last turn that goes on has something left to go on for, so two in all are the most
  have goesOn : (last.step engine.env).reply = .again → 1 ≤ last.strides := by
    intro again
    rcases Turn.strides_of_again answers fits again with ⟨-, left⟩ | ⟨-, left⟩ | ⟨-, left⟩ <;> omega
  have twice : Turn.goings engine.env turns ≤ 2 := by
    by_cases again : (last.step engine.env).reply = .again
    · have left := goesOn again
      rw [if_pos again] at most
      omega
    · rw [if_neg again] at most
      omega
  have counted := through.goings_eq
  rw [allowed] at counted
  refine ⟨?_, twice, ?_, ?_⟩
  · rw [make_of_opening opened, through.outcome_eq]
  · constructor
    · intro out
      have all := counted.1 out
      have one : engine.settings.maxContinue.toNat = 1 := by omega
      exact ⟨UInt32.toNat_inj.1 one, by omega⟩
    · rintro ⟨one, two⟩
      by_contra stays
      have kept := counted.2 stays
      rw [two, one] at kept
      exact absurd kept (by decide)
  · intro out
    obtain ⟨ending, lastly', again⟩ := id out
    obtain rfl : last = ending := Option.some.inj (lastly.symm.trans lastly')
    have all := counted.1 out
    rw [if_pos again] at most
    rcases Turn.strides_of_again answers fits again with ⟨-, left⟩ | ⟨-, left⟩ |
      ⟨⟨reply, finished, hears⟩, -⟩
    · omega
    · omega
    · refine ⟨last, reply, finished, lastly, hears, ?_⟩
      have expected := fits.expected
      rw [hears] at expected
      rcases Bool.or_eq_true_iff.1 expected with enters | retries
      · exact .inl enters
      · exact .inr (Bool.and_eq_true_iff.1 retries).1

/-! ## The least limit -/

/-- A change of permissions. -/
def changing : Command := .chmod ⟨.root, "f", "644"⟩

/-- An engine that allows so many steps without waiting and has made such a change before, so that
the directory is entered. -/
def patient (allowed : UInt32) : Engine Scripted Operation :=
  after { rehearsed {} with settings := { Settings.default with maxContinue := allowed } }
    (connecting ++ [.execute changing, .resume, .resume])

theorem patient_reachable (allowed : UInt32) :
    (patient allowed).Reachable (Scripted.Keeps (· ≠ .again) (· ≠ .again)) :=
  Run.after (.fresh ⟨rfl, rfl, rfl⟩ (.of_unscripted rfl rfl rfl Reply.again_ne_ok.symm)) _

/-- With one step allowed, the change is given up as if it went round in circles. -/
theorem continues_at_most_twice_chmod :
    ∃ (first : Turn Scripted Operation) (turns : List (Turn Scripted Operation)) (outcome : _),
      (patient 1).opening (.execute changing) = some first ∧
      Turn.Through (patient 1).env first turns outcome ∧
      Turn.RunsOut (patient 1).env turns ∧ Turn.goings (patient 1).env turns = 2 := by
  have answers : Transport.NeverGoesOn
      (Scripted.Keeps (· ≠ .again) (· ≠ .again) : Transport.States Scripted) :=
    Scripted.answers (by decide) _
  have idle : (patient 1).IsIdleOverSftp :=
    ⟨List.isEmpty_iff.1 (by decide +kernel), by decide +kernel, stage, by decide +kernel, rfl⟩
  have accepted : (patient 1).accept changing = .ok (.chmod { request := ⟨.root, "f", "644"⟩ }) :=
    accept_of_idle idle (by decide +kernel) (by rintro request ⟨⟩) rfl
  let first := (patient 1).starting changing (.chmod { request := ⟨.root, "f", "644"⟩ })
  have opened : (patient 1).opening (.execute changing) = some first :=
    opening_of_accepted accepted
  have allowed : first.budget = 0 + 1 := by decide +kernel
  let second := (first.step (patient 1).env).onward 0 []
  let third := (second.step (patient 1).env).upward 0 (first.step (patient 1).env).operation []
  have goes : first.next (patient 1).env = .inr second := by
    rw [Turn.next, allowed]
    exact Step.next_of_again rfl
  -- the directory is entered already, so its change ends at once
  have returns : second.next (patient 1).env = .inr third :=
    Step.next_of_returns (by decide +kernel) (by decide +kernel)
      (Option.isNone_iff_eq_none.1 (by decide +kernel))
  have spent : third.next (patient 1).env = .inl _ := Step.next_of_spent rfl
  have through : Turn.Through (patient 1).env first [first, second, third] _ :=
    .more goes (.more returns (.last spent))
  have out : Turn.RunsOut (patient 1).env [first, second, third] := ⟨third, rfl, rfl⟩
  obtain ⟨-, -, twice, -⟩ :=
    continues_at_most_twice answers (patient_reachable 1) (by decide +kernel)
      (mayMake_execute changing) opened through
  exact ⟨first, _, _, opened, through, out, (twice.1 out).2⟩

/-- Nothing in it goes round in circles: with two steps allowed, the line is sent. -/
theorem chmod_refused_by_valid_limit :
    (patient 1).settings.validate = .ok () ∧
      (patient 1).Reachable (Scripted.Keeps (· ≠ .again) (· ≠ .again)) ∧
      changing.valid = true ∧
      ((patient 1).execute changing).1 = .internalError ∧
      ((patient 1).execute changing).2.desk.errors =
        [.message .error "CHMOD continued 2 times without waiting, giving up"] ∧
      ((patient 2).execute changing).1 = .wouldBlock := by
  refine ⟨by decide +kernel, patient_reachable 1, by decide +kernel, by decide +kernel,
    by decide +kernel, by decide +kernel⟩

end Engine

end Courier
