import Courier.Proofs.Calls

/-!
# Runs retraced

A run is a sequence of calls and a call a sequence of turns. What happens once in a run, or not
before something else has happened, concerns the turns of all its calls in the order in which they
are taken. So a run is retraced here turn by turn, whatever the operations and the transport are.
-/

namespace Courier

variable {τ ω : Type} [Transport τ] [Behaviour ω]

/-- The rule for calls where a turn is seen together with the turns before it, newest first. -/
theorem Turn.Through.rule {env : Env} {P : List (Turn τ ω) → Turn τ ω → Prop}
    {Q : List (Turn τ ω) → Outcome τ ω → Prop}
    (turns : ∀ earlier turn after, P earlier turn → turn.next env = .inr after →
      P (turn :: earlier) after)
    (ends : ∀ earlier turn outcome, P earlier turn → turn.next env = .inl outcome →
      Q (turn :: earlier) outcome)
    {first : Turn τ ω} {taken earlier : List (Turn τ ω)} {outcome : Outcome τ ω}
    (through : first.Through env taken outcome) (start : P earlier first) :
    Q (taken.reverse ++ earlier) outcome := by
  induction through generalizing earlier with
  | last stops => exact ends _ _ _ start stops
  | more goes _ ih =>
      rw [List.reverse_cons, List.append_assoc]
      exact ih (turns _ _ _ start goes)

namespace Engine

/-- The engine comes up in a run in which these turns were taken, newest first. -/
inductive Retraced (good : Transport.States τ) (meanwhile : Engine τ ω → Engine τ ω → Prop) :
    List (Turn τ ω) → Engine τ ω → Prop
  | fresh {engine : Engine τ ω} (new : engine.IsFresh) (transport : good engine.desk.transport) :
      Retraced good meanwhile [] engine
  /-- A call that drives the stack takes its turns. -/
  | driven {engine : Engine τ ω} {turns taken : List (Turn τ ω)} {call : Call} {first : Turn τ ω}
      {outcome : Outcome τ ω} (before : Retraced good meanwhile turns engine)
      (may : engine.MayMake good call) (opened : engine.opening call = some first)
      (through : first.Through engine.env taken outcome) :
      Retraced good meanwhile (taken.reverse ++ turns) (engine.take outcome).2
  /-- No other call takes any. -/
  | still {engine : Engine τ ω} {turns : List (Turn τ ω)} {call : Call}
      (before : Retraced good meanwhile turns engine) (closed : engine.opening call = none) :
      Retraced good meanwhile turns (engine.make call).2
  | wait {engine after : Engine τ ω} {turns : List (Turn τ ω)}
      (before : Retraced good meanwhile turns engine) (drifts : meanwhile engine after) :
      Retraced good meanwhile turns after

variable {good : Transport.States τ} {meanwhile : Engine τ ω → Engine τ ω → Prop}
  {engine : Engine τ ω} {turns : List (Turn τ ω)}

/-- What is retraced is a run. -/
theorem Retraced.run (retraced : Retraced good meanwhile turns engine) :
    Run good meanwhile engine := by
  induction retraced with
  | fresh new transport => exact .fresh new transport
  | @driven engine turns taken call first outcome _ may opened through ih =>
      have made := ih.call call may
      rwa [make_of_opening opened, ← through.outcome_eq] at made
  | still _ closed ih =>
      refine ih.call _ ?_
      rintro rfl busy
      exact absurd (stack_of_not_resumed closed) busy
  | wait _ drifts ih => exact ih.wait drifts

/-- Every run can be retraced. -/
theorem Run.exists_retraced (run : Run good meanwhile engine) :
    ∃ turns, Retraced good meanwhile turns engine := by
  induction run with
  | fresh new transport => exact ⟨[], .fresh new transport⟩
  | @call engine _ call may ih =>
      obtain ⟨turns, retraced⟩ := ih
      cases opened : engine.opening call with
      | some first =>
          obtain ⟨taken, outcome, through⟩ := Turn.Through.exists_turns engine.env first
          refine ⟨taken.reverse ++ turns, ?_⟩
          rw [make_of_opening opened, ← through.outcome_eq]
          exact retraced.driven may opened through
      | none => exact ⟨turns, retraced.still opened⟩
  | wait _ drifts ih =>
      obtain ⟨turns, retraced⟩ := ih
      exact ⟨turns, retraced.wait drifts⟩

end Engine

end Courier
