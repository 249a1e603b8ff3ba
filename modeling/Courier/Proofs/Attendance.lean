import Courier.Proofs.Admission
import Courier.Transport.Rehearsal

/-!
# Commands that are attended to

Whoever attends to a command waits for the transport as often as the engine asks for it, and cancels
the command when a wait is ended by a signal. A wait is a race between the two. The signal is looked
at whenever the transport gives way, and before the transport begins, so a raised signal wins. What
the transport gets done in a wait, and when others raise and lower the signal or let go of it, is
arbitrary here.

A command that is attended to ends as it would for an owner who lets the transport finish its work
and reports the completion each time, unless a wait is ended by the signal. Then this wait is the
last one, and the command is given up.
-/

namespace Courier

/-! ## The race -/

/-- Something a transport gets done while it is waited for. In the journal it leaves only that. -/
structure Work (τ : Type) where
  perform : WaitRoom τ → WaitRoom τ
  waits : ∀ room, ∃ waits, (∀ happening ∈ waits, happening.isWait = true) ∧
    (perform room).journal.happenings = waits ++ room.journal.happenings

/-- What happens next in the course of a wait: the transport works, gives way or stalls, or somebody
does something to the signal. -/
inductive WaitAct (τ : Type) where
  | works (work : Work τ)
  | acts (action : WaitAction)

namespace WaitAct

variable {τ : Type}

/-- What happens in a wait, up to the point where the signal is found raised. -/
def race : List (WaitAct τ) → Option Signal → WaitRoom τ →
    Option (WaitEnd × Option Signal × WaitRoom τ)
  | [], signal, room => some (.completed, signal, room)
  | .works work :: rest, signal, room => race rest signal (work.perform room)
  | .acts action :: rest, signal, room =>
    match WaitAction.perform [action] signal with
    | .done signal => race rest signal room
    | .interrupted signal => some (.interrupted, signal, room)
    | .stuck => none

/-- All work that is done in a wait which nothing interrupts. -/
def workAll : List (WaitAct τ) → WaitRoom τ → WaitRoom τ
  | [], room => room
  | .works work :: rest, room => workAll rest (work.perform room)
  | .acts _ :: rest, room => workAll rest room

end WaitAct

/-- There is no signal, or nobody is left who could raise it and nobody has. -/
def IsGone (signal : Option Signal) : Prop :=
  ∀ present, signal = some present → present.raised = false ∧ present.attached = false

namespace IsGone

variable {signal : Option Signal}

theorem not_isRaised (gone : IsGone signal) : isRaised signal = false := by
  cases signal with
  | none => rfl
  | some present => exact (gone present rfl).1

/-- Nobody sets the signal any more. -/
theorem map_set (gone : IsGone signal) (raised : Bool) :
    signal.map (·.set raised) = signal := by
  cases signal with
  | none => rfl
  | some present =>
      obtain ⟨-, detached⟩ := gone present rfl
      show some (present.set raised) = some present
      unfold Signal.set
      rw [detached]
      rfl

theorem hangUp (gone : IsGone signal) :
    IsGone (signal.map ({ · with attached := false })) := by
  intro present same
  obtain ⟨former, rfl, rfl⟩ := Option.map_eq_some_iff.1 same
  exact ⟨(gone former rfl).1, rfl⟩

end IsGone

namespace WaitAction

variable {signal : Option Signal}

/-- Only a raised signal interrupts. -/
theorem isRaised_of_interrupted {action : WaitAction} {after : Option Signal}
    (h : perform [action] signal = .interrupted after) : isRaised after = true := by
  cases action with
  | giveWay =>
      unfold perform at h
      split at h
      · rename_i raised
        cases h
        exact raised
      · cases h
  | stall =>
      unfold perform at h
      split at h
      · rename_i raised
        cases h
        exact raised
      · cases h
  | _ => cases h

/-- A signal that is gone stays so, and interrupts nothing. -/
theorem perform_of_gone (gone : IsGone signal) (action : WaitAction) :
    perform [action] signal = .stuck ∨
      ∃ after, perform [action] signal = .done after ∧ IsGone after := by
  have silent : ¬isRaised signal = true := Bool.eq_false_iff.1 gone.not_isRaised
  cases action with
  | giveWay => exact .inr ⟨signal, if_neg silent, gone⟩
  | stall => exact .inl (if_neg silent)
  | raise =>
      refine .inr ⟨signal, ?_, gone⟩
      show WaitCourse.done (signal.map (·.set true)) = _
      rw [gone.map_set]
  | lower =>
      refine .inr ⟨signal, ?_, gone⟩
      show WaitCourse.done (signal.map (·.set false)) = _
      rw [gone.map_set]
  | hangUp => exact .inr ⟨_, rfl, gone.hangUp⟩

/-- Actions are performed one at a time. -/
theorem perform_cons (action : WaitAction) (rest : List WaitAction) (signal : Option Signal) :
    perform (action :: rest) signal =
      match perform [action] signal with
      | .done signal => perform rest signal
      | .interrupted signal => .interrupted signal
      | .stuck => .stuck := by
  cases action with
  | giveWay =>
      by_cases raised : isRaised signal = true
      · simp only [perform, if_pos raised]
      · simp only [perform, if_neg raised]
  | stall =>
      by_cases raised : isRaised signal = true
      · simp only [perform, if_pos raised]
      · simp only [perform, if_neg raised]
  | _ => rfl

end WaitAction

namespace WaitAct

variable {τ : Type} {acts : List (WaitAct τ)} {signal after : Option Signal}
  {room left : WaitRoom τ} {ending : WaitEnd}

theorem race_acts (action : WaitAction) (rest : List (WaitAct τ)) (signal : Option Signal)
    (room : WaitRoom τ) :
    race (.acts action :: rest) signal room =
      match WaitAction.perform [action] signal with
      | .done signal => race rest signal room
      | .interrupted signal => some (.interrupted, signal, room)
      | .stuck => none := by
  rw [race]

/-- Nothing was left undone in a wait that was completed. -/
theorem race_completed (h : race acts signal room = some (.completed, after, left)) :
    left = workAll acts room := by
  induction acts generalizing signal room with
  | nil =>
      cases h
      rfl
  | cons act rest ih =>
      cases act with
      | works work => exact ih h
      | acts action =>
          unfold race at h
          split at h
          · exact ih h
          · cases h
          · cases h

theorem race_interrupted (h : race acts signal room = some (.interrupted, after, left)) :
    isRaised after = true := by
  induction acts generalizing signal room with
  | nil => cases h
  | cons act rest ih =>
      cases act with
      | works work => exact ih h
      | acts action =>
          unfold race at h
          split at h
          · exact ih h
          · rename_i interrupted
            cases h
            exact WaitAction.isRaised_of_interrupted interrupted
          · cases h

/-- However a wait ends, nothing but waiting goes on record. -/
theorem race_waits (h : race acts signal room = some (ending, after, left)) :
    ∃ waits, (∀ happening ∈ waits, happening.isWait = true) ∧
      left.journal.happenings = waits ++ room.journal.happenings := by
  induction acts generalizing signal room with
  | nil =>
      cases h
      exact ⟨[], List.forall_mem_nil _, rfl⟩
  | cons act rest ih =>
      cases act with
      | works work =>
          obtain ⟨later, laterAll, past⟩ := ih h
          obtain ⟨waits, all, before⟩ := work.waits room
          refine ⟨later ++ waits, ?_, ?_⟩
          · intro happening mem
            rcases List.mem_append.1 mem with mem | mem
            · exact laterAll happening mem
            · exact all happening mem
          · rw [past, before, List.append_assoc]
      | acts action =>
          unfold race at h
          split at h
          · exact ih h
          · cases h
            exact ⟨[], List.forall_mem_nil _, rfl⟩
          · cases h

/-- A signal that is gone ends no wait. -/
theorem race_of_gone (gone : IsGone signal)
    (h : race acts signal room = some (ending, after, left)) :
    ending = .completed ∧ IsGone after := by
  induction acts generalizing signal room with
  | nil =>
      cases h
      exact ⟨rfl, gone⟩
  | cons act rest ih =>
      cases act with
      | works work => exact ih gone h
      | acts action =>
          unfold race at h
          rcases WaitAction.perform_of_gone gone action with stuck | ⟨later, done, still⟩
          · rw [stuck] at h
            cases h
          · rw [done] at h
            exact ih still h

/-- The transport does not even begin while the signal is raised. -/
theorem race_of_raised (raised : isRaised signal = true) (acts : List (WaitAct τ))
    (room : WaitRoom τ) :
    race (.acts .giveWay :: acts) signal room = some (.interrupted, signal, room) := by
  have seen : WaitAction.perform [.giveWay] signal = .interrupted signal := if_pos raised
  rw [race_acts, seen]

end WaitAct

/-! ## Attending -/

namespace Engine

section Attending

variable {τ ω σ ρ : Type} [Transport τ] [Behaviour ω]

/-- Waits in which the transport takes the course that `course` has for it, in the state of things
it depends on. -/
def racing (course : ρ → WaitRoom τ → ρ × List (WaitAct τ)) (state : Option Signal × ρ)
    (room : WaitRoom τ) : Option (WaitEnd × (Option Signal × ρ) × WaitRoom τ) :=
  let (later, acts) := course state.2 room
  (WaitAct.race (.acts .giveWay :: acts) state.1 room).map fun (ending, signal, room) =>
    (ending, (signal, later), room)

/-- What an owner makes of a command who lets the transport do all its work each time and reports
the completion, as long as the engine asks for it and at most `limit` times. -/
def serve (course : ρ → WaitRoom τ → ρ × List (WaitAct τ)) :
    (limit : Nat) → ρ → Reply × Engine τ ω → Option (Reply × Engine τ ω)
  | limit, r, (reply, engine) =>
    if reply = .wouldBlock then
      match limit with
      | 0 => none
      | limit + 1 =>
        let (later, acts) := course r engine.waitRoom
        serve course limit later
          (engine.afterWait (WaitAct.workAll acts engine.waitRoom)).resume
    else some (reply, engine)

/-- From a call on, a command is attended to until it ends. The waits end as listed, in order. -/
inductive Attended (wait : σ → WaitRoom τ → Option (WaitEnd × σ × WaitRoom τ)) :
    σ → Reply × Engine τ ω → List WaitEnd → Reply × σ × Engine τ ω → Prop
  | ended (s : σ) (engine : Engine τ ω) {reply : Reply} (stops : reply ≠ .wouldBlock) :
      Attended wait s (reply, engine) [] (reply, s, engine)
  | waits {s later : σ} {engine : Engine τ ω} {ending : WaitEnd} {room : WaitRoom τ}
      {ends : List WaitEnd} {result : Reply × σ × Engine τ ω}
      (waited : wait s engine.waitRoom = some (ending, later, room))
      (rest : Attended wait later (continueAfter ending (engine.afterWait room)) ends result) :
      Attended wait s (.wouldBlock, engine) (ending :: ends) result

variable {wait : σ → WaitRoom τ → Option (WaitEnd × σ × WaitRoom τ)} {s : σ}
  {state : Reply × Engine τ ω} {ends : List WaitEnd} {result : Reply × σ × Engine τ ω}

theorem exists_attended {limit : Nat} (h : attend wait limit s state = some result) :
    ∃ ends, ends.length ≤ limit ∧ Attended wait s state ends result := by
  induction limit generalizing s state with
  | zero =>
      obtain ⟨reply, engine⟩ := state
      unfold attend at h
      split at h
      · cases h
      · rename_i stops
        cases h
        exact ⟨[], Nat.le_refl _, .ended s engine stops⟩
  | succ limit ih =>
      obtain ⟨reply, engine⟩ := state
      unfold attend at h
      split at h
      · rename_i waits
        subst waits
        simp only at h
        split at h
        · cases h
        · rename_i ending later room waited
          obtain ⟨ends, few, rest⟩ := ih h
          exact ⟨ending :: ends, Nat.succ_le_succ few, .waits waited rest⟩
      · rename_i stops
        cases h
        exact ⟨[], Nat.zero_le _, .ended s engine stops⟩

omit [Transport τ] in
/-- Waiting takes no operation off the stack. -/
theorem isBusy_afterWait (engine : Engine τ ω) (room : WaitRoom τ) :
    (engine.afterWait room).isBusy = engine.isBusy := by
  obtain ⟨desk, stack, settings, now⟩ := engine
  obtain ⟨transport, store, channel, journal⟩ := room
  cases stack with
  | nil => rfl
  | cons top below =>
      cases channel with
      | none => rfl
      | some channel => rfl

theorem cancel_of_busy {engine : Engine τ ω} (busy : engine.isBusy = true) :
    engine.cancel =
      (.canceled,
        { engine with
          desk := (abandon engine.env engine.stack
            ((engine.desk.record .canceled).note .info "Command canceled")).abort
          stack := [] }) := if_pos busy

/-- An engine that was interrupted while it waited cancels its command. -/
theorem continueAfter_interrupted {engine : Engine τ ω} (busy : engine.isBusy = true) :
    continueAfter .interrupted engine =
      (.canceled,
        { engine with
          desk := (abandon engine.env engine.stack
            (((engine.desk.note .debug "cancellation requested").record .canceled).note .info
              "Command canceled")).abort
          stack := [] }) := by
  refine cancel_of_busy ?_
  exact busy

/-- The reply is one that engines give, and tells whether the engine is busy. -/
structure Tells (state : Reply × Engine τ ω) : Prop where
  stops : state.1 ≠ .again
  busy : state.1 = .wouldBlock ↔ state.2.isBusy = true

theorem tells_execute {engine : Engine τ ω} (idle : engine.isBusy = false) (command : Command) :
    Tells (engine.execute command) :=
  ⟨engine.reply_ne_again (.execute command), engine.reply_tells_busy.1 idle command⟩

theorem tells_continueAfter {engine : Engine τ ω} (busy : engine.isBusy = true)
    (ending : WaitEnd) : Tells (continueAfter ending engine) := by
  cases ending with
  | completed =>
      exact ⟨engine.reply_ne_again .resume, (engine.reply_tells_busy.2.1 busy).1⟩
  | interrupted =>
      rw [continueAfter_interrupted busy]
      refine ⟨(by decide : Reply.canceled ≠ .again), ?_⟩
      show Reply.canceled = .wouldBlock ↔ false = true
      decide

/-- Whatever the waits come to, the command ends, and the engine is idle after it. -/
theorem Attended.ends_idle (attended : Attended wait s state ends result) (tells : Tells state) :
    result.1 ≠ .wouldBlock ∧ result.1 ≠ .again ∧ result.2.2.isBusy = false := by
  induction attended with
  | ended s engine stops =>
      refine ⟨stops, tells.stops, ?_⟩
      apply Bool.eq_false_iff.2
      intro busy
      exact stops (tells.busy.2 busy)
  | @waits s later engine ending room ends result waited rest ih =>
      have busy : engine.isBusy = true := tells.busy.1 rfl
      apply ih
      exact tells_continueAfter ((engine.isBusy_afterWait room).trans busy) ending

/-- A wait that ends by an interruption is the last one: the command is canceled. Before it the
engine is as completions leave it. -/
theorem Attended.interrupted_last {P : Engine τ ω → Prop}
    (keeps : ∀ s engine later room, P engine →
      wait s engine.waitRoom = some (.completed, later, room) → P (engine.afterWait room).resume.2)
    (attended : Attended wait s state ends result) (tells : Tells state) (start : P state.2)
    (interrupted : .interrupted ∈ ends) :
    ∃ front, ends = front ++ [.interrupted] ∧ .interrupted ∉ front ∧
      ∃ s engine room, P engine ∧ engine.isBusy = true ∧
        wait s engine.waitRoom = some (.interrupted, result.2.1, room) ∧ result.1 = .canceled ∧
          result.2.2 = (continueAfter .interrupted (engine.afterWait room)).2 := by
  induction attended with
  | ended s engine stops => cases interrupted
  | @waits s later engine ending room ends result waited rest ih =>
      have busy : engine.isBusy = true := tells.busy.1 rfl
      have still : (engine.afterWait room).isBusy = true :=
        (engine.isBusy_afterWait room).trans busy
      cases ending with
      | completed =>
          have later : .interrupted ∈ ends := by
            rcases List.mem_cons.1 interrupted with same | mem
            · cases same
            · exact mem
          obtain ⟨front, rfl, none, last⟩ :=
            ih (tells_continueAfter still .completed) (keeps s engine _ room start waited) later
          refine ⟨.completed :: front, rfl, ?_, last⟩
          intro mem
          rcases List.mem_cons.1 mem with same | mem
          · cases same
          · exact none mem
      | interrupted =>
          -- the reply to the cancellation asks for no further wait
          have canceled : (continueAfter .interrupted (engine.afterWait room)).1 = .canceled :=
            congrArg Prod.fst (continueAfter_interrupted still)
          generalize made : continueAfter .interrupted (engine.afterWait room) = state
            at canceled rest
          cases rest with
          | ended _ _ stops =>
              refine ⟨[], rfl, List.not_mem_nil, s, engine, room, start, busy, waited, canceled, ?_⟩
              rw [made]
          | waits waited rest => exact absurd canceled (by decide : Reply.wouldBlock ≠ .canceled)

end Attending

/-! ## Waits that are races -/

section Racing

variable {τ ω ρ : Type} [Transport τ] [Behaviour ω]
  {course : ρ → WaitRoom τ → ρ × List (WaitAct τ)} {r : ρ} {signal : Option Signal}
  {state : Reply × Engine τ ω} {ends : List WaitEnd}
  {result : Reply × (Option Signal × ρ) × Engine τ ω}

omit [Transport τ] in
theorem racing_eq_some {s later : Option Signal × ρ} {room left : WaitRoom τ} {ending : WaitEnd}
    (h : racing course s room = some (ending, later, left)) :
    WaitAct.race (.acts .giveWay :: (course s.2 room).2) s.1 room =
      some (ending, later.1, left) ∧ later.2 = (course s.2 room).1 := by
  obtain ⟨⟨_, signal, _⟩, raced, same⟩ := Option.map_eq_some_iff.1 h
  cases same
  exact ⟨raced, rfl⟩

/-- As long as no wait is interrupted, attending is serving. -/
theorem Attended.serves (attended : Attended (racing course) (signal, r) state ends result)
    (whole : .interrupted ∉ ends) :
    serve course ends.length r state = some (result.1, result.2.2) := by
  generalize start : (signal, r) = s at attended
  induction attended generalizing signal r with
  | ended s engine stops =>
      unfold serve
      exact if_neg stops
  | @waits s later engine ending room ends result waited rest ih =>
      subst start
      obtain ⟨first, others⟩ := List.ne_and_not_mem_of_not_mem_cons whole
      cases ending with
      | interrupted => exact absurd rfl first
      | completed =>
          obtain ⟨raced, next⟩ := racing_eq_some waited
          have done := WaitAct.race_completed raced
          change room = WaitAct.workAll (course r engine.waitRoom).2 engine.waitRoom at done
          unfold serve
          rw [if_pos rfl]
          show serve course ends.length (course r engine.waitRoom).1 _ = _
          rw [← done]
          exact ih others (Prod.ext rfl next.symm)

/-- A signal that is gone interrupts no wait. -/
theorem Attended.whole_of_gone
    (attended : Attended (racing course) (signal, r) state ends result) (gone : IsGone signal) :
    .interrupted ∉ ends := by
  generalize start : (signal, r) = s at attended
  induction attended generalizing signal r with
  | ended s engine stops => exact List.not_mem_nil
  | @waits s later engine ending room ends result waited rest ih =>
      subst start
      obtain ⟨rfl, still⟩ := WaitAct.race_of_gone gone (racing_eq_some waited).1
      intro mem
      rcases List.mem_cons.1 mem with same | mem
      · cases same
      · exact ih still rfl mem

/-- A raised signal ends the first wait. -/
theorem Attended.raised_first (attended : Attended (racing course) (signal, r) state ends result)
    (tells : Tells state) (raised : isRaised signal = true) (waits : state.1 = .wouldBlock) :
    ends = [.interrupted] ∧ result.1 = .canceled := by
  generalize start : (signal, r) = s at attended
  cases attended with
  | ended s engine stops => exact absurd waits stops
  | @waits s later engine ending room ends result waited rest =>
      subst start
      have first := (racing_eq_some waited).1
      rw [WaitAct.race_of_raised raised] at first
      obtain rfl : .interrupted = ending := by
        cases first
        rfl
      obtain ⟨front, all, none, _, _, _, -, -, -, canceled, -⟩ :=
        (Attended.waits waited rest).interrupted_last (P := fun _ => True)
          (fun _ _ _ _ _ _ => trivial) tells trivial List.mem_cons_self
      cases front with
      | nil => exact ⟨all, canceled⟩
      | cons ending front =>
          obtain ⟨rfl, -⟩ := List.cons.inj all
          exact absurd List.mem_cons_self none

end Racing

end Engine

/-! ## Rehearsed waits -/

namespace RehearsedWait

/-- That the transport was waited for goes on record. -/
def awaiting : Work Scripted where
  perform := fun room => room.record .awaited
  waits := fun _ => ⟨[.awaited], List.forall_mem_singleton.2 rfl, rfl⟩

def moving (wait : RehearsedWait) : Work Scripted where
  perform := wait.moveData
  waits := by
    intro room
    unfold moveData WaitRoom.pump
    cases room.channel with
    | none => exact ⟨[], List.forall_mem_nil _, rfl⟩
    | some channel => exact ⟨[.moved _], List.forall_mem_singleton.2 rfl, rfl⟩

def completing (wait : RehearsedWait) : Work Scripted where
  perform := wait.complete
  waits := fun _ => ⟨[], List.forall_mem_nil _, rfl⟩

/-- What happens in a rehearsed wait. -/
def acts (wait : RehearsedWait) : List (WaitAct Scripted) :=
  .works awaiting :: (wait.before.map .acts ++
    .works wait.moving :: (wait.after.map .acts ++ [.works wait.completing]))

theorem race_actions (actions : List WaitAction) (rest : List (WaitAct Scripted))
    (signal : Option Signal) (room : WaitRoom Scripted) :
    WaitAct.race (actions.map .acts ++ rest) signal room =
      match WaitAction.perform actions signal with
      | .done signal => WaitAct.race rest signal room
      | .interrupted signal => some (.interrupted, signal, room)
      | .stuck => none := by
  induction actions generalizing signal with
  | nil => rfl
  | cons action actions ih =>
      rw [WaitAction.perform_cons, List.map_cons, List.cons_append, WaitAct.race_acts]
      cases WaitAction.perform [action] signal with
      | done signal => exact ih signal
      | interrupted signal => rfl
      | stuck => rfl

theorem play_eq_race (wait : RehearsedWait) (signal : Option Signal) (room : WaitRoom Scripted) :
    wait.play signal room = WaitAct.race (.acts .giveWay :: wait.acts) signal room := by
  unfold play
  by_cases raised : isRaised signal = true
  · rw [if_pos raised, WaitAct.race_of_raised raised]
  · have passed : WaitAct.race (.acts .giveWay :: wait.acts) signal room =
        WaitAct.race wait.acts signal room := by
      have seen : WaitAction.perform [.giveWay] signal = .done signal := if_neg raised
      rw [WaitAct.race_acts, seen]
    have begun : WaitAct.race wait.acts signal room =
        WaitAct.race (wait.before.map .acts ++
          .works wait.moving :: (wait.after.map .acts ++ [.works wait.completing])) signal
          (room.record .awaited) := rfl
    rw [if_neg raised, passed, begun, race_actions]
    cases WaitAction.perform wait.before signal with
    | done signal =>
        show _ = WaitAct.race (wait.after.map .acts ++ [.works wait.completing]) signal
          (wait.moveData (room.record .awaited))
        rw [race_actions]
        dsimp only
        cases WaitAction.perform wait.after signal with
        | done signal => rfl
        | interrupted signal => rfl
        | stuck => rfl
    | interrupted signal => rfl
    | stuck => rfl

/-- Rehearsed waits are races. -/
theorem playNext_eq_racing :
    playNext = Engine.racing fun waits _ => (waits.tail, (waits.head?.getD {}).acts) := by
  funext state room
  exact congrArg (Option.map _) (play_eq_race _ state.1 room)

end RehearsedWait

/-! ## What goes on record -/

/-- From one history to a later one nothing was aborted. -/
def Unaborted (before after : List Happening) : Prop :=
  ∃ made, .aborted ∉ made ∧ after = made ++ before

namespace Unaborted

variable {before middle after : List Happening}

theorem refl (past : List Happening) : Unaborted past past := ⟨[], List.not_mem_nil, rfl⟩

theorem trans (first : Unaborted before middle) (second : Unaborted middle after) :
    Unaborted before after := by
  obtain ⟨former, none, rfl⟩ := first
  obtain ⟨later, none', rfl⟩ := second
  refine ⟨later ++ former, ?_, (List.append_assoc ..).symm⟩
  intro mem
  rcases List.mem_append.1 mem with mem | mem
  · exact none' mem
  · exact none mem

/-- Whatever operations do, they do not abort. -/
theorem of_deeds (deeds : Deeds before after) : Unaborted before after := by
  obtain ⟨made, all, past⟩ := deeds
  refine ⟨made, ?_, past⟩
  intro mem
  cases all _ mem

theorem of_waits {waits : List Happening}
    (all : ∀ happening ∈ waits, happening.isWait = true) : Unaborted before (waits ++ before) := by
  refine ⟨waits, ?_, rfl⟩
  intro mem
  cases all _ mem

theorem of_happening {happening : Happening} (other : happening ≠ .aborted) :
    Unaborted before (happening :: before) := by
  refine ⟨[happening], ?_, rfl⟩
  intro mem
  exact other (List.mem_singleton.1 mem).symm

end Unaborted

namespace Engine

variable {τ ρ : Type} [Transport τ] {engine : Engine τ Operation}

/-- Of all calls only those that give the command up abort. -/
theorem make_unaborted (engine : Engine τ Operation) (call : Call) (stays : call ≠ .cancel)
    (connected : call ≠ .connectionLost) :
    Unaborted engine.desk.past (engine.make call).2.desk.past := by
  cases opened : engine.opening call with
  | none =>
      obtain ⟨reply, desk, made, -, rfl | ⟨level, text, rfl⟩⟩ :=
        make_of_not_opened opened stays connected
      · rw [made]
        exact .refl _
      · rw [made]
        exact .refl _
  | some first =>
      rw [make_of_opening opened]
      refine Unaborted.trans ?_ (.of_deeds (first.drive_deeds engine.env))
      rcases opening_eq_some opened with ⟨command, operation, -, -, rfl⟩ | ⟨top, below, -, -, rfl⟩
      · exact .of_happening nofun
      · exact .of_happening nofun

theorem execute_unaborted (engine : Engine τ Operation) (command : Command) :
    Unaborted engine.desk.past (engine.execute command).2.desk.past :=
  engine.make_unaborted (.execute command) (by rintro ⟨⟩) (by rintro ⟨⟩)

theorem resume_unaborted (engine : Engine τ Operation) :
    Unaborted engine.desk.past engine.resume.2.desk.past :=
  engine.make_unaborted .resume (by rintro ⟨⟩) (by rintro ⟨⟩)

omit [Transport τ] in
/-- Waiting for the transport aborts nothing. -/
theorem racing_unaborted {course : ρ → WaitRoom τ → ρ × List (WaitAct τ)}
    {s later : Option Signal × ρ} {room : WaitRoom τ} {ending : WaitEnd}
    (waited : racing course s engine.waitRoom = some (ending, later, room)) :
    Unaborted engine.desk.past (engine.afterWait room).desk.past := by
  obtain ⟨waits, all, past⟩ := WaitAct.race_waits (racing_eq_some waited).1
  show Unaborted engine.desk.past room.journal.happenings
  rw [past]
  exact .of_waits all

/-- A command is canceled by one call to the transport, to abort; before it some entries in the
cache may be put in doubt. -/
theorem interrupted_past (busy : engine.isBusy = true) :
    ∃ doubts, (∀ happening ∈ doubts, happening.isDoubt = true) ∧
      (continueAfter .interrupted engine).2.desk.past =
        .aborted :: (doubts ++ .canceled :: engine.desk.past) := by
  rw [continueAfter_interrupted busy]
  obtain ⟨doubts, all, past⟩ := abandon_past engine.env engine.stack
    (((engine.desk.note .debug "cancellation requested").record .canceled).note .info
      "Command canceled")
  exact ⟨doubts, all, congrArg (Happening.aborted :: ·) past⟩

/-- A command that is attended to, from an idle engine on, whatever the transport does and whenever
the signal is raised or lowered: if it comes to an end, the reply is an outcome and the engine is
idle. If no wait was ended by the signal, all is as if the completions had been reported one by one.
Otherwise that wait was the last one, the signal is raised, and the command is canceled: the
transport is told to abort, once, and nothing is asked of it after the cancellation. A signal that
is raised from the start ends the first wait; one that is gone ends none, from whatever point on. -/
theorem attended_as_served (idle : engine.isBusy = false) (command : Command)
    (course : ρ → WaitRoom τ → ρ × List (WaitAct τ)) (signal : Option Signal) (r : ρ) (limit : Nat)
    {reply : Reply} {signal' : Option Signal} {r' : ρ} {after : Engine τ Operation}
    (ended : attendTo (racing course) limit (signal, r) engine command =
      some (reply, (signal', r'), after)) :
    ∃ ends, Attended (racing course) (signal, r) (engine.execute command) ends
        (reply, (signal', r'), after) ∧ ends.length ≤ limit ∧
      reply ≠ .wouldBlock ∧ reply ≠ .again ∧ after.isBusy = false ∧
      (.interrupted ∉ ends →
        serve course ends.length r (engine.execute command) = some (reply, after)) ∧
      (.interrupted ∈ ends → reply = .canceled ∧ isRaised signal' = true ∧
        (∃ front, ends = front ++ [.interrupted] ∧ .interrupted ∉ front) ∧
        ∃ doubts made, (∀ happening ∈ doubts, happening.isDoubt = true) ∧ .aborted ∉ made ∧
          after.desk.past = .aborted :: (doubts ++ .canceled :: (made ++ engine.desk.past))) ∧
      (isRaised signal = true → (engine.execute command).1 = .wouldBlock →
        ends = [.interrupted]) ∧
      ∀ gone, IsGone gone →
        (∀ acts (room : WaitRoom τ) result, WaitAct.race acts gone room = some result →
          result.1 = .completed ∧ IsGone result.2.1) ∧
        ∀ (state : Reply × Engine τ Operation) r ends result,
          Attended (racing course) (gone, r) state ends result → .interrupted ∉ ends := by
  obtain ⟨ends, few, attended⟩ := exists_attended ended
  have tells := tells_execute idle command
  obtain ⟨wait, again, quiet⟩ := attended.ends_idle tells
  refine ⟨ends, attended, few, wait, again, quiet, attended.serves, ?_, ?_, ?_⟩
  · intro interrupted
    obtain ⟨front, all, none, s, last, room, sofar, busy, waited, canceled, left⟩ :=
      attended.interrupted_last
        (P := fun now => Unaborted engine.desk.past now.desk.past)
        (fun _ now _ _ sofar waited =>
          (sofar.trans (racing_unaborted waited)).trans (resume_unaborted _))
        tells (engine.execute_unaborted command) interrupted
    obtain ⟨made, unaborted, past⟩ := sofar.trans (racing_unaborted waited)
    obtain ⟨doubts, doubtful, told⟩ := interrupted_past ((last.isBusy_afterWait room).trans busy)
    refine ⟨canceled, WaitAct.race_interrupted (racing_eq_some waited).1, ⟨front, all, none⟩,
      doubts, made, doubtful, unaborted, ?_⟩
    show Desk.past (Engine.desk _) = _
    rw [show after = _ from left, told, past]
  · intro raised waits
    exact (attended.raised_first tells raised waits).1
  · intro gone hopeless
    constructor
    · rintro acts room ⟨ending, later, left⟩ raced
      exact WaitAct.race_of_gone hopeless raced
    · intro state r ends result attended
      exact attended.whole_of_gone hopeless

/-- A change of permissions is interrupted while its line is out, after the change of directory. -/
theorem attended_as_served_chmod : ∃ engine after : Engine Scripted Operation,
    engine.isBusy = false ∧ after.isBusy = false ∧
      ∃ doubts made, .aborted ∉ made ∧
        after.desk.past = .aborted :: (doubts ++ .canceled :: (made ++ engine.desk.past)) := by
  let engine := (rehearsed {}).after connecting
  let command : Command := .chmod ⟨.root, "a", "644"⟩
  let waits : List RehearsedWait := [{}, { before := [.raise, .giveWay] }]
  let told := engine.attendTo RehearsedWait.playNext 3 (some ⟨false, true⟩, waits) command
  have idle : engine.isBusy = false := by decide +kernel
  have replied : told.map (·.1) = some .canceled := by decide +kernel
  obtain ⟨⟨reply, ⟨signal, rest⟩, after⟩, ended, canceled⟩ := Option.map_eq_some_iff.1 replied
  change engine.attendTo RehearsedWait.playNext _ _ _ = _ at ended
  rw [RehearsedWait.playNext_eq_racing] at ended
  obtain ⟨ends, -, few, -, -, quiet, serves, interrupted, -⟩ :=
    attended_as_served idle command _ _ waits 3 ended
  -- without the signal the command would have succeeded
  have succeeds : ∀ limit < 4, (serve (fun waits _ => (waits.tail,
      (waits.head?.getD ({} : RehearsedWait)).acts)) limit waits (engine.execute command)).map
        (·.1) ≠ some .canceled := by decide +kernel
  have ending : .interrupted ∈ ends := by
    by_contra whole
    refine succeeds ends.length (Nat.lt_succ_of_le few) ?_
    rw [serves whole]
    exact congrArg some canceled
  obtain ⟨-, -, -, doubts, made, -, unaborted, past⟩ := interrupted ending
  exact ⟨engine, after, idle, quiet, doubts, made, unaborted, past⟩

end Engine

end Courier
