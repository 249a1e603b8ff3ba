import Courier.Proofs.WorkingDirectory
import Courier.Proofs.Script

/-!
# Commands follow their scripts

Five operations and the change of directory they ask for, driven by the engine over several calls,
say together what the script of the command says. The invariant is that the script has been played
up to a place from which on it is due, and that place is read off the stack.
-/

namespace Courier

open RemotePath (Naming)
open Script (Plays)

variable {τ : Type} [Transport τ] {good : Transport.States τ}

namespace Engine

/-- The course of a command that is neither called off nor interrupted: the reports made so far,
each with the local store at the time, the reply of the last call and the engine after it. What may
happen between two calls is said by `meanwhile`. -/
inductive Course (meanwhile : Engine τ Operation → Engine τ Operation → Prop) (command : Command)
    (start : Engine τ Operation) :
    List (Reply × Local.Store) → Reply → Engine τ Operation → Prop
  | execute : Course meanwhile command start [] (start.execute command).1 (start.execute command).2
  | resume {reports : List (Reply × Local.Store)} {engine after : Engine τ Operation}
      (course : Course meanwhile command start reports .wouldBlock engine)
      (drifts : meanwhile engine after) :
      Course meanwhile command start (reports ++ [(after.desk.result, after.desk.store)])
        after.resume.1 after.resume.2

theorem Course.mono {meanwhile weaker : Engine τ Operation → Engine τ Operation → Prop}
    (weaken : ∀ engine after, meanwhile engine after → weaker engine after) {command : Command}
    {start engine : Engine τ Operation} {reports : List (Reply × Local.Store)} {reply : Reply}
    (course : start.Course meanwhile command reports reply engine) :
    start.Course weaker command reports reply engine := by
  induction course with
  | execute => exact .execute
  | resume course drifts ih => exact .resume ih (weaken _ _ drifts)

end Engine

/-! ## What was said since the start -/

/-- Since `start` the script was played, over a transport in good states, up to `due`. -/
structure Played (good : Transport.States τ) (start : Desk τ Operation) (script : Script)
    (reports : List (Reply × Local.Store)) (past : List Happening) (store : Local.Store)
    (due : Script) (talk : List Talk) : Prop where
  plays : Plays start.store script talk store due
  past : ∃ since, past = since ++ start.past ∧
    since.reverse.filter Happening.isTalk = talk.map Talk.happening
  reports : talk.filterMap Talk.report? = reports
  texts : ∀ line text answer, Talk.sent line text answer ∈ talk →
    ∃ t, good t ∧ text = line.text (Transport.quote t)

namespace Played

variable {start : Desk τ Operation} {script due rest : Script}
  {reports : List (Reply × Local.Store)} {past after : List Happening}
  {store : Local.Store} {talk : List Talk}

/-- What is no talk does not count. -/
theorem silent (played : Played good start script reports past store due talk)
    (h : ∃ silence, (∀ happening ∈ silence, happening.isTalk = false) ∧ after = silence ++ past) :
    Played good start script reports after store due talk := by
  obtain ⟨silence, all, rfl⟩ := h
  obtain ⟨since, rfl, talks⟩ := played.past
  refine ⟨played.plays, ⟨silence ++ since, by rw [List.append_assoc], ?_⟩, played.reports,
    played.texts⟩
  rw [List.reverse_append, List.filter_append, talks, List.filter_eq_nil_iff.2, List.append_nil]
  intro happening mem
  simp [all happening (List.mem_reverse.1 mem)]

/-- The script goes on without a word. -/
theorem goesOn (played : Played good start script reports past store due talk)
    (plays : Plays store due [] store rest) :
    Played good start script reports past store rest talk := by
  have longer := played.plays.trans plays
  rw [List.append_nil] at longer
  exact ⟨longer, played.past, played.reports, played.texts⟩

theorem sent (played : Played good start script reports past store due talk) {t : τ}
    (transport : good t) {line : WireLine} {answer : Reply}
    (plays : Plays store due [.sent line (line.text (Transport.quote t)) answer] store rest) :
    Played good start script reports
      (.sent line (line.text (Transport.quote t)) answer :: past) store rest
      (talk ++ [.sent line (line.text (Transport.quote t)) answer]) := by
  obtain ⟨since, rfl, talks⟩ := played.past
  refine ⟨played.plays.trans plays, ⟨.sent line _ answer :: since, rfl, ?_⟩, ?_, ?_⟩
  · simp [List.filter_append, talks, Happening.isTalk, Talk.happening]
  · simp [List.filterMap_append, played.reports, Talk.report?]
  · intro line' text' answer' mem
    rcases List.mem_append.1 mem with mem | mem
    · exact played.texts _ _ _ mem
    · obtain ⟨rfl, rfl, rfl⟩ := Talk.sent.inj (List.mem_singleton.1 mem)
      exact ⟨t, transport, rfl⟩

/-- A line that is due is sent, and answered in some way. -/
theorem asked {line : WireLine} {refused finished : Reply → Script}
    (played : Played good start script reports past store (.ask line refused finished) talk) {t : τ}
    (transport : good t) (answer : Reply) :
    Played good start script reports
      (.sent line (line.text (Transport.quote t)) answer :: past) store
      (if answer = .wouldBlock then .wait finished else refused answer)
      (talk ++ [.sent line (line.text (Transport.quote t)) answer]) :=
  played.sent transport (.sent _ _ (.nothing _ _))

theorem told {next : Reply → Script}
    (played : Played good start script reports past store (.wait next) talk) (result : Reply)
    (now : Local.Store) :
    Played good start script (reports ++ [(result, now)]) (.completed result :: past) now
      (next result) (talk ++ [.told result now]) := by
  obtain ⟨since, rfl, talks⟩ := played.past
  refine ⟨played.plays.trans (.told result (.nothing _ _)), ⟨.completed result :: since, rfl, ?_⟩,
    ?_, ?_⟩
  · simp [List.filter_append, talks, Happening.isTalk, Talk.happening]
  · simp [List.filterMap_append, played.reports, Talk.report?]
  · intro line' text' answer' mem
    rcases List.mem_append.1 mem with mem | mem
    · exact played.texts _ _ _ mem
    · cases List.mem_singleton.1 mem

end Played

/-! ## What is due -/

/-- The operation is a directory command in its directory `home`. -/
structure Operation.WorksIn (operation : Operation) (home : RemotePath) (progress : Progress) :
    Prop where
  place : operation.home? = some home
  state : operation.progress? = some progress
  specified : home.isUnspecified = false

/-- While the stack is at rest, `next` is due with the result. -/
inductive Awaits : (Reply → Script) → List Operation → Prop
  | entering {operation : Operation} {home : RemotePath}
      (works : operation.WorksIn home .entering) :
      Awaits (fun result => operation.script (.after result))
        [.changeDir { path := home, waiting := true }, operation]
  | answer {operation : Operation} {home : RemotePath} {naming : Naming}
      (works : operation.WorksIn home (.waiting naming)) :
      Awaits (operation.scriptAfter naming) [operation]

/-- What is due when a turn is about to be taken. If `ample`, so many steps are allowed in a call
that none is wanting. -/
inductive Turn.Due (ample : Prop) (turn : Turn τ Operation) : Script → Prop
  | start {home : RemotePath} (event : turn.event = .send) (alone : turn.below = [])
      (steps : ample → 2 ≤ turn.budget) (works : turn.top.WorksIn home .start) :
      Due ample turn (.enter turn.desk.session.directory home (turn.top.script ·))
  | enter {operation : Operation} {home : RemotePath} (event : turn.event = .send)
      (top : turn.top = .changeDir { path := home }) (under : turn.below = [operation])
      (steps : ample → 1 ≤ turn.budget) (works : operation.WorksIn home .entering) :
      Due ample turn (.enter turn.desk.session.directory home (operation.script ·))
  | entered {operation : Operation} {home : RemotePath} (event : turn.event = .completed)
      (top : turn.top = .changeDir { path := home, waiting := true })
      (under : turn.below = [operation]) (steps : ample → 1 ≤ turn.budget)
      (works : operation.WorksIn home .entering) :
      Due ample turn (operation.script (.after turn.desk.result))
  | returned {home : RemotePath} {reply : Reply} {finished : Operation}
      (event : turn.event = .returned reply finished) (alone : turn.below = [])
      (steps : ample → 1 ≤ turn.budget) (works : turn.top.WorksIn home .entering) :
      Due ample turn (turn.top.script (.after reply))
  | ready {home : RemotePath} {naming : Naming} (event : turn.event = .send)
      (alone : turn.below = []) (works : turn.top.WorksIn home (.ready naming)) :
      Due ample turn (turn.top.script naming)
  | heard {home : RemotePath} {naming : Naming} (event : turn.event = .completed)
      (alone : turn.below = []) (steps : ample → 1 ≤ turn.budget)
      (works : turn.top.WorksIn home (.waiting naming)) :
      Due ample turn (turn.top.scriptAfter naming turn.desk.result)

/-- What is due after a step. -/
inductive Step.Leaves (ample : Prop) (budget : Nat) (below : List Operation)
    (store : Local.Store) (step : Step τ Operation Operation) : Script → Prop
  | asks {home : RemotePath} (again : step.reply = .again)
      (asked : step.desk.pending = some (.changeDir { path := home })) (alone : below = [])
      (steps : ample → 2 ≤ budget) (same : step.desk.store = store)
      (works : step.operation.WorksIn home .entering) :
      Leaves ample budget below store step
        (.enter step.desk.session.directory home (step.operation.script ·))
  | acts {home : RemotePath} {naming : Naming} (again : step.reply = .again)
      (silent : step.desk.pending = none) (alone : below = [])
      (steps : ample → 1 ≤ budget) (same : step.desk.store = store)
      (works : step.operation.WorksIn home (.ready naming)) :
      Leaves ample budget below store step (step.operation.script naming)
  | waits {next : Reply → Script} (wait : step.reply = .wouldBlock)
      (awaits : Awaits next (step.operation :: below)) :
      Leaves ample budget below store step (.wait next)
  | returns {operation : Operation} {home : RemotePath} (again : step.reply ≠ .again)
      (wait : step.reply ≠ .wouldBlock) (under : below = [operation]) (steps : ample → 1 ≤ budget)
      (same : step.desk.store = store) (works : operation.WorksIn home .entering) :
      Leaves ample budget below store step (operation.script (.after step.reply))
  | ends (again : step.reply ≠ .again) (wait : step.reply ≠ .wouldBlock) (alone : below = []) :
      Leaves ample budget below store step (.done step.reply)

omit [Transport τ] in
/-- Where a further step is wanting, an operation that has not sent its line stands alone. -/
theorem Step.Leaves.wanting {ample : Prop} {budget : Nat} {below : List Operation}
    {store : Local.Store} {step : Step τ Operation Operation} {due : Script}
    (leaves : step.Leaves ample budget below store due) (again : step.reply = .again)
    (spent : budget = 0) :
    ¬ample ∧ below = [] ∧ ∃ home progress, step.operation.WorksIn home progress ∧
      progress.isWaiting = false := by
  cases leaves with
  | asks _ _ alone steps _ works =>
      refine ⟨?_, alone, _, _, works, rfl⟩
      intro holds
      have enough := steps holds
      omega
  | acts _ _ alone steps _ works =>
      refine ⟨?_, alone, _, _, works, rfl⟩
      intro holds
      have enough := steps holds
      omega
  | waits wait _ => exact absurd (again.symm.trans wait) Reply.again_ne_wouldBlock
  | returns stops => exact absurd again stops
  | ends stops => exact absurd again stops

/-- Giving up such an operation changes nothing but notes. -/
theorem giveUp_working {operation : Operation} {home : RemotePath} {progress : Progress}
    (works : operation.WorksIn home progress) (idle : progress.isWaiting = false) (env : Env)
    (desk : Desk τ Operation) :
    ∃ after, desk.Quiet after ∧
      giveUp env operation [] desk = ⟨.internalError, { after with pending := none }, []⟩ := by
  have same : ∀ desk : Desk τ Operation, (Behaviour.cancel env operation desk).2 = desk := by
    intro desk
    exact Operation.cancel_of_progress desk works.state idle
  have kind : HasKind.kind operation ≠ CommandKind.connect := by
    have place := works.place
    cases operation with
    | connect task => cases place
    | _ => exact fun is => by cases is
  unfold giveUp breakDown abandon
  simp only [List.foldl_cons, List.foldl_nil, List.getLast?_singleton, Option.map_some,
    Option.some.injEq, kind, if_false, same]
  exact ⟨_, .note (.refl desk) .error _, rfl⟩

/-- Data that goes through a local end makes no difference to what is awaited. -/
theorem Awaits.withChannel {next : Reply → Script} {top : Operation} {below : List Operation}
    (awaits : Awaits next (top :: below)) (channel : Local.Channel) :
    Awaits next (top.withChannel channel :: below) := by
  cases awaits with
  | entering works => exact .entering works
  | answer works =>
      have same : top.IsButForChannel (top.withChannel channel) := .inr ⟨channel, rfl⟩
      rw [← same.scriptAfter]
      exact .answer ⟨same.home?.trans works.place, same.progress?.trans works.state,
        works.specified⟩

theorem Operation.WorksIn.moves {operation : Operation} {home : RemotePath}
    {progress : Progress} (works : operation.WorksIn home progress) (after : Progress) :
    (operation.withProgress after).WorksIn home after :=
  ⟨(Operation.withProgress_home? _).trans works.place,
    Operation.withProgress_progress? works.place after, works.specified⟩

/-! ## Steps by the script -/

section Steps

variable (desk : Desk τ Operation) {start : Desk τ Operation} {script due : Script}
  {reports : List (Reply × Local.Store)} {store : Local.Store} {talk : List Talk} {env : Env}
  {operation : Operation} {home : RemotePath} {naming : Naming} {budget : Nat}
  {below : List Operation} {ample : Prop}

theorem leaves_start (works : operation.WorksIn home .start) (steps : ample → 2 ≤ budget)
    (played : Played good start script reports desk.past desk.store
      (.enter desk.session.directory home (operation.script ·)) talk) :
    ∃ due talk, (operation.send env desk).Leaves ample budget [] desk.store due ∧
      Played good start script reports (operation.send env desk).desk.past desk.store due talk := by
  obtain ⟨path, after, place, quiet, sent⟩ := Operation.send_start desk env works.state
  obtain rfl : path = home := Option.some.inj (place.symm.trans works.place)
  rw [sent]
  have session : (after.enter path).session = desk.session :=
    (after.request_session _).trans quiet.session
  have past : (after.enter path).past = desk.past := (after.request_past _).trans quiet.past
  refine ⟨_, talk, .asks rfl (after.request_pending _) rfl steps
    ((after.request_store _).trans quiet.store) (works.moves .entering), ?_⟩
  simp only [session, past, Operation.script_withProgress]
  exact played

theorem leaves_returned (reply : Reply) (finished : Operation) (clear : desk.pending = none)
    (steps : ample → 1 ≤ budget) (works : operation.WorksIn home .entering)
    (played : Played good start script reports desk.past desk.store
      (operation.script (.after reply)) talk) :
    ∃ due talk,
      (Operation.returned reply finished operation desk).Leaves ample budget [] desk.store due ∧
      Played good start script reports (Operation.returned reply finished operation desk).desk.past
        desk.store due talk := by
  obtain ⟨after, quiet, eq⟩ :=
    Operation.returned_entering desk reply finished works.state
  rw [eq]
  refine ⟨_, talk, .acts rfl (quiet.pending.trans clear) rfl steps quiet.store (works.moves _),
    ?_⟩
  simp only [quiet.past, Operation.script_withProgress]
  exact played

theorem leaves_ready (concludes : Transport.Concludes good) (transport : good desk.transport)
    (works : operation.WorksIn home (.ready naming))
    (played : Played good start script reports desk.past desk.store (operation.script naming)
      talk) :
    ∃ due talk, (operation.send env desk).Leaves ample budget [] desk.store due ∧
      Played good start script reports (operation.send env desk).desk.past desk.store due talk := by
  have goes := Operation.script_plays desk.store naming operation
  have ready := Operation.send_ready desk env works.state
  cases next : operation.next? naming desk.store with
  | none => simp [next] at ready
  | some what =>
      cases what with
      | inl reply =>
          simp only [next] at ready goes
          obtain ⟨after, quiet, sent⟩ := ready
          obtain ⟨again, wait⟩ := Operation.next_inl next
          rw [sent]
          refine ⟨_, talk, .ends again wait rfl, ?_⟩
          simp only [quiet.past]
          exact played.goesOn goes
      | inr line =>
          simp only [next] at ready goes
          obtain ⟨before, out, prepares, same, sent⟩ := ready
          have kept := prepares.good_transport concludes transport
          have answer := (concludes.send _ (before.lineText line) kept).1
          obtain ⟨tellings, tell, past⟩ := prepares.tells
          have silent : ∀ happening ∈ tellings, happening.isTalk = false := by
            intro happening mem
            exact Happening.isTalk_of_isTelling (tell happening mem)
          -- the line that is sent is the one the script has next
          have spoken := (played.silent ⟨tellings, silent, past⟩).goesOn goes
          have follows : out.scriptAfter naming = operation.scriptAfter naming :=
            (same.scriptAfter naming).trans (Operation.scriptAfter_withProgress _)
          have outWorks : out.WorksIn home (.waiting naming) :=
            ⟨same.home?.trans (works.moves _).place, same.progress?.trans (works.moves _).state,
              works.specified⟩
          rw [sent]
          have said := spoken.asked kept (Transport.send before.transport (before.lineText line)).1
          -- at once it can only have failed, and that is how the command ends
          by_cases wait : (Transport.send before.transport (before.lineText line)).1 = .wouldBlock
          · rw [if_pos wait, ← follows] at said
            exact ⟨_, _, .waits wait (.answer outWorks), said⟩
          · rw [if_neg wait] at said
            exact ⟨_, _, .ends (answer) wait rfl, said⟩

theorem leaves_heard (outcome : desk.result ≠ .wouldBlock ∧ desk.result ≠ .again)
    (clear : desk.pending = none) (steps : ample → 1 ≤ budget)
    (works : operation.WorksIn home (.waiting naming))
    (played : Played good start script reports desk.past desk.store
      (operation.scriptAfter naming desk.result) talk) :
    ∃ due talk, (operation.completed env desk).Leaves ample budget [] desk.store due ∧
      Played good start script reports (operation.completed env desk).desk.past desk.store due
        talk := by
  have completed := Operation.completed_waiting desk env works.state
  unfold Operation.scriptAfter at played
  cases heard : operation.after naming desk.result with
  | inl reply =>
      simp only [heard] at completed played
      obtain ⟨after, out, quiet, -, eq⟩ := completed
      obtain rfl := Operation.after_inl heard
      rw [eq]
      refine ⟨_, talk, .ends outcome.2 outcome.1 rfl, ?_⟩
      simp only [quiet.past]
      exact played
  | inr next =>
      simp only [heard] at completed played
      obtain ⟨after, quiet, eq⟩ := completed
      obtain ⟨place, state, -⟩ := Operation.after_inr heard
      rw [eq]
      refine ⟨_, talk, .acts rfl (quiet.pending.trans clear) rfl steps quiet.store
        ⟨place.trans works.place, state, works.specified⟩, ?_⟩
      simp only [quiet.past]
      exact played

theorem leaves_enter (concludes : Transport.Concludes good) (transport : good desk.transport)
    (env : Env) (steps : ample → 1 ≤ budget) (works : operation.WorksIn home .entering)
    (played : Played good start script reports desk.past desk.store
      (.enter desk.session.directory home (operation.script ·)) talk) :
    ∃ due talk,
      ((Operation.changeDir { path := home }).send env desk).Leaves ample budget [operation]
        desk.store due ∧
      Played good start script reports
        ((Operation.changeDir { path := home }).send env desk).desk.past desk.store due talk := by
  simp only [Operation.send, ChangeDirTask.send, works.specified, Bool.false_eq_true, if_false]
  by_cases here : desk.session.directory = some home
  · -- nothing is said, and the change of directory ends as if it had succeeded
    rw [if_pos here]
    rw [Script.enter_here here] at played
    exact ⟨_, talk, .returns Reply.again_ne_ok.symm Reply.ok_ne_wouldBlock rfl steps rfl works,
      played⟩
  · rw [if_neg here]
    rw [Script.enter_elsewhere here] at played
    have answer := (concludes.send _ (desk.lineText (.changeDir home)) transport).1
    have said := played.asked transport
      (Transport.send desk.transport (desk.lineText (.changeDir home))).1
    -- even if it failed at once, the operation below goes on
    by_cases wait : (Transport.send desk.transport (desk.lineText (.changeDir home))).1 =
        .wouldBlock
    · rw [if_pos wait] at said
      exact ⟨_, _, .waits wait (.entering works), said⟩
    · rw [if_neg wait] at said
      exact ⟨_, _, .returns (answer) wait rfl steps rfl works, said⟩

theorem leaves_entered (outcome : desk.result ≠ .wouldBlock ∧ desk.result ≠ .again) (env : Env)
    (steps : ample → 1 ≤ budget) (works : operation.WorksIn home .entering)
    (played : Played good start script reports desk.past desk.store
      (operation.script (.after desk.result)) talk) :
    ∃ due talk,
      ((Operation.changeDir { path := home, waiting := true }).completed env desk).Leaves ample
        budget [operation] desk.store due ∧
      Played good start script reports
        ((Operation.changeDir { path := home, waiting := true }).completed env desk).desk.past
        desk.store due talk := by
  simp only [Operation.completed, ChangeDirTask.completed, if_true]
  split
  · exact ⟨_, talk, .returns outcome.2 outcome.1 rfl steps rfl works, played⟩
  · exact ⟨_, talk, .returns outcome.2 outcome.1 rfl steps rfl works, played⟩

end Steps

/-! ## Along the turns of a call -/

variable {start : Desk τ Operation} {script : Script} {reports : List (Reply × Local.Store)}
  {ample : Prop}

/-- The script has been played up to what is due in this turn. -/
def Turn.Follows (good : Transport.States τ) (ample : Prop) (start : Desk τ Operation)
    (script : Script) (reports : List (Reply × Local.Store)) (turn : Turn τ Operation) : Prop :=
  ∃ due talk, turn.Due ample due ∧
    Played good start script reports turn.desk.past turn.desk.store due talk

/-- The script has been played to where the call ends, or to where a further step was wanting. -/
def Outcome.Follows (good : Transport.States τ) (ample : Prop) (start : Desk τ Operation)
    (script : Script) (reports : List (Reply × Local.Store)) (outcome : Outcome τ Operation) :
    Prop :=
  ∃ due talk store, Played good start script reports outcome.desk.past store due talk ∧
    ((outcome.reply = .wouldBlock ∧ ∃ next, due = .wait next ∧ Awaits next outcome.stack) ∨
      outcome.reply ≠ .wouldBlock ∧ (due = .done outcome.reply ∨ ¬ample) ∧ outcome.stack = [])

namespace Turn

variable {turn after : Turn τ Operation} {env : Env}

/-- The step of a turn goes by the script. -/
theorem Follows.step (follows : turn.Follows good ample start script reports)
    (concludes : Transport.Concludes good) (fits : turn.Fits good) (env : Env) :
    ∃ due talk, (turn.step env).Leaves ample turn.budget turn.below turn.desk.store due ∧
      Played good start script reports (turn.step env).desk.past turn.desk.store due talk := by
  obtain ⟨budget, below, event, top, desk⟩ := turn
  obtain ⟨due, talk, due_, played⟩ := follows
  obtain ⟨transport, reported, -, -, -⟩ := fits
  cases due_ with
  | start event alone steps works =>
      cases event
      cases alone
      exact leaves_start { desk with pending := none } works steps played
  | enter event top under steps works =>
      cases event
      cases top
      cases under
      exact leaves_enter { desk with pending := none } concludes transport env steps
        works played
  | entered event top under steps works =>
      cases event
      cases top
      cases under
      exact leaves_entered { desk with pending := none }
        (concludes.result _ transport (reported rfl)) env steps works played
  | returned event alone steps works =>
      cases event
      cases alone
      exact leaves_returned { desk with pending := none } _ _ rfl steps works played
  | ready event alone works =>
      cases event
      cases alone
      exact leaves_ready { desk with pending := none } concludes transport works played
  | heard event alone steps works =>
      cases event
      cases alone
      exact leaves_heard { desk with pending := none }
        (concludes.result _ transport (reported rfl)) rfl steps works played

theorem Follows.next (follows : turn.Follows good ample start script reports)
    (concludes : Transport.Concludes good) (fits : turn.Fits good)
    (next : turn.next env = .inr after) : after.Follows good ample start script reports := by
  obtain ⟨due, talk, leaves, played⟩ := follows.step concludes fits env
  rcases Step.next_eq_inr next with
    ⟨again, left, budget, rfl⟩ | ⟨stops, ends, silent, parent, rest, under, rfl⟩
  · cases leaves with
    | asks _ asked alone steps same works =>
        unfold Step.onward
        rw [Step.noted_pending, asked]
        rw [← same] at played
        have enough : ample → 1 ≤ left := by
          intro holds
          have two := steps holds
          omega
        exact ⟨_, talk, .enter rfl rfl (congrArg _ alone) enough works, played⟩
    | acts _ silent alone _ same works =>
        unfold Step.onward
        rw [Step.noted_pending, silent]
        rw [← same] at played
        exact ⟨_, talk, .ready rfl alone works, played⟩
    | waits wait _ => exact absurd (again.symm.trans wait) Reply.again_ne_wouldBlock
    | returns stops => exact absurd again stops
    | ends stops => exact absurd again stops
  · cases leaves with
    | asks again => exact absurd again stops
    | acts again => exact absurd again stops
    | waits wait _ => exact absurd wait ends
    | returns _ _ single steps same works =>
        rw [single] at under
        cases under
        rw [← same] at played
        exact ⟨_, talk, .returned rfl rfl steps works, played⟩
    | ends _ _ alone => rw [alone] at under; cases under

theorem Follows.ends {outcome : Outcome τ Operation}
    (follows : turn.Follows good ample start script reports)
    (concludes : Transport.Concludes good) (fits : turn.Fits good)
    (next : turn.next env = .inl outcome) : outcome.Follows good ample start script reports := by
  obtain ⟨due, talk, leaves, played⟩ := follows.step concludes fits env
  have sound := fits.sound concludes.neverGoesOn env
  rcases Step.next_eq_inl next with ⟨again, spent, rfl⟩ | ⟨stops, child, asked, -⟩ |
    ⟨wait, -, rfl⟩ | ⟨stops, ends, -, alone, rfl⟩
  · -- whoever may not go on has said nothing yet, and says nothing when given up
    obtain ⟨short, alone, home, progress, works, idle⟩ := leaves.wanting again spent
    obtain ⟨after, quiet, gaveUp⟩ := giveUp_working works idle env (turn.step env).noted
    rw [alone, gaveUp]
    refine ⟨due, talk, turn.desk.store, ?_,
      .inr ⟨Reply.internalError_ne_wouldBlock, .inr short, rfl⟩⟩
    rw [show Desk.past { after with pending := none } = (turn.step env).desk.past from quiet.past]
    exact played
  · exact (sound.asks_nothing stops asked).elim
  · cases leaves with
    | asks again => exact absurd (again.symm.trans wait) Reply.again_ne_wouldBlock
    | acts again => exact absurd (again.symm.trans wait) Reply.again_ne_wouldBlock
    | waits _ awaits => exact ⟨_, talk, _, played, .inl ⟨rfl, _, rfl, awaits⟩⟩
    | returns _ ends => exact absurd wait ends
    | ends _ ends => exact absurd wait ends
  · cases leaves with
    | asks again => exact absurd again stops
    | acts again => exact absurd again stops
    | waits wait _ => exact absurd wait ends
    | returns _ _ single => rw [alone] at single; cases single
    | ends =>
        obtain ⟨text, finished⟩ := finish_eq (HasKind.kind (turn.step env).operation)
          (turn.step env).reply (turn.step env).noted
        rw [finished]
        exact ⟨_, talk, turn.desk.store, played, .inr ⟨ends, .inl rfl, rfl⟩⟩

theorem Follows.drive {first : Turn τ Operation}
    (follows : first.Follows good ample start script reports)
    (concludes : Transport.Concludes good) (env : Env) (fits : first.Fits good) :
    (first.drive env).Follows good ample start script reports := by
  refine Fits.rule concludes.neverGoesOn
    (P := fun turn => turn.Follows good ample start script reports) ?_
    (Q := fun outcome => outcome.Follows good ample start script reports) ?_ fits follows
  · intro turn after fits follows next
    exact follows.next concludes fits next
  · intro turn outcome fits follows next
    exact follows.ends concludes fits next

end Turn

/-! ## Rehearsed courses -/

namespace Engine

/-- The engine when the outstanding request has this result. -/
def reporting (engine : Engine Scripted Operation) (result : Reply) : Engine Scripted Operation :=
  { engine with desk := { engine.desk with
    transport := { engine.desk.transport with lastResult := result } } }

theorem reporting_completesAlone {starts ends : Reply → Prop} {engine : Engine Scripted Operation}
    (kept : Scripted.Keeps starts ends engine.desk.transport) {result : Reply}
    (outcome : ends result) :
    engine.CompletesAlone (Scripted.Keeps starts ends) (engine.reporting result) where
  transport := ⟨kept.sends, kept.connects, kept.wakeUps, outcome⟩
  session := rfl
  stack := .inl rfl
  past := ⟨[], List.forall_mem_nil _, rfl⟩
  cache := rfl
  reported := trivial

namespace Course

variable {meanwhile : Engine Scripted Operation → Engine Scripted Operation → Prop}
  {start engine : Engine Scripted Operation} {command : Command}
  {reports : List (Reply × Local.Store)}

/-- A course begins with a call that waits. -/
theorem begun (wait : (start.execute command).1 = .wouldBlock) :
    start.Course meanwhile command [] .wouldBlock (start.execute command).2 :=
  wait ▸ .execute

/-- It goes on with an outcome of the outstanding request. -/
theorem responded (course : start.Course meanwhile command reports .wouldBlock engine)
    (result reply : Reply) (goesOn : meanwhile engine (engine.reporting result))
    (replies : (engine.reporting result).resume.1 = reply) :
    start.Course meanwhile command (reports ++ [(result, engine.desk.store)]) reply
      (engine.reporting result).resume.2 :=
  replies ▸ course.resume goesOn

/-- It goes on with any outcome that leaves the transport in order. -/
theorem reported
    (alone : ∀ engine after, engine.CompletesAlone Scripted.IsConforming after →
      meanwhile engine after)
    (course : start.Course meanwhile command reports .wouldBlock engine) (result reply : Reply)
    (kept : Scripted.IsConforming engine.desk.transport) (wait : result ≠ .wouldBlock)
    (again : result ≠ .again) (replies : (engine.reporting result).resume.1 = reply) :
    start.Course meanwhile command (reports ++ [(result, engine.desk.store)]) reply
      (engine.reporting result).resume.2 :=
  course.responded result reply (alone _ _ (reporting_completesAlone kept ⟨wait, again⟩)) replies

end Course

end Engine

/-! ## Over the course of a command -/

namespace Engine

variable {engine : Engine τ Operation} {command : Command} {reply : Reply}

/-- The engine has nothing to do and is connected over SFTP. -/
structure IsIdleOverSftp (engine : Engine τ Operation) : Prop where
  stack : engine.stack = []
  connected : engine.desk.session.connected = true
  server : ∃ server, engine.desk.session.server = some server ∧ server.protocol = .sftp

omit [Transport τ] in
theorem accept_of_idle (idle : engine.IsIdleOverSftp) {operation : Operation}
    (valid : command.valid = true) (other : ∀ request, command ≠ .connect request)
    (offered : Operation.ofCommand? command .sftp = some operation) :
    engine.accept command = .ok operation := by
  obtain ⟨server, ours, sftp⟩ := idle.server
  have served : protocolFor engine.session command = .ok .sftp := by
    unfold protocolFor session
    split
    · exact absurd rfl (other _)
    · simp only [ours, idle.connected, if_true, sftp]
  unfold accept isBusy
  simp only [idle.stack, List.isEmpty_nil, Bool.not_true, Bool.false_eq_true, if_false, valid,
    served]
  simp only [show Behaviour.ofCommand? command .sftp = some operation from offered]

omit [Transport τ] in
/-- A command that is served over SFTP only is accepted by an idle engine that is connected so. -/
theorem accepted_sftp {operation : Operation} (accepted : engine.accept command = .ok operation)
    (only : ∀ protocol operation, Operation.ofCommand? command protocol = some operation →
      protocol = .sftp) : engine.IsIdleOverSftp ∧ command.valid = true := by
  obtain ⟨idle, valid, protocol, served, offered⟩ := accept_eq_ok accepted
  obtain rfl := only protocol operation offered
  unfold protocolFor at served
  split at served
  · -- to connect is served over every protocol
    cases only .ftp _ rfl
  · split at served
    · rename_i server ours
      split at served
      · rename_i up
        exact ⟨⟨idle, up, server, ours, Except.ok.inj served⟩, valid⟩
      · cases served
    · cases served

/-- The course of a command that is refused is over with its first call, which fails and leaves no
more than a note. -/
theorem Course.accepted_or_refused
    {meanwhile : Engine τ Operation → Engine τ Operation → Prop} {start : Engine τ Operation}
    (course : start.Course meanwhile command reports reply engine) :
    (∃ operation, start.accept command = .ok operation) ∨
      reply.isError = true ∧ engine.desk.past = start.desk.past ∧
        engine.desk.cache = start.desk.cache := by
  induction course with
  | execute =>
      cases accepted : start.accept command with
      | ok operation => exact .inl ⟨operation, rfl⟩
      | error refusal =>
          have refused : start.opening (.execute command) = none := by
            simp [opening, accepted]
          obtain ⟨_, desk, answered, noted⟩ := execute_of_refused refused
          rw [answered]
          refine .inr ⟨Refusal.reply_isError _, ?_⟩
          rcases noted with rfl | ⟨_, _, -, rfl⟩ <;> exact ⟨rfl, rfl⟩
  | resume course drifts ih =>
      rcases ih with accepted | ⟨failed, -⟩
      · exact .inl accepted
      · exact absurd failed (by decide)

/-- A command that has a script begins with it. -/
theorem follows_opening (idle : engine.IsIdleOverSftp) (valid : command.valid = true)
    (steps : ample → 2 ≤ engine.settings.maxContinue.toNat)
    (scripted : Script.ofCommand? engine.desk.session.directory command = some script) :
    ∃ first, engine.opening (.execute command) = some first ∧
      first.Follows good ample engine.desk script [] := by
  obtain ⟨operation, home, offered, place, state, specified, rfl⟩ :=
    Operation.exists_directoryCommand scripted valid
  have other : ∀ request, command ≠ .connect request := by
    rintro request rfl
    cases scripted
  have accepted := accept_of_idle idle valid other offered
  refine ⟨_, opening_of_accepted accepted, _, [],
    .start rfl rfl steps ⟨place, state, specified⟩, ?_⟩
  have begins : Played good engine.desk (.enter engine.desk.session.directory home
      (operation.script ·)) [] engine.desk.past engine.desk.store _ [] :=
    ⟨.nothing _ _, ⟨[], rfl, rfl⟩, rfl, by rintro _ _ _ ⟨⟩⟩
  exact begins.silent ⟨[.started command], by simp [Happening.isTalk], rfl⟩

/-- The report that is waited for continues the script. -/
theorem follows_resume {after : Engine τ Operation} {next : Reply → Script} {store : Local.Store}
    {talk : List Talk} {start : Desk τ Operation}
    (played : Played good start script reports engine.desk.past store (.wait next) talk)
    (awaits : Awaits next engine.stack) (drifts : engine.Drifts good after)
    (steps : ample → 2 ≤ after.settings.maxContinue.toNat) :
    ∃ first, after.opening .resume = some first ∧
      first.Follows good ample start script
        (reports ++ [(after.desk.result, after.desk.store)]) := by
  obtain ⟨waits, all, past⟩ := drifts.past
  have silent : ∀ happening ∈ waits, happening.isTalk = false := by
    intro happening mem
    exact Happening.isTalk_of_isWait (all happening mem)
  have told := (played.silent ⟨waits, silent, past⟩).told after.desk.result after.desk.store
  have steps' : ample → 1 ≤ after.settings.maxContinue.toNat := by
    intro holds
    have two := steps holds
    omega
  have awaits : Awaits next after.stack := by
    rcases drifts.stack with same | ⟨top, below, channel, before, -, now⟩
    · rw [same]
      exact awaits
    · rw [now]
      exact (before ▸ awaits).withChannel channel
  -- the report reaches whoever is on top
  unfold Engine.opening
  cases stack : after.stack with
  | nil => rw [stack] at awaits; cases awaits
  | cons top below =>
      refine ⟨_, rfl, _, _, ?_, told⟩
      rw [stack] at awaits
      cases awaits with
      | entering works => exact .entered rfl rfl rfl steps' works
      | answer works => exact .heard rfl rfl steps' works

theorem follows_course (concludes : Transport.Concludes good) {start : Engine τ Operation}
    (idle : start.IsIdleOverSftp) (transport : good start.desk.transport)
    (valid : command.valid = true) (steps : ample → 2 ≤ start.settings.maxContinue.toNat)
    (scripted : Script.ofCommand? start.desk.session.directory command = some script)
    {meanwhile : Engine τ Operation → Engine τ Operation → Prop}
    (drifts : ∀ engine after, meanwhile engine after →
      engine.Completes good after ∧ (ample → 2 ≤ after.settings.maxContinue.toNat))
    (course : Course meanwhile command start reports reply engine) :
    engine.Rests good ∧
      Outcome.Follows good ample start.desk script reports ⟨reply, engine.desk, engine.stack⟩ := by
  induction course with
  | execute =>
      have rests : start.Rests good := ⟨transport, by rw [idle.stack]; exact .idle⟩
      obtain ⟨first, opened, follows⟩ := follows_opening idle valid steps scripted
      have may : start.MayMake good (.execute command) := mayMake_execute command
      refine ⟨rests.make concludes.neverGoesOn (.execute command) may, ?_⟩
      have driven := follows.drive concludes start.env (rests.opening may opened)
      rw [show start.execute command = _ from make_of_opening opened]
      exact driven
  | @resume reports engine after course between ih =>
      obtain ⟨rests, due, talk, store, played, ⟨-, next, rfl, awaits⟩ | ⟨ended, -⟩⟩ := ih
      · obtain ⟨drifted, steps⟩ := drifts engine after between
        obtain ⟨first, opened, follows⟩ := follows_resume played awaits drifted.toDrifts steps
        have rests := rests.drifts drifted.toDrifts
        have may := drifted.mayMake .resume
        refine ⟨rests.make concludes.neverGoesOn .resume may, ?_⟩
        have driven := follows.drive concludes after.env (rests.opening may opened)
        rw [show after.resume = _ from make_of_opening opened]
        exact driven
      · exact absurd rfl ended

end Engine

end Courier
