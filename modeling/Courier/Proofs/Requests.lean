import Courier.Proofs.StepEffects
import Courier.Proofs.GivingUp
import Courier.Proofs.Settling

/-!
# One request at a time

A request that is answered by a wait is under way until the owner reports its completion, gives up
its command or reports that the connection is lost. While one is under way no other is made: the
step that made it ends the call, and until it is released the engine is busy and accepts nothing.
None of this depends on what the transport answers.
-/

namespace Courier

/-! ## Requests under way -/

namespace Happening

/-- From now on nothing is under way: a completion was reported, the command was given up or the
connection is lost. -/
def isRelease : Happening → Bool
  | .completed _ | .canceled | .connectionLost => true
  | _ => false

/-- A request was made, and is under way from now on. -/
def isBegun (happening : Happening) : Bool := happening.answer? = some .wouldBlock

end Happening

/-- The requests that are under way, newest first. -/
def underWay (past : List Happening) : List Happening :=
  (past.takeWhile fun happening => !happening.isRelease).filter Happening.isBegun

/-- Everything that happened was as `P` has it, given what had happened before. -/
def Throughout (P : List Happening → Happening → Prop) : List Happening → Prop
  | [] => True
  | happening :: earlier => P earlier happening ∧ Throughout P earlier

/-- Every request was made while none was under way. -/
def OneByOne : List Happening → Prop :=
  Throughout fun earlier happening => happening.answer?.isSome = true → underWay earlier = []

section History

variable {P : List Happening → Happening → Prop} {past later earlier made : List Happening}
  {happening request : Happening}

theorem Throughout.at (all : Throughout P past) (h : past = later ++ happening :: earlier) :
    P earlier happening := by
  subst h
  induction later with
  | nil => exact all.1
  | cons _ rest ih => exact ih all.2

theorem Throughout.append (all : Throughout P past)
    (more : ∀ happening ∈ made, ∀ earlier, P earlier happening) :
    Throughout P (made ++ past) := by
  induction made with
  | nil => exact all
  | cons happening rest ih =>
      refine ⟨more happening List.mem_cons_self _, ih ?_⟩
      intro later mem
      exact more later (List.mem_cons_of_mem _ mem)

theorem underWay_cons (happening : Happening) (past : List Happening) :
    underWay (happening :: past) =
      if happening.isRelease then []
      else if happening.isBegun then happening :: underWay past
      else underWay past := by
  unfold underWay
  cases release : happening.isRelease with
  | true => simp [release]
  | false => simp [release, List.filter_cons]

theorem Happening.not_isRelease_of_answer (asked : happening.answer?.isSome = true) :
    happening.isRelease = false := by
  cases happening <;> first | rfl | cases asked

theorem Happening.isBegun_eq_false (silent : happening.answer? = none) :
    happening.isBegun = false := by
  simp [isBegun, silent]

theorem Happening.answer_of_isBegun (begun : happening.isBegun = true) :
    happening.answer? = some .wouldBlock := by
  simpa [isBegun] using begun

/-- Without a request that is answered by a wait nothing comes to be under way. -/
theorem underWay_append (none : underWay past = [])
    (answered : ∀ happening ∈ made, happening.isBegun = false) : underWay (made ++ past) = [] := by
  induction made with
  | nil => exact none
  | cons happening rest ih =>
      have before := ih fun h mem => answered h (List.mem_cons_of_mem _ mem)
      rw [List.cons_append, underWay_cons, answered happening List.mem_cons_self]
      split
      · rfl
      · exact before

/-- What was begun is under way until it is released. -/
theorem mem_underWay (begun : request.isBegun = true)
    (held : ∀ happening ∈ later, happening.isRelease = false) :
    request ∈ underWay (later ++ request :: earlier) := by
  have asked : request.answer?.isSome = true := by
    rw [Happening.answer_of_isBegun begun]
    rfl
  unfold underWay
  rw [List.takeWhile_append_of_pos fun happening mem => by simp [held happening mem]]
  refine List.mem_filter.2 ⟨?_, begun⟩
  rw [List.takeWhile_cons_of_pos (by simp [Happening.not_isRelease_of_answer asked])]
  exact List.mem_append_right _ List.mem_cons_self

namespace OneByOne

/-- No two requests are ever under way. -/
theorem length_le (one : OneByOne past) : (underWay past).length ≤ 1 := by
  induction past with
  | nil => exact Nat.zero_le 1
  | cons happening earlier ih =>
      obtain ⟨alone, before⟩ := one
      rw [underWay_cons]
      split
      · exact Nat.zero_le 1
      · split
        · rename_i begun
          -- it was made while none was under way
          rw [alone (by rw [Happening.answer_of_isBegun begun]; rfl)]
          exact Nat.le_refl 1
        · exact ih before

/-- Between a request that was under way and the next one there was a release. -/
theorem exists_release (one : OneByOne past) {next former : Happening}
    {between : List Happening} (h : past = later ++ next :: (between ++ former :: earlier))
    (asked : next.answer?.isSome = true) (begun : former.isBegun = true) :
    ∃ release ∈ between, release.isRelease = true := by
  have none : underWay (between ++ former :: earlier) = [] := Throughout.at one h asked
  cases held : between.any Happening.isRelease with
  | true => exact List.any_eq_true.1 held
  | false =>
      have left : former ∈ underWay (between ++ former :: earlier) :=
        mem_underWay begun (by simpa using held)
      rw [none] at left
      cases left

theorem append (one : OneByOne past) (silent : ∀ happening ∈ made, happening.answer? = none) :
    OneByOne (made ++ past) := by
  refine Throughout.append one ?_
  intro happening mem earlier asked
  rw [silent happening mem] at asked
  cases asked

end OneByOne

end History

/-! ## In the course of a call -/

/-- Requests were made one by one, and of those made since `origin` none is under way. -/
structure Free (origin past : List Happening) : Prop where
  oneByOne : OneByOne past
  clear : underWay past = []
  made : ∃ made, past = made ++ origin ∧ ∀ happening ∈ made, happening.isBegun = false

/-- The last thing that happened was a request, which is under way. -/
def Begins (origin past : List Happening) : Prop :=
  ∃ request before, past = request :: before ∧ request.isBegun = true ∧ Free origin before

section Call

variable {origin past made : List Happening} {request : Happening}

theorem Free.append (free : Free origin past)
    (silent : ∀ happening ∈ made, happening.answer? = none) : Free origin (made ++ past) := by
  have answered : ∀ happening ∈ made, happening.isBegun = false := fun happening mem =>
    Happening.isBegun_eq_false (silent happening mem)
  obtain ⟨former, rfl, all⟩ := free.made
  refine ⟨free.oneByOne.append silent, underWay_append free.clear answered, made ++ former,
    (List.append_assoc _ _ _).symm, ?_⟩
  intro happening mem
  rcases List.mem_append.1 mem with mem | mem
  · exact answered happening mem
  · exact all happening mem

/-- If a request is made, it is answered at once. -/
theorem Free.asked (free : Free origin past) (answered : request.isBegun = false) :
    Free origin (request :: past) := by
  obtain ⟨former, rfl, all⟩ := free.made
  refine ⟨⟨fun _ => free.clear, free.oneByOne⟩, ?_, request :: former, rfl, ?_⟩
  · rw [underWay_cons, answered]
    split
    · rfl
    · exact free.clear
  · exact List.forall_mem_cons.2 ⟨answered, all⟩

/-- A release leaves nothing under way. -/
theorem Free.of_release (one : OneByOne past) (release : request.isRelease = true) :
    Free past (request :: past) := by
  have silent : request.answer? = none := by
    cases request <;> first | rfl | cases release
  refine ⟨⟨?_, one⟩, ?_, [request], rfl, ?_⟩
  · intro asked
    rw [silent] at asked
    cases asked
  · rw [underWay_cons, release]
    rfl
  · exact List.forall_mem_singleton.2 (Happening.isBegun_eq_false silent)

theorem Begins.oneByOne (begins : Begins origin past) : OneByOne past := by
  obtain ⟨request, before, rfl, -, free⟩ := begins
  exact ⟨fun _ => free.clear, free.oneByOne⟩

theorem Happening.answer_of_isWork (work : request.isWork = true) : request.answer? = none := by
  cases request <;> first | rfl | cases work

theorem Happening.answer_of_isDoubt (doubt : request.isDoubt = true) : request.answer? = none := by
  cases request <;> first | rfl | cases doubt

theorem Happening.answer_of_isWait (wait : request.isWait = true) : request.answer? = none := by
  cases request <;> first | rfl | cases wait

end Call

section Steps

variable {τ : Type} {good : Transport.States τ} {origin : List Happening} {operation : Operation}
  {start desk : Desk τ Operation} {step : Step τ Operation Operation}

theorem Desk.Works.free (works : start.Works good operation desk)
    (free : Free origin start.past) : Free origin desk.past := by
  obtain ⟨made, all, past⟩ := works.past
  rw [past]
  exact free.append fun happening mem => Happening.answer_of_isWork (all happening mem)

/-- A step leaves nothing under way, or a request it made last, for which it waits. -/
theorem Step.Does.free (does : step.Does good operation start) (free : Free origin start.past) :
    Free origin step.desk.past ∨
      step.reply = .wouldBlock ∧ step.desk.pending = none ∧ Begins origin step.desk.past := by
  cases does with
  | rests works => exact .inl (works.free free)
  | @asks before child works again waits acts asked =>
      rw [asked, Desk.request_past]
      exact .inl (works.free free)
  | @requests before request works own waits past pending transport session =>
      rw [past]
      cases begun : request.isBegun with
      | false => exact .inl ((works.free free).asked begun)
      | true =>
          have wait := waits (Happening.answer_of_isBegun begun)
          exact .inr ⟨wait, pending, request, _, rfl, begun, works.free free⟩

variable [Transport τ]

/-- Of any transport at all. -/
theorem Transport.answers_somehow :
    Transport.Answers (.all τ) (fun _ => True) (fun _ => True) :=
  ⟨fun _ _ _ => ⟨trivial, trivial⟩, fun _ _ _ _ => ⟨trivial, trivial⟩,
    fun _ _ _ => ⟨trivial, trivial⟩, fun _ _ => trivial, fun _ _ => trivial, fun _ _ _ => trivial,
    fun _ _ => trivial, fun _ _ _ => trivial⟩

/-- What a call comes to that was free when it began to drive the stack. -/
def Outcome.Frees (origin : List Happening) (outcome : Outcome τ Operation) : Prop :=
  Free origin outcome.desk.past ∨ outcome.reply = .wouldBlock ∧ Begins origin outcome.desk.past

theorem abandon_free (env : Env) (stack : List Operation) (free : Free origin desk.past) :
    Free origin (abandon env stack desk).past := by
  obtain ⟨doubts, all, past⟩ := Engine.abandon_past env stack desk
  rw [past]
  exact free.append fun happening mem => Happening.answer_of_isDoubt (all happening mem)

theorem Turn.drive_frees (env : Env) (first : Turn τ Operation)
    (free : Free origin first.desk.past) : (first.drive env).Frees origin := by
  refine Turn.rule (P := fun turn => Free origin turn.desk.past) ?_ ?_ free
  · intro turn after free next
    have done := (Turn.step_does Transport.answers_somehow trivial env).free free
    rcases Step.next_eq_inr next with ⟨again, left, -, rfl⟩ | ⟨-, wait, -, parent, rest, -, rfl⟩
    · rcases done with free | ⟨waits, -, -⟩
      · unfold Step.onward
        cases (turn.step env).noted.pending <;> exact free
      · exact absurd (again.symm.trans waits) Reply.again_ne_wouldBlock
    · rcases done with free | ⟨waits, -, -⟩
      · exact free
      · exact absurd waits wait
  · intro turn outcome free next
    have done := (Turn.step_does Transport.answers_somehow trivial env).free free
    rcases Step.next_eq_inl next with ⟨again, -, rfl⟩ | ⟨-, child, asked, rfl⟩ | ⟨-, -, rfl⟩ |
      ⟨-, wait, -, -, rfl⟩
    · rcases done with free | ⟨waits, -, -⟩
      · exact .inl (abandon_free env _ free)
      · exact absurd (again.symm.trans waits) Reply.again_ne_wouldBlock
    · rcases done with free | ⟨-, pending, -⟩
      · exact .inl (abandon_free env _ free)
      · rw [pending] at asked
        cases asked
    · exact done.imp_right fun begins => ⟨rfl, begins.2.2⟩
    · obtain ⟨text, finished⟩ := finish_eq (HasKind.kind (turn.step env).operation)
        (turn.step env).reply (turn.step env).noted
      rw [finished]
      rcases done with free | ⟨waits, -, -⟩
      · exact .inl free
      · exact absurd waits wait

end Steps

/-! ## Between the calls -/

namespace Engine

variable {τ : Type} {good : Transport.States τ} {engine : Engine τ Operation}

/-- Requests were made one by one, and if one is under way a command is in progress. -/
structure OneAtATime (engine : Engine τ Operation) : Prop where
  oneByOne : OneByOne engine.desk.past
  busy : underWay engine.desk.past ≠ [] → engine.isBusy = true

theorem OneAtATime.clear (one : engine.OneAtATime) (idle : engine.stack = []) :
    underWay engine.desk.past = [] := by
  by_cases left : underWay engine.desk.past = []
  · exact left
  · exact absurd idle (isBusy_eq_true_iff.1 (one.busy left))

variable [Transport τ]

theorem OneAtATime.opening (one : engine.OneAtATime) {call : Call} {first : Turn τ Operation}
    (h : engine.opening call = some first) : Free engine.desk.past first.desk.past := by
  rcases opening_eq_some h with ⟨command, operation, rfl, accepted, rfl⟩ | ⟨top, below, rfl, -, rfl⟩
  · obtain ⟨idle, -⟩ := accept_eq_ok accepted
    have free : Free engine.desk.past engine.desk.past :=
      ⟨one.oneByOne, one.clear idle, [], rfl, List.forall_mem_nil _⟩
    exact free.asked rfl
  · exact .of_release one.oneByOne rfl

omit [Transport τ] in
theorem OneAtATime.of_free {origin : List Happening} (free : Free origin engine.desk.past) :
    engine.OneAtATime :=
  ⟨free.oneByOne, fun left => absurd free.clear left⟩

theorem cancel_free (one : OneByOne engine.desk.past) (busy : engine.isBusy = true) :
    Free engine.desk.past engine.cancel.2.desk.past := by
  unfold cancel
  rw [if_pos busy]
  have released : Free engine.desk.past
      ((engine.desk.record .canceled).note .info "Command canceled").past := .of_release one rfl
  exact (abandon_free engine.env engine.stack released).asked rfl

theorem connectionLost_free (one : OneByOne engine.desk.past) :
    Free engine.desk.past engine.connectionLost.2.desk.past := by
  have released : Free engine.desk.past ((engine.desk.record .connectionLost).note .warn
      "connection lost while a command was in progress").past := .of_release one rfl
  unfold connectionLost
  split
  · exact abandon_free engine.env engine.stack released
  · exact released

/-- A call leaves nothing under way but a request it made last and asks to wait for, or it changes
nothing. -/
theorem OneAtATime.make_past (one : engine.OneAtATime) (call : Call) :
    (Free engine.desk.past (engine.make call).2.desk.past ∨
      (engine.make call).1 = .wouldBlock ∧
        Begins engine.desk.past (engine.make call).2.desk.past) ∨
    (engine.make call).2.desk.past = engine.desk.past ∧
      (engine.make call).2.stack = engine.stack := by
  cases opened : engine.opening call with
  | some first =>
      rw [make_of_opening opened]
      exact .inl (first.drive_frees engine.env (one.opening opened))
  | none =>
      cases call with
      | cancel =>
          by_cases busy : engine.isBusy = true
          · exact .inl (.inl (cancel_free one.oneByOne busy))
          · unfold make cancel
            simp only [if_neg busy]
            exact .inr ⟨trivial, trivial⟩
      | connectionLost => exact .inl (.inl (connectionLost_free one.oneByOne))
      | _ =>
          obtain ⟨reply, desk, made, -, rfl | ⟨level, text, rfl⟩⟩ :=
            make_of_not_opened opened nofun nofun
          · rw [made]
            exact .inr ⟨rfl, rfl⟩
          · rw [made]
            exact .inr ⟨rfl, rfl⟩

theorem OneAtATime.make (one : engine.OneAtATime) (call : Call) :
    (engine.make call).2.OneAtATime := by
  rcases one.make_past call with (free | ⟨waits, begins⟩) | ⟨past, stack⟩
  · exact .of_free free
  · exact ⟨begins.oneByOne, fun _ => isBusy_of_wouldBlock waits⟩
  · refine ⟨past ▸ one.oneByOne, ?_⟩
    intro left
    rw [past] at left
    rw [isBusy_eq_true_iff, stack]
    exact isBusy_eq_true_iff.1 (one.busy left)

omit [Transport τ] in
theorem OneAtATime.drifts {after : Engine τ Operation} (one : engine.OneAtATime)
    (drifts : engine.Drifts good after) : after.OneAtATime := by
  obtain ⟨waits, all, past⟩ := drifts.past
  have silent : ∀ happening ∈ waits, happening.answer? = none := fun happening mem =>
    Happening.answer_of_isWait (all happening mem)
  refine ⟨past ▸ one.oneByOne.append silent, ?_⟩
  intro left
  have before : underWay engine.desk.past ≠ [] := by
    intro none
    rw [past] at left
    exact left (underWay_append none fun happening mem =>
      Happening.isBegun_eq_false (silent happening mem))
  have busy := isBusy_eq_true_iff.1 (one.busy before)
  rw [isBusy_eq_true_iff]
  rcases drifts.stack with same | ⟨top, below, channel, -, -, now⟩
  · rw [same]
    exact busy
  · rw [now]
    exact List.cons_ne_nil _ _

theorem oneAtATime_of_reachable (reachable : engine.Reachable good) : engine.OneAtATime := by
  induction reachable with
  | fresh new transport =>
      refine ⟨?_, ?_⟩
      · rw [new.past]
        trivial
      · rw [new.past]
        intro left
        exact absurd rfl left
  | call _ call _ ih => exact ih.make call
  | wait _ drifts ih => exact ih.drifts drifts

theorem execute_past_of_busy (busy : engine.isBusy = true) (command : Command) :
    (engine.execute command).2.desk.past = engine.desk.past := by
  unfold execute
  simp only [accept_of_busy busy]
  rfl

/-- In every run over any transport, a request is made only when whatever was under way has been
released; so at most one is under way, which keeps the engine busy, and a busy engine asks for
nothing, whatever it is told to execute. Within a call, a request that is answered by a wait is the
last thing to happen, and the wait is the reply. -/
theorem requests_one_by_one (reachable : engine.Reachable good) :
    (∀ later next between former earlier,
      engine.desk.past = later ++ next :: (between ++ former :: earlier) →
      next.answer?.isSome = true → former.answer? = some .wouldBlock →
        ∃ release ∈ between, release.isRelease = true) ∧
    (underWay engine.desk.past).length ≤ 1 ∧
    (underWay engine.desk.past ≠ [] → engine.isBusy = true ∧
      ∀ command, (engine.execute command).2.desk.past = engine.desk.past) ∧
    ∀ call, ∃ made, (engine.make call).2.desk.past = made ++ engine.desk.past ∧
      ∀ later request earlier, made = later ++ request :: earlier →
        request.answer? = some .wouldBlock →
          (engine.make call).1 = .wouldBlock ∧ later = [] := by
  have one := oneAtATime_of_reachable reachable
  refine ⟨?_, one.oneByOne.length_le, ?_, ?_⟩
  · intro later next between former earlier past asked begun
    exact one.oneByOne.exists_release past asked (decide_eq_true begun)
  · intro left
    exact ⟨one.busy left, execute_past_of_busy (one.busy left)⟩
  · intro call
    rcases one.make_past call with (free | ⟨waits, request, before, past, -, free⟩) | ⟨past, -⟩
    · obtain ⟨made, past, answered⟩ := free.made
      refine ⟨made, past, ?_⟩
      rintro later request earlier rfl begun
      have answered := answered request (List.mem_append_right _ List.mem_cons_self)
      simp [Happening.isBegun, begun] at answered
    · obtain ⟨made, rfl, answered⟩ := free.made
      refine ⟨request :: made, past, ?_⟩
      intro later other earlier split begun
      refine ⟨waits, ?_⟩
      cases later with
      | nil => rfl
      | cons newest rest =>
          -- all others were answered at once
          obtain ⟨rfl, rfl⟩ := List.cons.inj split
          have answered := answered other (List.mem_append_right _ List.mem_cons_self)
          simp [Happening.isBegun, begun] at answered
    · refine ⟨[], past, ?_⟩
      intro later request earlier split
      simp at split

/-- A change of permissions that waits for the change of directory. -/
theorem requests_one_by_one_entering :
    ∃ engine : Engine Scripted Operation,
      engine.Reachable (Scripted.Keeps (· ≠ .again) (· ≠ .again)) ∧
        (underWay engine.desk.past).length = 1 ∧
          ∀ command, (engine.execute command).2.desk.past = engine.desk.past := by
  have run := rehearsed_reachable (· ≠ .again) (· ≠ .again) (by decide) {}
    (connecting ++ [.execute (.chmod ⟨.root, "f", "644"⟩)])
  refine ⟨_, run, by decide +kernel, ?_⟩
  refine ((requests_one_by_one run).2.2.1 ?_).2
  exact List.ne_nil_of_length_pos (by decide +kernel)

end Engine

end Courier
