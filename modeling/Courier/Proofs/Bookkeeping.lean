import Courier.Proofs.Doubts

/-!
# Every change of the cache is accounted for

Over a transport that keeps to its contract, the journal of every run is a chronicle: the cache is
changed on four occasions only, and whatever may change something on the server is preceded by the
one change that goes with it. A turn hands on to the next what is known of the journal, of the
command in progress and of what is out. Where nobody else uses the cache, the journal tells what it
holds.
-/

namespace Courier

variable {τ : Type} [Transport τ] {good : Transport.States τ} {alone : Prop}
  {origin : DirectoryCache}

/-! ## What follows from the record of a step -/

theorem Happening.command?_of_isTelling {happening : Happening} (h : happening.isTelling = true) :
    happening.command? = none := by
  cases happening <;> first | rfl | cases h

namespace WireLine

variable {line : WireLine} {past : List Happening}

theorem tellings_of_forecast? {forecast : Server → DirectoryCache.Call}
    (h : line.forecast? = some forecast) (server : Server) (cache : DirectoryCache) :
    line.tellings (some server) cache =
      [.cached (forecast server) (cache.perform (forecast server)).1] := by
  simp only [tellings, h]

/-- There is nothing to tell of a line that changes nothing. -/
theorem tellings_of_harmless (harmless : line.isMutating = false) (server : Option Server)
    (cache : DirectoryCache) : line.tellings server cache = [] := by
  have none : line.forecast? = none := by
    cases line <;> first | rfl | cases harmless
  unfold tellings
  rw [none]
  cases server <;> rfl

/-- The cache is what it was told to become. -/
theorem replay_tellings (line : WireLine) (server : Option Server) (cache : DirectoryCache)
    (past : List Happening) :
    origin.replay (line.tellings server cache ++ past) =
      line.foretold server (origin.replay past) := by
  unfold tellings foretold
  cases server with
  | none => rfl
  | some known => cases line.forecast? <;> rfl

end WireLine

/-- Whatever a valid command does on the server is something to tell the cache of. -/
theorem Command.Says.exists_forecast {command : Command} {line : WireLine}
    (speaks : command.Says line) (valid : command.valid = true)
    (mutating : line.isMutating = true) :
    ∃ forecast, line.forecast? = some forecast := by
  cases line with
  | changeDir path => cases mutating
  | list => cases mutating
  | get object => cases mutating
  | makeDir path =>
      cases command with
      | makeDir request =>
          obtain rfl : path = request.path := WireLine.makeDir.inj speaks
          have above : request.path.hasParent = true := valid
          cases place : request.path with
          | unspecified => simp [place, RemotePath.hasParent] at above
          | absolute segments =>
              cases segments with
              | nil => simp [place, RemotePath.hasParent] at above
              | cons segment rest =>
                  simp [WireLine.forecast?, RemotePath.parent?, RemotePath.lastName?,
                    List.getLast?_cons]
      | transfer request =>
          obtain ⟨naming, is⟩ := speaks
          simp only at is
          split at is <;> cases is
      | delete request =>
          obtain ⟨naming, file, -, is⟩ := speaks
          cases is
      | removeDir request =>
          obtain ⟨naming, is⟩ := speaks
          cases is
      | rename request =>
          obtain ⟨source, target, is⟩ := speaks
          cases is
      | chmod request =>
          obtain ⟨naming, is⟩ := speaks
          cases is
      | raw text => cases speaks
      | _ => exact speaks.elim
  | _ => exact ⟨_, rfl⟩

namespace Desk.Records

variable {operation : Operation} {start desk : Desk τ Operation}

/-- No command is accepted while one is in progress. -/
theorem commands (records : start.Records operation desk) :
    lastCommand? desk.past = lastCommand? start.past := by
  cases records with
  | plain plainly =>
      obtain ⟨plains, all, past⟩ := plainly.past
      rw [past, lastCommand?_append fun happening mem => (all happening mem).2]
  | speaks _ _ prepares past _ =>
      obtain ⟨tellings, all, before⟩ := prepares.tells
      rw [past, before, ← List.cons_append, lastCommand?_append]
      refine List.forall_mem_cons.2 ⟨rfl, ?_⟩
      intro happening mem
      exact Happening.command?_of_isTelling (all happening mem)
  | discards _ _ _ _ _ plainly =>
      obtain ⟨plains, all, past⟩ := plainly.past
      rw [past, lastCommand?_append fun happening mem => (all happening mem).2, cacheCall_past]
      rfl
  | stores _ _ _ _ _ _ _ plainly =>
      obtain ⟨plains, all, past⟩ := plainly.past
      rw [past, lastCommand?_append fun happening mem => (all happening mem).2, cacheCall_past]
      rfl

/-- What became of the cache is in the journal. -/
theorem replays (records : start.Records operation desk)
    (before : start.cache = origin.replay start.past) : desk.cache = origin.replay desk.past := by
  cases records with
  | plain plainly =>
      obtain ⟨plains, all, past⟩ := plainly.past
      rw [past, DirectoryCache.replay_plains fun happening mem => (all happening mem).1,
        plainly.cache, before]
  | speaks _ _ prepares past cache =>
      obtain ⟨announcements, all, told⟩ := prepares.past
      rw [past, DirectoryCache.replay_cons, told, DirectoryCache.replay_plains
        fun happening mem => Happening.isPlain_of_isAnnouncement (all happening mem),
        WireLine.replay_tellings, cache, prepares.cache, before]
      rfl
  | discards _ _ _ _ _ plainly =>
      obtain ⟨plains, all, past⟩ := plainly.past
      rw [past, DirectoryCache.replay_plains fun happening mem => (all happening mem).1,
        plainly.cache, cacheCall_past, cacheCall_cache, before]
      rfl
  | stores _ _ _ _ _ _ _ plainly =>
      obtain ⟨plains, all, past⟩ := plainly.past
      rw [past, DirectoryCache.replay_plains fun happening mem => (all happening mem).1,
        plainly.cache, cacheCall_past, cacheCall_cache, takeListing_past]
      have same : start.takeListing.2.cache = origin.replay start.past := before
      rw [same]
      rfl

/-- Only listings change the cache without a request. -/
theorem unchanged (records : start.Records operation desk) (other : operation.kind ≠ .list)
    (none : changesSince start.past = []) : changesSince desk.past = [] := by
  cases records with
  | plain plainly =>
      obtain ⟨plains, all, past⟩ := plainly.past
      rw [past]
      exact changesSince_plains (fun happening mem => (all happening mem).1) none
  | speaks _ _ _ past _ =>
      rw [past, changesSince_cons]
      rfl
  | discards is => exact absurd (is ▸ rfl) other
  | stores is => exact absurd (is ▸ rfl) other

end Desk.Records

/-! ## The command in progress -/

/-- The operation was started by the command accepted last, or by an operation that was. -/
def Operation.Commissioned (past : List Happening) (operation : Operation) : Prop :=
  operation.isSubcommand = false → ∃ command, lastCommand? past = some command ∧
    command.valid = true ∧ operation.Serves command

namespace Operation

variable {operation : Operation} {past later : List Happening}

theorem Commissioned.of_same (commissioned : operation.Commissioned past)
    (same : lastCommand? later = lastCommand? past) : operation.Commissioned later := by
  intro command
  rw [same]
  exact commissioned command

theorem Commissioned.withChannel (commissioned : operation.Commissioned past)
    (channel : Local.Channel) : (operation.withChannel channel).Commissioned past := by
  intro plain
  obtain ⟨command, last, valid, serves⟩ := commissioned (by cases operation <;> exact plain)
  exact ⟨command, last, valid, serves.withChannel channel⟩

theorem commissioned_of_subcommand (sub : operation.isSubcommand = true) :
    operation.Commissioned past := by
  intro plain
  rw [sub] at plain
  cases plain

/-- Whose command sends lines makes no connection and lists nothing. -/
theorem Serves.speaks {command : Command} {line : WireLine} (serves : operation.Serves command)
    (speaks : command.Says line) :
    operation.isConnection = false ∧ operation.kind ≠ .sleep ∧ operation.kind ≠ .list := by
  cases operation with
  | connect task =>
      cases serves
      exact speaks.elim
  | disconnect task =>
      cases serves
      exact speaks.elim
  | list task =>
      cases serves
      exact speaks.elim
  | sleep task => exact serves.elim
  | _ => exact ⟨rfl, by simp [kind], by simp [kind]⟩

theorem serves_of_ofCommand? {command : Command} {protocol : Protocol}
    (h : ofCommand? command protocol = some operation) : operation.Serves command := by
  unfold ofCommand? at h
  split at h <;> first | (cases h; first | rfl | exact ⟨[], rfl⟩) | cases h

end Operation

/-- The journal stays a chronicle through a step of an operation that knows its command. -/
theorem Desk.Records.chronicle {operation : Operation} {start desk : Desk τ Operation}
    (records : start.Records operation desk) (earlier : Chronicle start.past)
    (oriented : start.Oriented)
    (linked : operation.isConnection = false → operation.kind ≠ .sleep →
      Linked start.past start.session)
    (commissioned : operation.Commissioned start.past)
    (unchanged : operation.isSubcommand = false → operation.kind ≠ .list →
      changesSince start.past = [])
    (begins : operation.isListToBegin = true →
      ∃ command before, start.past = .started command :: before) : Chronicle desk.past := by
  cases records with
  | plain plainly =>
      obtain ⟨plains, all, past⟩ := plainly.past
      rw [past]
      exact earlier.plains fun happening mem => (all happening mem).1
  | @speaks line text reply before _ sub own prepares past _ =>
      obtain ⟨announcements, all, told⟩ := prepares.past
      obtain ⟨command, last, valid, serves⟩ := commissioned sub
      obtain ⟨plain, awake, other⟩ := serves.speaks (own command serves)
      by_cases mutating : line.isMutating = true
      · -- the cache is told of the line on behalf of the server there is a connection to
        obtain ⟨forecast, foretells⟩ := (own command serves).exists_forecast valid mutating
        obtain ⟨server, ours, -, up⟩ := linked plain awake
        have impends : line.Impends (forecast server) start.past :=
          ⟨mutating, ⟨command, last, own command serves⟩, ⟨server, forecast, up, foretells, rfl⟩,
            unchanged sub other⟩
        rw [past, told, ours, WireLine.tellings_of_forecast? foretells]
        exact .line impends all earlier
      · have harmless : line.isMutating = false := by simpa using mutating
        rw [past, told, WireLine.tellings_of_harmless harmless]
        refine .plain (by simp [Happening.isPlain, harmless]) (earlier.plains ?_)
        intro happening mem
        exact Happening.isPlain_of_isAnnouncement (all happening mem)
  | @discards task server path _ is starts wanted target ours plainly =>
      subst is
      obtain ⟨plains, all, past⟩ := plainly.past
      obtain ⟨command, last, -, serves⟩ := commissioned rfl
      obtain ⟨started, before, begun⟩ := begins (by simp [Operation.isListToBegin, starts])
      obtain ⟨server', ours', -, up⟩ := linked rfl (by simp [Operation.kind])
      obtain rfl : server' = server := Option.some.inj (ours'.symm.trans ours)
      obtain rfl : command = .list task.request := serves
      obtain rfl : started = .list task.request := by
        rw [begun] at last
        exact Option.some.inj last
      rw [past, cacheCall_past]
      refine Chronicle.plains (.change ?_ earlier) fun happening mem => (all happening mem).1
      rw [begun] at up ⊢
      refine .discard wanted ?_ target (by simpa [Link.after] using up)
      intro known here
      rw [← begun]
      exact oriented.place known here
  | @stores task server listing entries text waits before _ is completed waited fine up taken
      received plainly =>
      subst is
      obtain ⟨plains, all, past⟩ := plainly.past
      obtain ⟨command, last, -, serves⟩ := commissioned rfl
      obtain rfl : command = .list task.request := serves
      rw [past, cacheCall_past]
      refine Chronicle.plains (.change ?_ (.plain rfl earlier)) fun happening mem =>
        (all happening mem).1
      rw [takeListing_past, show (Transport.takeListing start.transport).1 = some entries from
        taken, completed]
      have own : lastCommand? before = some (.list task.request) := by
        have same : lastCommand? (waits ++ .sent .list text .wouldBlock :: before) =
            lastCommand? before :=
          lastCommand?_append fun happening mem =>
            Happening.command?_of_isWait (waited happening mem)
        rw [completed] at last
        exact same.symm.trans last
      exact .store own fine up waited received

/-! ## Along the turns of a call -/

/-- What is known of the journal and the cache after a step. -/
structure Step.Booked (alone : Prop) (origin : DirectoryCache) (below : List Operation)
    (step : Step τ Operation Operation) : Prop where
  chronicle : Chronicle step.desk.past
  replays : alone → step.desk.cache = origin.replay step.desk.past
  own : step.reply = .again ∨ step.reply = .wouldBlock →
    step.operation.Commissioned step.desk.past
  others : ∀ operation ∈ below, operation.Commissioned step.desk.past
  unchanged : (∀ operation ∈ step.operation :: below, operation.kind ≠ .list) →
    changesSince step.desk.past = []
  goesOn : step.reply = .again →
    step.operation.line? = none ∧ step.operation.isListToBegin = false
  waits : step.reply = .wouldBlock → ∃ request before, step.desk.past = request :: before ∧
    request.answer? = some .wouldBlock ∧ request.line? = step.operation.line?

namespace Turn

/-- What is known of the journal and the cache when the topmost operation is about to be told the
event. If `alone`, nobody else uses the cache, which was `origin` at first. -/
structure Booked (alone : Prop) (origin : DirectoryCache) (turn : Turn τ Operation) : Prop where
  chronicle : Chronicle turn.desk.past
  replays : alone → turn.desk.cache = origin.replay turn.desk.past
  commissioned : ∀ operation ∈ turn.top :: turn.below, operation.Commissioned turn.desk.past
  unchanged : (∀ operation ∈ turn.top :: turn.below, operation.kind ≠ .list) →
    changesSince turn.desk.past = []
  begins : turn.top.isListToBegin = true →
    ∃ command before, turn.desk.past = .started command :: before

variable {turn after : Turn τ Operation} {env : Env}

theorem Oriented.linked (oriented : turn.Oriented) (plain : turn.top.isConnection = false)
    (awake : turn.top.kind ≠ .sleep) : Linked turn.desk.past turn.desk.session := by
  have told := oriented.told
  cases event : turn.event with
  | send =>
      simp only [event] at told
      exact (told.1 _ List.mem_cons_self).linked plain awake
  | completed =>
      simp only [event] at told
      obtain ⟨past, happened, tied, -⟩ := told
      rw [happened]
      exact ((tied _ List.mem_cons_self).linked plain awake).completed _
  | returned reply finished =>
      simp only [event] at told
      exact (told.1 _ List.mem_cons_self).linked plain awake

/-- The step of a turn. -/
theorem Booked.step (booked : turn.Booked alone origin) (oriented : turn.Oriented)
    (conforms : Transport.Conforms good) (fits : turn.Fits good) (env : Env) :
    (turn.step env).Booked alone origin turn.below := by
  have recorded := oriented.recorded conforms fits env
  have sound := fits.sound conforms.neverGoesOn env
  have commands := recorded.records.commands
  have same : (turn.step env).operation.kind = turn.top.kind := Operation.step_kind _ _ _ _
  have begins : Desk.Oriented { turn.desk with pending := none } :=
    ⟨oriented.desk.place, oriented.desk.heed⟩
  refine ⟨?_, fun holds => recorded.records.replays (booked.replays holds), ?_, ?_, ?_,
    recorded.goesOn, recorded.waits⟩
  · refine recorded.records.chronicle booked.chronicle begins oriented.linked
      (booked.commissioned _ List.mem_cons_self) ?_ booked.begins
    intro command other
    refine booked.unchanged ?_
    rw [fits.below.of_command command]
    exact List.forall_mem_singleton.2 other
  · intro stays command
    obtain ⟨started, last, valid, serves⟩ := booked.commissioned _ List.mem_cons_self
      (sound.succeeds.isSubcommand.symm.trans command)
    exact ⟨started, commands.trans last, valid, recorded.serves stays started serves⟩
  · intro operation mem
    exact (booked.commissioned operation (List.mem_cons_of_mem _ mem)).of_same commands
  · intro others
    obtain ⟨own, below⟩ := List.forall_mem_cons.1 others
    have other : turn.top.kind ≠ .list := same ▸ own
    exact recorded.records.unchanged other
      (booked.unchanged (List.forall_mem_cons.2 ⟨other, below⟩))

theorem Booked.next (booked : turn.Booked alone origin) (oriented : turn.Oriented)
    (conforms : Transport.Conforms good) (fits : turn.Fits good)
    (next : turn.next env = .inr after) : after.Booked alone origin := by
  have stepped := booked.step oriented conforms fits env
  have sound := fits.sound conforms.neverGoesOn env
  rcases Step.next_eq_inr next with ⟨again, left, -, rfl⟩ | ⟨ends, wait, -, parent, rest, eq, rfl⟩
  · have own := stepped.own (.inl again)
    have goesOn := (sound.goesOn again).2
    unfold Step.onward
    rw [Step.noted_pending]
    cases pending : (turn.step env).desk.pending with
    | some child =>
        simp only [pending] at goesOn
        have sub := goesOn.1.isSubcommand
        refine ⟨stepped.chronicle, stepped.replays, ?_, ?_, ?_⟩
        · refine List.forall_mem_cons.2 ⟨Operation.commissioned_of_subcommand sub, ?_⟩
          exact List.forall_mem_cons.2 ⟨own, stepped.others⟩
        · intro others
          exact stepped.unchanged (List.forall_mem_cons.1 others).2
        · intro begins
          cases child <;> first | cases begins | cases sub
    | none =>
        refine ⟨stepped.chronicle, stepped.replays, List.forall_mem_cons.2 ⟨own, stepped.others⟩,
          stepped.unchanged, ?_⟩
        intro begins
        rw [(stepped.goesOn again).2] at begins
        cases begins
  · rcases fits.below.succeeds sound.succeeds with ⟨empty, -⟩ | ⟨asker, single, waits⟩
    · simp [empty] at eq
    · obtain ⟨rfl, rfl⟩ : asker = parent ∧ [] = rest := by simpa [single] using eq
      have others := stepped.others
      rw [single] at others
      refine ⟨stepped.chronicle, stepped.replays, others, ?_, ?_⟩
      · -- what ended is a subcommand and lists nothing
        intro plain
        refine stepped.unchanged (List.forall_mem_cons.2 ⟨?_, single ▸ plain⟩)
        have sub := waits.isSubcommand
        intro lists
        cases ended : (turn.step env).operation with
        | sleep task => rw [ended] at lists; cases lists
        | changeDir task => rw [ended] at lists; cases lists
        | _ => rw [ended] at sub; cases sub
      · intro begins
        have begun : asker.isListToBegin = true := begins
        rw [waits.isListToBegin] at begun
        cases begun

end Turn

/-! ## Between the calls -/

/-- The request the operation waits for was the last thing to happen, waits apart. -/
def Operation.Pends (past : List Happening) (operation : Operation) : Prop :=
  ∃ waits request before, past = waits ++ request :: before ∧
    (∀ happening ∈ waits, happening.isWait = true) ∧
    request.answer? = some .wouldBlock ∧ request.line? = operation.line?

theorem Operation.Pends.longer {operation : Operation} {past waits : List Happening}
    (pends : operation.Pends past) (all : ∀ happening ∈ waits, happening.isWait = true) :
    operation.Pends (waits ++ past) := by
  obtain ⟨former, request, before, rfl, formerly, rest⟩ := pends
  refine ⟨waits ++ former, request, before, (List.append_assoc ..).symm, ?_, rest⟩
  intro happening mem
  rcases List.mem_append.1 mem with mem | mem
  · exact all happening mem
  · exact formerly happening mem

namespace Engine

/-- What is known of the journal and the cache between two calls. -/
structure Booked (alone : Prop) (origin : DirectoryCache) (engine : Engine τ Operation) :
    Prop where
  chronicle : Chronicle engine.desk.past
  replays : alone → engine.desk.cache = origin.replay engine.desk.past
  commissioned : ∀ operation ∈ engine.stack, operation.Commissioned engine.desk.past
  unchanged : engine.stack ≠ [] → (∀ operation ∈ engine.stack, operation.kind ≠ .list) →
    changesSince engine.desk.past = []
  pends : ∀ top below, engine.stack = top :: below → top.Pends engine.desk.past

variable {engine after : Engine τ Operation}

omit [Transport τ] in
theorem Booked.of_empty (empty : engine.stack = []) (chronicle : Chronicle engine.desk.past)
    (replays : alone → engine.desk.cache = origin.replay engine.desk.past) :
    engine.Booked alone origin := by
  refine ⟨chronicle, replays, ?_, fun busy => absurd empty busy, ?_⟩
  · simp [empty]
  · simp [empty]

/-- A call begins with a turn of which all is known that is of the others. -/
theorem Booked.opening {call : Call} {first : Turn τ Operation}
    (booked : engine.Booked alone origin) (rests : engine.Rests good)
    (may : engine.MayMake good call) (h : engine.opening call = some first) :
    first.Booked alone origin := by
  have fits := rests.opening may h
  rcases opening_eq_some h with ⟨command, operation, rfl, accepted, rfl⟩ |
    ⟨top, below, rfl, stack, rfl⟩
  · obtain ⟨-, valid, protocol, -, offered⟩ := accept_eq_ok accepted
    refine ⟨.plain rfl booked.chronicle, booked.replays, ?_, fun _ => rfl,
      fun _ => ⟨command, _, rfl⟩⟩
    refine List.forall_mem_singleton.2 fun _ => ⟨command, rfl, valid, ?_⟩
    exact Operation.serves_of_ofCommand? offered
  · have commissioned := booked.commissioned
    have unchanged := booked.unchanged (by simp [stack])
    rw [stack] at commissioned unchanged
    refine ⟨.plain rfl booked.chronicle, booked.replays, ?_, ?_, ?_⟩
    · intro operation mem
      exact (commissioned operation mem).of_same rfl
    · intro others
      refine (changesSince_cons _ _).trans ?_
      exact unchanged others
    · -- a listing about which nothing was done waits for nothing
      intro begins
      have waits : top.awaitsCompletion = true := fits.expected
      cases top with
      | list task =>
          obtain ⟨request, progress⟩ := task
          cases progress with
          | start => cases waits
          | _ => cases begins
      | _ => cases begins

/-- Where a turn ends the call, all is known that is between two calls. -/
theorem booked_of_next {turn : Turn τ Operation} {outcome : Outcome τ Operation} {env : Env}
    (conforms : Transport.Conforms good) (fits : turn.Fits good) (oriented : turn.Oriented)
    (booked : turn.Booked alone origin) (next : turn.next env = .inl outcome)
    (engine : Engine τ Operation) : (engine.take outcome).2.Booked alone origin := by
  have stepped := booked.step oriented conforms fits env
  have sound := fits.sound conforms.neverGoesOn env
  rcases Step.next_eq_inl next with ⟨again, -, rfl⟩ | ⟨stops, child, asked, -⟩ | ⟨wait, -, rfl⟩ |
    ⟨stops, ends, -, -, rfl⟩
  · -- an operation that wants to go on has no line out
    have below := fits.below.of_command (sound.goesOn again).1
    have silent := (stepped.goesOn again).1
    have idle : ∀ operation ∈ turn.below, operation.line? = none := by simp [below]
    have quiet := abandon_eq env idle ((turn.step env).noted.note .error ((HasKind.kind
      (turn.step env).operation).text ++ " continued " ++
        toString (env.settings.maxContinue.toNat + 1) ++ " times without waiting, giving up"))
      (turn.step env).operation
    rw [silent] at quiet
    refine .of_empty rfl ?_ ?_
    · change Chronicle (abandon env _ _).past
      rw [quiet]
      split <;> exact stepped.chronicle
    · intro holds
      change (abandon env _ _).cache = origin.replay (abandon env _ _).past
      rw [quiet]
      split <;> exact stepped.replays holds
  · exact (sound.asks_nothing stops asked).elim
  · refine ⟨stepped.chronicle, stepped.replays, ?_, fun _ => stepped.unchanged, ?_⟩
    · exact List.forall_mem_cons.2 ⟨stepped.own (.inr wait), stepped.others⟩
    · rintro _ _ ⟨⟩
      obtain ⟨request, before, past, answer, line⟩ := stepped.waits wait
      exact ⟨[], request, before, past, List.forall_mem_nil _, answer, line⟩
  · obtain ⟨text, finished⟩ := finish_eq (HasKind.kind (turn.step env).operation)
      (turn.step env).reply (turn.step env).noted
    rw [finished]
    exact .of_empty rfl stepped.chronicle stepped.replays

omit [Transport τ] in
/-- With a line out there is a connection to the server of the session. -/
theorem linked_of_line {past : List Happening} {session : Session} {operation : Operation}
    {line : WireLine} (tied : operation.Tied past session) (out : operation.line? = some line) :
    Linked past session := by
  cases operation <;> first | exact tied | cases out

/-- What a request that is out was. -/
theorem request_eq {request : Happening} {line : WireLine}
    (answer : request.answer? = some .wouldBlock) (is : request.line? = some line) :
    ∃ text, request = .sent line text .wouldBlock := by
  cases request with
  | sent line' text answer' =>
      cases answer
      cases is
      exact ⟨text, rfl⟩
  | _ => cases is

omit [Transport τ] in
/-- Putting in doubt what is out keeps the journal a chronicle. -/
theorem Booked.doubts (booked : engine.Booked alone origin) (oriented : engine.Oriented)
    {top : Operation} {below : List Operation} (stack : engine.stack = top :: below)
    {cause : Happening} (gaveUp : cause = .canceled ∨ cause = .connectionLost)
    {desk : Desk τ Operation} (past : desk.past = cause :: engine.desk.past)
    (session : desk.session = engine.desk.session) : Chronicle (desk.doubt top.line?).past := by
  have plain : cause.isPlain = true := by rcases gaveUp with rfl | rfl <;> rfl
  have begins : Chronicle (cause :: engine.desk.past) := .plain plain booked.chronicle
  cases out : top.line? with
  | none =>
      rw [← past] at begins
      exact begins
  | some line =>
      obtain ⟨waits, request, before, happened, all, answer, same⟩ := booked.pends top below stack
      obtain ⟨text, rfl⟩ := request_eq answer (same.trans out)
      obtain ⟨server, ours, -, up⟩ :=
        linked_of_line (oriented.tied top (by simp [stack])) out
      have asides : ∀ happening ∈ waits, happening.isAside = true := fun happening mem =>
        Happening.isAside_of_isWait (all happening mem)
      rw [happened, Link.ofPast_asides asides, Link.ofPast_cons, Link.after_sent] at up
      have known : desk.session.server = some server := by rw [session, ours]
      obtain ⟨told, doubts, later⟩ := desk.tellAll_past line.doubts known
      change Chronicle (desk.tellAll line.doubts).past
      rw [later, past, happened]
      rw [happened] at begins
      clear later
      -- each doubt has the same occasion, whatever was put in doubt before
      induction told with
      | nil => exact begins
      | cons doubt rest ih =>
          obtain ⟨call, answer, among, rfl⟩ := doubts doubt List.mem_cons_self
          have others : ∀ happening ∈ rest, ∃ other answer, other ∈ line.doubts ∧
              happening = .cached (other server) answer := by
            intro happening mem
            exact doubts happening (List.mem_cons_of_mem _ mem)
          refine .change (.doubt gaveUp (WireLine.isMutating_of_mem_doubts among) up among ?_ all)
            (ih others)
          exact others

/-- The journal tells what is given up, whatever was the cause. -/
theorem Booked.abandons (booked : engine.Booked alone origin) (oriented : engine.Oriented)
    (form : StackForm engine.stack) (busy : engine.isBusy = true)
    {cause : Happening} (gaveUp : cause = .canceled ∨ cause = .connectionLost)
    (desk : Desk τ Operation) (past : desk.past = cause :: engine.desk.past)
    (session : desk.session = engine.desk.session) (cache : desk.cache = engine.desk.cache) :
    Chronicle (abandon engine.env engine.stack desk).past ∧
      (alone → (abandon engine.env engine.stack desk).cache =
        origin.replay (abandon engine.env engine.stack desk).past) := by
  cases stack : engine.stack with
  | nil => simp [isBusy, stack] at busy
  | cons top below =>
      have idle : ∀ operation ∈ below, operation.line? = none := by
        intro operation mem
        exact (stack ▸ form).line?_of_mem mem
      have given := abandon_eq engine.env idle desk top
      have doubted := booked.doubts oriented stack gaveUp past session
      rw [given]
      refine ⟨?_, ?_⟩
      · split <;> exact doubted
      · intro holds
        have replays : (desk.doubt top.line?).cache =
            origin.replay (desk.doubt top.line?).past := by
          refine Desk.tellAll_replays _ desk ?_
          rw [cache, past, booked.replays holds]
          rcases gaveUp with rfl | rfl <;> rfl
        split <;> exact replays

theorem Booked.cancel (booked : engine.Booked alone origin) (oriented : engine.Oriented)
    (form : StackForm engine.stack) : engine.cancel.2.Booked alone origin := by
  unfold Engine.cancel
  split
  · rename_i busy
    obtain ⟨chronicle, replays⟩ := booked.abandons oriented form busy (.inl rfl)
      ((engine.desk.record .canceled).note .info "Command canceled") rfl rfl rfl
    exact .of_empty rfl (.plain rfl chronicle) replays
  · exact booked

theorem Booked.connectionLost (booked : engine.Booked alone origin) (oriented : engine.Oriented)
    (form : StackForm engine.stack) : engine.connectionLost.2.Booked alone origin := by
  unfold Engine.connectionLost
  split
  · rename_i busy
    obtain ⟨chronicle, replays⟩ := booked.abandons oriented form busy (.inr rfl)
      ((engine.desk.record .connectionLost).note .warn
        "connection lost while a command was in progress") rfl rfl rfl
    exact .of_empty rfl chronicle replays
  · rename_i idle
    refine .of_empty ?_ (.plain rfl booked.chronicle) booked.replays
    simpa [isBusy] using idle

theorem Booked.make (booked : engine.Booked alone origin) (oriented : engine.Oriented)
    (conforms : Transport.Conforms good) (rests : engine.Rests good) (call : Call)
    (may : engine.MayMake good call) : (engine.make call).2.Booked alone origin := by
  refine make_rule (P := Booked alone origin) call ?_ (booked.cancel oriented rests.form)
    (booked.connectionLost oriented rests.form) booked ?_
  · intro first opened
    refine Turn.Fits.rule conforms.neverGoesOn
      (P := fun turn => turn.Oriented ∧ turn.Booked alone origin) ?_
      (Q := fun outcome => (engine.take outcome).2.Booked alone origin) ?_
      (rests.opening may opened) ⟨oriented.opening opened, booked.opening rests may opened⟩
    · rintro turn after fits ⟨oriented, booked⟩ next
      exact ⟨oriented.next conforms fits next, booked.next oriented conforms fits next⟩
    · rintro turn outcome fits ⟨oriented, booked⟩ next
      exact booked_of_next conforms fits oriented booked next engine
  · intro level text
    exact ⟨booked.chronicle, booked.replays, booked.commissioned, booked.unchanged, booked.pends⟩

omit [Transport τ] in
theorem Booked.drifts (booked : engine.Booked alone origin) (drifts : engine.Drifts good after)
    (cache : alone → after.desk.cache = engine.desk.cache) : after.Booked alone origin := by
  obtain ⟨waits, all, past⟩ := drifts.past
  have plain : ∀ happening ∈ waits, happening.isPlain = true := fun happening mem =>
    Happening.isPlain_of_isWait (all happening mem)
  have commands : lastCommand? after.desk.past = lastCommand? engine.desk.past := by
    rw [past, lastCommand?_append]
    intro happening mem
    exact Happening.command?_of_isWait (all happening mem)
  have replays (holds : alone) : after.desk.cache = origin.replay after.desk.past := by
    rw [past, DirectoryCache.replay_plains plain, cache holds, booked.replays holds]
  have pends {top : Operation} (h : top.Pends engine.desk.past) : top.Pends after.desk.past := by
    rw [past]
    exact h.longer all
  have chronicle : Chronicle after.desk.past := by
    rw [past]
    exact booked.chronicle.plains plain
  have unchanged := booked.unchanged
  -- data that goes through a local end changes nothing of what is known
  rcases drifts.stack with same | ⟨top, below, channel, before, -, now⟩
  · refine ⟨chronicle, replays, ?_, ?_, ?_⟩
    · rw [same]
      intro operation mem
      exact (booked.commissioned operation mem).of_same commands
    · rw [same, past]
      intro busy others
      exact changesSince_plains plain (unchanged busy others)
    · rw [same]
      intro top below stack
      exact pends (booked.pends top below stack)
  · have commissioned := booked.commissioned
    rw [before] at commissioned unchanged
    obtain ⟨own, others⟩ := List.forall_mem_cons.1 commissioned
    refine ⟨chronicle, replays, ?_, ?_, ?_⟩
    · rw [now]
      refine List.forall_mem_cons.2 ⟨(own.of_same commands).withChannel channel, ?_⟩
      intro operation mem
      exact (others operation mem).of_same commands
    · rw [now, past]
      intro _ plainly
      obtain ⟨first, rest⟩ := List.forall_mem_cons.1 plainly
      refine changesSince_plains plain (unchanged (by simp) (List.forall_mem_cons.2 ⟨?_, rest⟩))
      cases top <;> exact first
    · rw [now]
      rintro _ _ ⟨⟩
      obtain ⟨waits, request, earlier, happened, waited, answer, line⟩ :=
        pends (booked.pends top below before)
      exact ⟨waits, request, earlier, happened, waited, answer,
        line.trans (Operation.line?_withChannel channel).symm⟩

/-- What is known of the journal and the cache in every run. -/
theorem booked_of_runFrom {start : Engine τ Operation}
    {meanwhile : Engine τ Operation → Engine τ Operation → Prop}
    (conforms : Transport.Conforms good) (new : start.IsFresh)
    (transport : good start.desk.transport)
    (drifts : ∀ engine after, meanwhile engine after →
      engine.Drifts good after ∧ (alone → after.desk.cache = engine.desk.cache))
    (run : RunFrom good meanwhile start engine) : engine.Booked alone start.desk.cache := by
  have reaches {engine : Engine τ Operation} (run : RunFrom good meanwhile start engine) :
      engine.Reachable good :=
    (run.run new transport).mono fun engine after between => (drifts engine after between).1
  induction run with
  | start =>
      refine .of_empty new.stack ?_ fun _ => ?_
      · rw [new.past]
        exact .nil
      · rw [new.past]
        rfl
  | call run call may ih =>
      exact ih.make (oriented_of_reachable conforms (reaches run)) conforms
        (rests_of_reachable conforms.neverGoesOn (reaches run)) call may
  | wait run between ih => exact ih.drifts (drifts _ _ between).1 (drifts _ _ between).2

theorem booked_of_reachable (conforms : Transport.Conforms good)
    (reachable : engine.Reachable good) : ∃ origin, engine.Booked False origin := by
  obtain ⟨start, new, transport, run⟩ := reachable.exists_start
  exact ⟨_, booked_of_runFrom conforms new transport
    (fun _ _ drifts => ⟨drifts, False.elim⟩) run⟩

/-- Where nobody else uses the cache, the journal tells what it holds. -/
theorem booked_of_run (conforms : Transport.Conforms good)
    (run : Run good (DriftsAlone good) engine) : ∃ origin, engine.Booked True origin := by
  obtain ⟨start, new, transport, run⟩ := run.exists_start
  exact ⟨_, booked_of_runFrom conforms new transport
    (fun _ _ drifts => ⟨drifts.toDrifts, fun _ => drifts.cache⟩) run⟩

/-- In every run over a transport that keeps to its contract, a line that may change something on
the server is sent after exactly one change of the cache since the last request: the one that goes
with the line, made for the server there is a connection to. All other changes have one of three
occasions, and in the course of a download there is none. -/
theorem changes_accounted (conforms : Transport.Conforms good)
    (reachable : engine.Reachable good) :
    (∀ later line text answer earlier,
      engine.desk.past = later ++ .sent line text answer :: earlier → line.isMutating = true →
      ∃ command server forecast, lastCommand? earlier = some command ∧ command.Says line ∧
        Link.ofPast earlier = .up server ∧ line.forecast? = some forecast ∧
        changesSince earlier = [forecast server]) ∧
    (∀ later call answer earlier,
      engine.desk.past = later ++ .cached call answer :: earlier → call.isMutating = true →
      (∃ rest line text reply announcements,
        later = rest ++ .sent line text reply :: announcements ∧
        (∀ happening ∈ announcements, happening.isAnnouncement = true) ∧
        line.Impends call earlier) ∨ Occasion call earlier) ∧
    ∀ later call answer earlier request,
      engine.desk.past = later ++ .cached call answer :: earlier →
      lastCommand? earlier = some (.transfer request) → request.isDownload = true →
      call.isMutating = false := by
  obtain ⟨origin, booked⟩ := booked_of_reachable conforms reachable
  have chronicle := booked.chronicle
  refine ⟨?_, fun _ _ _ _ split mutating => chronicle.change_at split mutating, ?_⟩
  · intro later line text answer earlier split mutating
    obtain ⟨announcements, call, told, before, rfl, all, impends⟩ :=
      chronicle.line_at split mutating
    exact impends.foretold told all
  · intro later call answer earlier request split last downloads
    rw [Bool.eq_false_iff]
    intro mutating
    obtain ⟨command, same, ⟨listed, rfl⟩ | ⟨line, changes, speaks⟩⟩ :=
      chronicle.command_at split mutating
    · rw [last] at same
      cases same
    · rw [last] at same
      obtain rfl := Option.some.inj same
      obtain ⟨naming, is⟩ := speaks
      simp only [downloads, if_true] at is
      rw [is] at changes
      cases changes

/-- Before a line of the caller nothing is known of the server any more. -/
theorem changes_accounted_raw : ∃ (engine : Engine Scripted Operation) (text : String)
    (earlier : List Happening), engine.Reachable Scripted.IsConforming ∧
      engine.desk.past = .sent (.raw "x") text .wouldBlock :: earlier ∧
      changesSince earlier = [.forgetServer stage] := by
  let engine := (rehearsed {}).after (connecting ++ [.execute (.raw "x")])
  have run : engine.Reachable Scripted.IsConforming := conforming_reachable _ _
  have said : engine.desk.past.head?.bind Happening.line? = some (.raw "x") := by decide +kernel
  have linked : Link.ofPast engine.desk.past.tail = .up stage := by decide +kernel
  have waits : engine.desk.past.head?.bind Happening.answer? = some .wouldBlock := by
    decide +kernel
  obtain ⟨accounted, -⟩ := changes_accounted Scripted.conforms run
  cases past : engine.desk.past with
  | nil => simp [past] at said
  | cons request earlier =>
      rw [past] at said linked waits
      obtain ⟨text, rfl⟩ := request_eq waits said
      obtain ⟨-, server, forecast, -, -, up, foretells, only⟩ := accounted [] _ _ _ _ past rfl
      obtain rfl : stage = server := Link.up.inj (linked.symm.trans up)
      cases foretells
      exact ⟨engine, text, earlier, run, past, only⟩

end Engine

end Courier
