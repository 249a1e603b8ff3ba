import Courier.Proofs.Course
import Courier.Proofs.StepEffects
import Courier.Proofs.Paths

/-!
# Listing a directory

A command to list is served from the cache exactly if the cached listing is trusted and young enough
and nothing in the command speaks against it; otherwise the directory is entered, if need be, and
listed. What the server lists is stored under the directory that is then the current one. If it is
not known which one that is, nothing is stored.
-/

namespace Courier

/-! ## Served from the cache -/

namespace ListRequest

/-- The cached listing may stand in for a fresh one. -/
structure Trusts (request : ListRequest) (env : Env) (listing : Listing) : Prop where
  refresh : request.flags.contains .refresh = false
  link : request.flags.contains .link = false
  clearCache : request.flags.contains .clearCache = false
  known : ∀ entry ∈ listing.entries, entry.freshness = .known
  young : request.flags.contains .avoid = true ∨
    env.now - listing.fetched < env.settings.cacheTtl.toNat * 1000000000

/-- A listing of the target is cached that may stand in for a fresh one. -/
def IsServed (request : ListRequest) (env : Env) (cache : DirectoryCache) (server : Server)
    (current : Option RemotePath) : Prop :=
  ∃ target listing, request.target? current = some target ∧
    cache.lookup server target = some listing ∧ request.Trusts env listing

end ListRequest

theorem ListFlags.intersects_refresh_link (flags : ListFlags) :
    flags.intersects (.refresh ||| .link) = (flags.contains .refresh || flags.contains .link) := by
  have refresh : flags.bits &&& 1#16 = if flags.bits.getLsbD 0 then 1#16 else 0#16 :=
    BitVec.and_twoPow flags.bits 0
  have link : flags.bits &&& 8#16 = if flags.bits.getLsbD 3 then 8#16 else 0#16 :=
    BitVec.and_twoPow flags.bits 3
  show (flags.bits &&& (1#16 ||| 8#16) != 0) =
    ((flags.bits &&& 1#16 == 1#16) || (flags.bits &&& 8#16 == 8#16))
  rw [BitVec.and_or_distrib_left, refresh, link]
  cases flags.bits.getLsbD 0 <;> cases flags.bits.getLsbD 3 <;> rfl

/-- Something was asked of the transport, or told to it. -/
def Happening.reachesTransport : Happening → Bool
  | .sent _ _ _ | .connecting _ _ _ | .disconnecting _ | .wakeUp _ _ | .listingTaken _
  | .announced _ | .aborted => true
  | _ => false

/-- From `desk` to `after` nothing but the cache was called. -/
structure Desk.Consults {τ : Type} (desk after : Desk τ Operation) : Prop where
  transport : after.transport = desk.transport
  session : after.session = desk.session
  pending : after.pending = desk.pending
  past : ∃ told, (∀ happening ∈ told, ∃ call answer, happening = Happening.cached call answer) ∧
    after.past = told ++ desk.past

namespace Desk.Consults

variable {τ : Type} {desk after : Desk τ Operation}

theorem refl (desk : Desk τ Operation) : desk.Consults desk :=
  ⟨rfl, rfl, rfl, [], List.forall_mem_nil _, rfl⟩

theorem cacheCall (consults : desk.Consults after) (call : DirectoryCache.Call) :
    desk.Consults (after.cacheCall call).2 := by
  obtain ⟨told, all, past⟩ := consults.past
  refine ⟨(after.cacheCall_transport call).trans consults.transport,
    (after.cacheCall_session call).trans consults.session,
    (after.cacheCall_pending call).trans consults.pending,
    .cached call (after.cache.perform call).1 :: told, ?_, ?_⟩
  · exact List.forall_mem_cons.2 ⟨⟨_, _, rfl⟩, all⟩
  · rw [after.cacheCall_past, past]
    rfl

theorem tellCache (consults : desk.Consults after) (call : Server → DirectoryCache.Call) :
    desk.Consults (after.tellCache call) := by
  cases server : after.session.server with
  | none =>
      rw [after.tellCache_of_none call server]
      exact consults
  | some known =>
      rw [after.tellCache_of_server call server]
      exact consults.cacheCall _

theorem lookup (consults : desk.Consults after) (path : RemotePath) :
    desk.Consults (after.lookup path).2 := by
  rcases after.lookup_desk path with same | ⟨server, called⟩
  · rw [same]
    exact consults
  · rw [called]
    exact consults.cacheCall _

end Desk.Consults

namespace ListTask

variable {τ : Type} (desk : Desk τ Operation) (env : Env) (request : ListRequest)
  {server : Server}

/-- What a listing finds in the cache, after it has discarded what it is not to use. -/
def consulted : Bool × Desk τ Operation :=
  consultCache env request.flags (request.target? desk.session.directory)
    (discard request.flags (request.target? desk.session.directory) desk)

theorem isGoodEnough_iff (flags : ListFlags) (listing : Listing) :
    isGoodEnough env flags listing = true ↔
      (∀ entry ∈ listing.entries, entry.freshness = .known) ∧
        (flags.contains .avoid = true ∨
          env.now - listing.fetched < env.settings.cacheTtl.toNat * 1000000000) := by
  unfold isGoodEnough Listing.hasUnsure Listing.age nanos
  rw [Bool.and_eq_true, Bool.or_eq_true, decide_eq_true_eq]
  refine and_congr_left fun _ => ?_
  simp

/-- After the listing of the directory has been discarded, if that is asked for. -/
theorem discard_cache (flags : ListFlags) (path : RemotePath)
    (ours : desk.session.server = some server) :
    (discard flags (some path) desk).cache =
      if flags.contains .clearCache then desk.cache.forgetDir server path else desk.cache := by
  unfold discard
  simp only [desk.tellCache_of_server _ ours]
  split
  · exact desk.cacheCall_cache _
  · rfl

theorem lookup_eq (path : RemotePath) (ours : desk.session.server = some server) :
    (desk.lookup path).1 = desk.cache.lookup server path := by
  unfold Desk.lookup
  rw [ours]
  rfl

/-- What is found serves the request. -/
theorem consulted_iff (ours : desk.session.server = some server) :
    (consulted desk env request).1 = true ↔
      request.IsServed env desk.cache server desk.session.directory := by
  unfold consulted consultCache ListRequest.IsServed
  rw [ListFlags.intersects_refresh_link]
  cases target : request.target? desk.session.directory with
  | none => simp
  | some path =>
      have here : (discard request.flags (some path) desk).session.server = some server := by
        rw [discard_session]
        exact ours
      have found := lookup_eq (discard request.flags (some path) desk) path here
      rw [discard_cache desk _ path ours] at found
      by_cases asked : request.flags.contains .refresh = true ∨ request.flags.contains .link = true
      · -- a fresh listing is asked for
        rw [if_pos (Bool.or_eq_true _ _ ▸ asked)]
        refine iff_of_false Bool.false_ne_true ?_
        rintro ⟨-, listing, -, -, trusts⟩
        rcases asked with refresh | link
        · rw [trusts.refresh] at refresh
          cases refresh
        · rw [trusts.link] at link
          cases link
      rw [if_neg (Bool.or_eq_true _ _ ▸ asked)]
      obtain ⟨refresh, link⟩ := not_or.1 asked
      simp only [found]
      by_cases cleared : request.flags.contains .clearCache = true
      · -- the listing is discarded first
        rw [if_pos cleared, DirectoryCache.forgetDir, DirectoryCache.lookup_forget,
          if_pos ⟨rfl, beq_self_eq_true path⟩]
        refine iff_of_false (by simp) ?_
        rintro ⟨-, listing, -, -, trusts⟩
        rw [trusts.clearCache] at cleared
        cases cleared
      · rw [if_neg cleared, Option.any_eq_true]
        constructor
        · rintro ⟨listing, cached, good⟩
          obtain ⟨known, young⟩ := (isGoodEnough_iff env _ _).1 good
          exact ⟨path, listing, rfl, cached, eq_false_of_ne_true refresh, eq_false_of_ne_true link,
            eq_false_of_ne_true cleared, known, young⟩
        · rintro ⟨other, listing, same, cached, trusts⟩
          obtain rfl := Option.some.inj same
          exact ⟨listing, cached, (isGoodEnough_iff env _ _).2 ⟨trusts.known, trusts.young⟩⟩

theorem send_start [Transport τ] :
    send env { request } desk =
      if (consulted desk env request).1 then
        ((consulted desk env request).2.note .debug "cached listing is sufficient").answer .ok
          { request }
      else
        match request.target? desk.session.directory with
        | some path =>
          if request.path.isUnspecified ∨ desk.session.directory = some path then
            (consulted desk env request).2.answer .again
              { request, progress := .ready (request.target? desk.session.directory) }
          else
            ((consulted desk env request).2.enter path).answer .again
              { request, progress := .entering path }
        | none =>
          (consulted desk env request).2.answer .again { request, progress := .ready none } :=
  rfl

theorem consulted_consults : desk.Consults (consulted desk env request).2 := by
  unfold consulted consultCache discard
  have discarded : desk.Consults (match request.target? desk.session.directory with
      | some path =>
        if request.flags.contains .clearCache then desk.tellCache (.forgetDir · path) else desk
      | none => desk) := by
    split
    · split
      · exact (Desk.Consults.refl desk).tellCache _
      · exact .refl desk
    · exact .refl desk
  split
  · exact discarded
  · split
    · exact discarded
    · exact discarded.lookup _

end ListTask

/-! ## What is said and heard -/

/-- The result the owner reported. -/
def Happening.result? : Happening → Option Reply
  | .completed result => some result
  | _ => none

/-- Since `origin` this was said and heard, newest first, and with it these results. If the last of
it was a line, nothing has happened since. -/
structure Said (origin past talk : List Happening) (results : List Reply) : Prop where
  since : ∃ made, past = made ++ origin ∧ made.filter Happening.isTalk = talk
  results : talk.filterMap Happening.result? = results
  last : ∀ line text answer, talk.head? = some (.sent line text answer) →
    past.head? = some (.sent line text answer)

namespace Said

variable {origin past talk silence : List Happening} {results : List Reply}

theorem nothing (origin : List Happening) : Said origin origin [] [] :=
  ⟨⟨[], rfl, rfl⟩, rfl, by rintro line text answer ⟨⟩⟩

theorem past_silent (said : Said origin past talk results)
    (silent : ∀ happening ∈ silence, happening.isTalk = false) :
    ∃ made, silence ++ past = made ++ origin ∧ made.filter Happening.isTalk = talk := by
  obtain ⟨made, rfl, talks⟩ := said.since
  refine ⟨silence ++ made, (List.append_assoc _ _ _).symm, ?_⟩
  rw [List.filter_append, talks, List.filter_eq_nil_iff.2, List.nil_append]
  intro happening mem
  simp [silent happening mem]

theorem silent (said : Said origin past talk results) (silence : List Happening)
    (silent : ∀ happening ∈ silence, happening.isTalk = false)
    (heard : ∀ line text answer, talk.head? ≠ some (.sent line text answer)) :
    Said origin (silence ++ past) talk results :=
  ⟨said.past_silent silent, said.results,
    fun line text answer last => absurd last (heard line text answer)⟩

theorem send {τ : Type} [Transport τ] {κ : Type} {desk : Desk τ Operation}
    (said : Said origin desk.past talk results) (line : WireLine) (operation : κ) :
    Said origin (desk.send line operation).desk.past
      (.sent line (desk.lineText line) (desk.send line operation).reply :: talk) results := by
  obtain ⟨made, past, talks⟩ := said.since
  refine
    ⟨⟨.sent line (desk.lineText line) (desk.send line operation).reply :: made, ?_, ?_⟩, ?_, ?_⟩
  · rw [Desk.send_past, past]
    rfl
  · rw [List.filter_cons_of_pos rfl, talks]
  · rw [List.filterMap_cons_none rfl, said.results]
  · exact fun _ _ _ last => last

theorem told (said : Said origin past talk results) (silence : List Happening)
    (silent : ∀ happening ∈ silence, happening.isTalk = false) (result : Reply) :
    Said origin (.completed result :: (silence ++ past)) (.completed result :: talk)
      (result :: results) := by
  obtain ⟨made, past, talks⟩ := said.past_silent silent
  refine ⟨⟨.completed result :: made, ?_, ?_⟩, ?_, ?_⟩
  · rw [past]
    rfl
  · rw [List.filter_cons_of_pos rfl, talks]
  · exact congrArg (List.cons result) said.results
  · rintro line text answer ⟨⟩

theorem consults {τ : Type} {desk after : Desk τ Operation} (consults : desk.Consults after)
    (said : Said origin desk.past talk results)
    (heard : ∀ line text answer, talk.head? ≠ some (.sent line text answer)) :
    Said origin after.past talk results := by
  obtain ⟨told, all, past⟩ := consults.past
  rw [past]
  refine said.silent told ?_ heard
  intro happening mem
  obtain ⟨call, answer, rfl⟩ := all happening mem
  rfl

/-- What was said is in the journal. -/
theorem talk_unique {other : List Happening} {others : List Reply}
    (said : Said origin past talk results) (again : Said origin past other others) :
    talk = other := by
  obtain ⟨made, rfl, talks⟩ := said.since
  obtain ⟨same, past, others⟩ := again.since
  rw [← talks, ← others, List.append_cancel_right past]

end Said

/-- A change into the directory was tried, and this is what it came to. -/
inductive RemotePath.Tried (target : RemotePath) : List Happening → Reply → Prop
  | refused {text : String} {answer : Reply} (failed : answer.isError = true) :
      Tried target [.sent (.changeDir target) text answer] answer
  | heard {text : String} {result : Reply} :
      Tried target [.completed result, .sent (.changeDir target) text .wouldBlock] result

/-- No more was said than what changes the directory. -/
def IsEarly (talk : List Happening) : Prop :=
  talk = [] ∨ ∃ (target : RemotePath) (reply : Reply), target.Tried talk reply

namespace ListRequest

/-- The request leads to a directory other than the current one. -/
structure IsAway (request : ListRequest) (current : Option RemotePath) (target : RemotePath) :
    Prop where
  leads : request.target? current = some target
  elsewhere : current ≠ some target

/-- A change of directory that came to this leads to a listing of the current directory. -/
def fallsBack (request : ListRequest) (entered : Reply) : Bool :=
  entered ≠ .ok && request.flags.contains .fallbackCurrent &&
    !(request.flags.contains .link && !entered.isCritical)

/-- After this talk the current directory is listed, which is known to be this one, if any. -/
inductive Arrives (request : ListRequest) (current : Option RemotePath) :
    List Happening → Option RemotePath → Prop
  | here (here : request.target? current = current) : Arrives request current [] current
  | entered {target : RemotePath} {talk : List Happening} (away : request.IsAway current target)
      (tried : target.Tried talk .ok) : Arrives request current talk (some target)
  | fellBack {target : RemotePath} {talk : List Happening} {reply : Reply}
      (away : request.IsAway current target) (tried : target.Tried talk reply)
      (falls : request.fallsBack reply = true) : Arrives request current talk none

/-- With this talk the command ends with this reply. -/
inductive Ends (request : ListRequest) (current : Option RemotePath) (served : Prop) :
    List Happening → Reply → Prop
  | cached (holds : served) : Ends request current served [] .ok
  | gaveUp {talk : List Happening} {reply : Reply} (early : IsEarly talk)
      (failed : reply.isError = true) : Ends request current served talk reply
  | outside {target : RemotePath} {talk : List Happening} {reply : Reply}
      (away : request.IsAway current target) (tried : target.Tried talk reply)
      (failed : reply ≠ .ok) (firm : request.flags.contains .fallbackCurrent = false)
      (plain : request.flags.contains .link = true → reply.isCritical = true) :
      Ends request current served talk reply
  | refused {talk : List Happening} {target : Option RemotePath} {text : String} {answer : Reply}
      (arrives : request.Arrives current talk target) (failed : answer.isError = true) :
      Ends request current served (.sent .list text answer :: talk) answer
  | listed {talk : List Happening} {target : Option RemotePath} {text : String} {result : Reply}
      (arrives : request.Arrives current talk target) :
      Ends request current served
        (.completed result :: .sent .list text .wouldBlock :: talk) result

/-- With this talk the command waits on this stack, in this directory, if it is known. -/
inductive Awaits (request : ListRequest) (current : Option RemotePath) :
    List Happening → Option RemotePath → List Operation → Prop
  | entering {target : RemotePath} {text : String} (away : request.IsAway current target) :
      Awaits request current [.sent (.changeDir target) text .wouldBlock] none
        [.changeDir { path := target, waiting := true },
          .list { request, progress := .entering target }]
  | listing {talk : List Happening} {target directory : Option RemotePath} {text : String}
      (arrives : request.Arrives current talk target) :
      Awaits request current (.sent .list text .wouldBlock :: talk) directory
        [.list { request, progress := .waiting target }]

end ListRequest

section Talk

variable {request : ListRequest} {current directory : Option RemotePath} {served : Prop}
  {text : String} {answer reply : Reply} {talk : List Happening} {stack : List Operation}

end Talk

theorem ListRequest.IsAway.specified {request : ListRequest} {current : Option RemotePath}
    {target : RemotePath} (away : request.IsAway current target) :
    request.path.isUnspecified = false ∧ target.isUnspecified = false := by
  obtain ⟨leads, elsewhere⟩ := away
  unfold ListRequest.target? at leads
  split at leads
  · exact absurd leads elsewhere
  · rename_i named
    have named : request.path.isUnspecified = false := eq_false_of_ne_true named
    obtain rfl := Option.some.inj leads
    exact ⟨named, RemotePath.join_isUnspecified named _⟩

/-! ## Where the command stands -/

variable {τ : Type} [Transport τ]

/-- The desk of a command over a connection to the server. -/
structure Desk.IsUp (good : Transport.States τ) (server : Server) (desk : Desk τ Operation) :
    Prop where
  transport : good desk.transport
  server : desk.session.server = some server

/-- The turn is one of a command to list. -/
inductive Turn.Lists (origin : List Happening) (request : ListRequest) (env : Env)
    (server : Server) (current : Option RemotePath) (served : Prop) (results : List Reply)
    (turn : Turn τ Operation) : Prop
  | start (event : turn.event = .send) (alone : turn.below = [])
      (top : turn.top = .list { request }) (said : Said origin turn.desk.past [] results)
      (place : turn.desk.session.directory = current)
      (serves : request.IsServed env turn.desk.cache server current → served)
  | enter {target : RemotePath} (event : turn.event = .send)
      (top : turn.top = .changeDir { path := target })
      (under : turn.below = [.list { request, progress := .entering target }])
      (away : request.IsAway current target) (said : Said origin turn.desk.past [] results)
      (place : turn.desk.session.directory = current)
  | told {target : RemotePath} {text : String} (event : turn.event = .completed)
      (top : turn.top = .changeDir { path := target, waiting := true })
      (under : turn.below = [.list { request, progress := .entering target }])
      (away : request.IsAway current target)
      (said : Said origin turn.desk.past
        [.completed turn.desk.result, .sent (.changeDir target) text .wouldBlock] results)
      (place : turn.desk.session.directory = none)
  | returned {target : RemotePath} {reply : Reply} {finished : Operation}
      {talk : List Happening} (event : turn.event = .returned reply finished)
      (again : reply ≠ .again) (wait : reply ≠ .wouldBlock) (alone : turn.below = [])
      (top : turn.top = .list { request, progress := .entering target })
      (away : request.IsAway current target) (tried : target.Tried talk reply)
      (said : Said origin turn.desk.past talk results)
      (lost : reply ≠ .ok → turn.desk.session.directory = none)
  | ready {target : Option RemotePath} {talk : List Happening} (event : turn.event = .send)
      (alone : turn.below = []) (top : turn.top = .list { request, progress := .ready target })
      (arrives : request.Arrives current talk target)
      (said : Said origin turn.desk.past talk results)
  | heard {target : Option RemotePath} {talk : List Happening} {text : String}
      (event : turn.event = .completed) (alone : turn.below = [])
      (top : turn.top = .list { request, progress := .waiting target })
      (arrives : request.Arrives current talk target)
      (said : Said origin turn.desk.past
        (.completed turn.desk.result :: .sent .list text .wouldBlock :: talk) results)

/-- What a step of a command to list comes to. -/
inductive Step.Lists (origin : List Happening) (request : ListRequest)
    (current : Option RemotePath) (served : Prop) (results : List Reply)
    (below : List Operation) (step : Step τ Operation Operation) : Prop
  | awaits {talk : List Happening} (wait : step.reply = .wouldBlock)
      (silent : step.desk.pending = none)
      (awaits : request.Awaits current talk step.desk.session.directory (step.operation :: below))
      (said : Said origin step.desk.past talk results)
  | asks {target : RemotePath} (again : step.reply = .again)
      (asked : step.desk.pending = some (.changeDir { path := target })) (alone : below = [])
      (operation : step.operation = .list { request, progress := .entering target })
      (away : request.IsAway current target) (said : Said origin step.desk.past [] results)
      (place : step.desk.session.directory = current)
  | acts {target : Option RemotePath} {talk : List Happening} (again : step.reply = .again)
      (silent : step.desk.pending = none) (alone : below = [])
      (operation : step.operation = .list { request, progress := .ready target })
      (arrives : request.Arrives current talk target)
      (said : Said origin step.desk.past talk results)
  | returns {target : RemotePath} {talk : List Happening} (again : step.reply ≠ .again)
      (wait : step.reply ≠ .wouldBlock) (silent : step.desk.pending = none)
      (under : below = [.list { request, progress := .entering target }])
      (away : request.IsAway current target) (tried : target.Tried talk step.reply)
      (said : Said origin step.desk.past talk results)
      (lost : step.reply ≠ .ok → step.desk.session.directory = none)
  | ends {talk : List Happening} (again : step.reply ≠ .again) (wait : step.reply ≠ .wouldBlock)
      (silent : step.desk.pending = none) (alone : below = [])
      (ends : request.Ends current served talk step.reply)
      (said : Said origin step.desk.past talk results)

/-- What a call of a command to list comes to. -/
structure Outcome.Lists (good : Transport.States τ) (origin : List Happening)
    (request : ListRequest) (server : Server) (current : Option RemotePath) (served : Prop)
    (results : List Reply) (outcome : Outcome τ Operation) : Prop where
  waits : outcome.reply = .wouldBlock → outcome.desk.IsUp good server ∧
    ∃ talk, request.Awaits current talk outcome.desk.session.directory outcome.stack ∧
      Said origin outcome.desk.past talk results
  ends : outcome.reply ≠ .wouldBlock → outcome.stack = [] ∧
    ∃ talk, request.Ends current served talk outcome.reply ∧
      Said origin outcome.desk.past talk results

/-! ## Steps -/

section

variable {good : Transport.States τ} {desk : Desk τ Operation} {origin talk : List Happening}
  {request : ListRequest} {env : Env} {server : Server} {current target? : Option RemotePath}
  {served : Prop} {results : List Reply} {target : RemotePath} {text : String} {reply : Reply}

omit [Transport τ]

theorem ListRequest.Arrives.early (arrives : request.Arrives current talk target?) :
    IsEarly talk := by
  cases arrives with
  | here => exact .inl rfl
  | entered away tried => exact .inr ⟨_, _, tried⟩
  | fellBack away tried => exact .inr ⟨_, _, tried⟩

theorem Desk.IsUp.consults {after : Desk τ Operation} (up : desk.IsUp good server)
    (consults : desk.Consults after) : after.IsUp good server := by
  refine ⟨?_, ?_⟩
  · rw [consults.transport]
    exact up.transport
  · rw [consults.session]
    exact up.server

/-- The step ends the command. -/
theorem Step.Lists.of_end (desk : Desk τ Operation) {task : ListTask}
    (clear : desk.pending = none) (again : reply ≠ .again) (wait : reply ≠ .wouldBlock)
    (ends : request.Ends current served talk reply) (said : Said origin desk.past talk results) :
    ((desk.answer reply task).map Operation.list).Lists origin request current served results [] :=
  .ends again wait clear rfl ends said

theorem Step.Lists.of_error (desk : Desk τ Operation) {task : ListTask}
    (clear : desk.pending = none) (failed : reply.isError = true)
    (ends : request.Ends current served talk reply) (said : Said origin desk.past talk results) :
    ((desk.answer reply task).map Operation.list).Lists origin request current served results [] :=
  .of_end desk clear (Reply.ne_again_of_isError failed) (Reply.ne_wouldBlock_of_isError failed)
    ends said

/-- Without a directory of its own the request is about the current one. -/
theorem ListRequest.target?_eq_none (unknown : request.target? current = none) :
    current = none := by
  unfold target? at unknown
  split at unknown
  · exact unknown
  · cases unknown

theorem ListRequest.target?_eq_current (there : request.path.isUnspecified = true ∨
    current = some target) (leads : request.target? current = some target) :
    current = some target := by
  rcases there with unspecified | there
  · unfold target? at leads
    rwa [if_pos unspecified] at leads
  · exact there

variable [Transport τ]

theorem ListTask.start_lists (up : desk.IsUp good server) (clear : desk.pending = none)
    (said : Said origin desk.past [] results) (place : desk.session.directory = current)
    (serves : request.IsServed env desk.cache server current → served) :
    let step := (ListTask.send env { request } desk).map Operation.list
    step.Lists origin request current served results [] ∧ step.desk.IsUp good server := by
  subst place
  have consults := ListTask.consulted_consults desk env request
  have found := ListTask.consulted_iff desk env request up.server
  have said := Said.consults consults said (by rintro line text answer ⟨⟩)
  have clear := consults.pending.trans clear
  have up := up.consults consults
  have place := congrArg Session.directory consults.session
  rw [ListTask.send_start]
  generalize ListTask.consulted desk env request = consulted at *
  by_cases enough : consulted.1 = true
  · rw [if_pos enough]
    have served := serves (found.1 enough)
    exact ⟨.of_end (consulted.2.note _ _) clear (by decide) (by decide) (.cached served) said,
      up.transport, up.server⟩
  rw [if_neg enough]
  cases leads : request.target? desk.session.directory with
  | none =>
      have nowhere := ListRequest.target?_eq_none leads
      rw [nowhere] at leads ⊢
      exact ⟨.acts rfl clear rfl rfl (.here leads) said, up⟩
  | some target =>
      simp only
      by_cases there : request.path.isUnspecified = true ∨ desk.session.directory = some target
      · rw [if_pos there]
        have here := ListRequest.target?_eq_current there leads
        have arrives : request.Arrives desk.session.directory [] desk.session.directory :=
          .here (leads.trans here.symm)
        rw [← here]
        exact ⟨.acts rfl clear rfl rfl arrives said, up⟩
      · rw [if_neg there]
        have away : request.IsAway desk.session.directory target :=
          ⟨leads, fun here => there (.inr here)⟩
        refine ⟨.asks rfl (Desk.request_pending _ _) rfl rfl away ?_ ?_, ?_, ?_⟩
        · show Said origin (consulted.2.enter target).past [] results
          rw [show (consulted.2.enter target).past = consulted.2.past from Desk.request_past _ _]
          exact said
        · exact (congrArg Session.directory (Desk.request_session _ _)).trans place
        · exact (congrArg good.keeps (Desk.request_transport _ _)).mpr up.transport
        · exact (congrArg Session.server (Desk.request_session _ _)).trans up.server

theorem ChangeDirTask.send_lists (conforms : Transport.Conforms good)
    (up : desk.IsUp good server) (clear : desk.pending = none)
    (away : request.IsAway current target) (said : Said origin desk.past [] results)
    (place : desk.session.directory = current) :
    let step := (ChangeDirTask.send { path := target } desk).map Operation.changeDir
    step.Lists origin request current served results
      [.list { request, progress := .entering target }] ∧ step.desk.IsUp good server := by
  have specified := away.specified.2
  have elsewhere : desk.session.directory ≠ some target := by
    rw [place]
    exact away.elsewhere
  simp only [ChangeDirTask.send, specified, elsewhere, if_false, Bool.false_eq_true]
  let left : Desk τ Operation := { desk with session := { desk.session with directory := none } }
  obtain ⟨answer, after⟩ := conforms.send _ (left.lineText (.changeDir target)) up.transport
  have before : Said origin left.past [] results := said
  have sent := before.send (.changeDir target)
    ({ path := target, waiting := true } : ChangeDirTask)
  refine ⟨?_, after, up.server⟩
  rcases answer with wait | failed
  · rw [show (left.send (.changeDir target) _).reply = .wouldBlock from wait] at sent
    exact .awaits wait clear (.entering away) sent
  · exact .returns (Reply.ne_again_of_isError failed) (Reply.ne_wouldBlock_of_isError failed) clear
      rfl away (.refused failed) sent fun _ => rfl

theorem ChangeDirTask.completed_lists (conforms : Transport.Conforms good)
    (up : desk.IsUp good server) (reported : good.reports desk.transport)
    (clear : desk.pending = none)
    (away : request.IsAway current target)
    (said : Said origin desk.past
      [.completed desk.result, .sent (.changeDir target) text .wouldBlock] results)
    (place : desk.session.directory = none) :
    let step :=
      (ChangeDirTask.completed { path := target, waiting := true } desk).map Operation.changeDir
    step.Lists origin request current served results
      [.list { request, progress := .entering target }] ∧ step.desk.IsUp good server := by
  have outcome := conforms.result _ up.transport reported
  simp only [ChangeDirTask.completed, if_true]
  by_cases ok : desk.result = .ok
  · rw [if_pos ok]
    exact ⟨.returns outcome.2 outcome.1 clear rfl away .heard said fun failed => absurd ok failed,
      up.transport, up.server⟩
  · rw [if_neg ok]
    exact ⟨.returns outcome.2 outcome.1 clear rfl away .heard said fun _ => place, up⟩

omit [Transport τ] in
theorem ListTask.returned_lists (up : desk.IsUp good server) (clear : desk.pending = none)
    (again : reply ≠ .again) (wait : reply ≠ .wouldBlock)
    (away : request.IsAway current target) (tried : target.Tried talk reply)
    (said : Said origin desk.past talk results)
    (lost : reply ≠ .ok → desk.session.directory = none) :
    let step := (ListTask.returned reply { request, progress := .entering target } desk).map
      Operation.list
    step.Lists origin request current served results [] ∧ step.desk.IsUp good server := by
  unfold ListTask.returned
  simp only
  by_cases ok : reply = .ok
  · rw [if_pos ok]
    exact ⟨.acts rfl clear rfl rfl (.entered away (ok ▸ tried)) said, up⟩
  rw [if_neg ok]
  by_cases link : (request.flags.contains .link && !reply.isCritical) = true
  · -- what cannot be entered is not a directory
    rw [if_pos link]
    exact ⟨.of_error (desk.note _ _) clear (by decide) (.gaveUp (.inr ⟨_, _, tried⟩) (by decide))
      said, up.transport, up.server⟩
  rw [if_neg link]
  by_cases firm : request.flags.contains .fallbackCurrent = false
  · rw [firm]
    have plain : request.flags.contains .link = true → reply.isCritical = true := by
      intro link'
      simpa [link'] using link
    exact ⟨.of_end desk clear again wait (.outside away tried ok firm plain) said, up⟩
  · have flexible : request.flags.contains .fallbackCurrent = true := by simpa using firm
    rw [flexible]
    have falls : request.fallsBack reply = true := by
      simp only [ListRequest.fallsBack, flexible, eq_false_of_ne_true link]
      simpa using ok
    rw [show desk.noteEntered reply "listing the current one" = desk.note .debug _ from if_neg ok]
    refine ⟨.acts rfl clear rfl ?_ (.fellBack away tried falls) said, up.transport, up.server⟩
    show Operation.list { request, progress := .ready desk.session.directory } = _
    rw [lost ok]

theorem ListTask.ready_lists (conforms : Transport.Conforms good)
    (up : desk.IsUp good server) (clear : desk.pending = none)
    (arrives : request.Arrives current talk target?) (said : Said origin desk.past talk results) :
    let step := (ListTask.send env { request, progress := .ready target? } desk).map Operation.list
    step.Lists origin request current served results [] ∧ step.desk.IsUp good server := by
  let noted := desk.note .info (match target? with
    | some path => "Retrieving directory listing of '" ++ path.text ++ "'"
    | none => "Retrieving directory listing")
  obtain ⟨answer, after⟩ := conforms.send noted.transport (noted.lineText .list) up.transport
  have before : Said origin noted.past talk results := said
  have sent := before.send .list
    ({ request, progress := .waiting target? } : ListTask)
  refine ⟨?_, after, up.server⟩
  rcases answer with wait | failed
  · rw [show (noted.send .list _).reply = .wouldBlock from wait] at sent
    exact .awaits wait clear (.listing arrives) sent
  · exact .ends (Reply.ne_again_of_isError failed) (Reply.ne_wouldBlock_of_isError failed) clear
      rfl (.refused arrives failed) sent

theorem ListTask.heard_lists (conforms : Transport.Conforms good)
    (up : desk.IsUp good server) (reported : good.reports desk.transport)
    (clear : desk.pending = none)
    (arrives : request.Arrives current talk target?)
    (said : Said origin desk.past
      (.completed desk.result :: .sent .list text .wouldBlock :: talk) results) :
    let step := (ListTask.completed env { request, progress := .waiting target? } desk).map
      Operation.list
    step.Lists origin request current served results [] ∧ step.desk.IsUp good server := by
  have outcome := conforms.result _ up.transport reported
  have unsaid : ∀ line sent answer, (Happening.completed desk.result ::
      .sent .list text .wouldBlock :: talk).head? ≠ some (.sent line sent answer) := by
    rintro line sent answer ⟨⟩
  simp only [ListTask.completed]
  split
  · exact ⟨.of_end desk clear outcome.2 outcome.1 (.listed arrives) said, up⟩
  · have taken : desk.takeListing.2.IsUp good server :=
      ⟨conforms.takeListing _ up.transport, up.server⟩
    have silent : Said origin desk.takeListing.2.past
        (.completed desk.result :: .sent .list text .wouldBlock :: talk) results :=
      said.silent [.listingTaken _] (List.forall_mem_singleton.2 rfl) unsaid
    split
    · rename_i path entries _
      have told := (Desk.Consults.refl desk.takeListing.2).tellCache fun server =>
        .store server { path, entries := ListTask.fresh entries, fetched := env.now }
      exact ⟨.of_end _ (told.pending.trans clear) outcome.2 outcome.1 (.listed arrives)
        (.consults told silent unsaid), taken.consults told⟩
    · exact ⟨.of_end _ clear outcome.2 outcome.1 (.listed arrives) silent, taken⟩

/-! ## Turns -/

namespace Turn

variable {turn : Turn τ Operation}

theorem Lists.step (lists : turn.Lists origin request env server current served results)
    (conforms : Transport.Conforms good) (up : turn.desk.IsUp good server)
    (reported : good.Allows turn.event turn.desk.transport) :
    (turn.step env).Lists origin request current served results turn.below ∧
      (turn.step env).desk.IsUp good server := by
  obtain ⟨budget, below, event, top, desk⟩ := turn
  have ready : Desk.IsUp good server { desk with pending := none } := ⟨up.transport, up.server⟩
  cases lists with
  | start event alone top said place serves =>
      cases event
      cases alone
      cases top
      exact ListTask.start_lists ready rfl said place serves
  | enter event top under away said place =>
      cases event
      cases top
      cases under
      exact ChangeDirTask.send_lists conforms ready rfl away said place
  | told event top under away said place =>
      cases event
      cases top
      cases under
      exact ChangeDirTask.completed_lists conforms ready (reported rfl) rfl away said place
  | returned event again wait alone top away tried said lost =>
      cases event
      cases alone
      cases top
      exact ListTask.returned_lists ready rfl again wait away tried said lost
  | ready event alone top arrives said =>
      cases event
      cases alone
      cases top
      exact ListTask.ready_lists conforms ready rfl arrives said
  | heard event alone top arrives said =>
      cases event
      cases alone
      cases top
      exact ListTask.heard_lists conforms ready (reported rfl) rfl arrives said

/-- A command to list that may not go on any more fails: it has at most tried to change the
directory. -/
theorem giveUp_lists {desk : Desk τ Operation} {talk : List Happening} (env : Env)
    (task : ListTask) (early : IsEarly talk) (said : Said origin desk.past talk results) :
    (giveUp env (.list task) [] desk).Lists good origin request server current served results :=
  ⟨fun wait => absurd wait Reply.internalError_ne_wouldBlock,
    fun _ => ⟨rfl, talk, .gaveUp early (show Reply.internalError.isError = true by decide), said⟩⟩

theorem Lists.next (lists : turn.Lists origin request env server current served results)
    (conforms : Transport.Conforms good) (up : turn.desk.IsUp good server)
    (reported : good.Allows turn.event turn.desk.transport) :
    (turn.next env).elim (Outcome.Lists good origin request server current served results)
      (fun after => after.Lists origin request env server current served results ∧
        after.desk.IsUp good server ∧ good.Allows after.event after.desk.transport) := by
  obtain ⟨step, up⟩ := lists.step conforms up reported
  have up : (turn.step env).noted.IsUp good server := ⟨up.transport, up.server⟩
  rw [Turn.next]
  cases step with
  | awaits wait silent awaits said =>
      rw [Step.next_of_waits wait silent]
      exact ⟨fun _ => ⟨up, _, awaits, said⟩, fun ends => absurd rfl ends⟩
  | asks again asked alone operation away said place =>
      rw [alone]
      cases turn.budget with
      | zero =>
          rw [Step.next_of_spent again, operation]
          exact giveUp_lists env _ (.inl rfl) said
      | succ left =>
          rw [Step.next_of_again again, Step.onward_of_asks asked, operation]
          exact ⟨.enter rfl rfl rfl away said place, ⟨up.transport, up.server⟩, good.allows_send _⟩
  | acts again silent alone operation arrives said =>
      rw [alone]
      cases turn.budget with
      | zero =>
          rw [Step.next_of_spent again, operation]
          exact giveUp_lists env _ arrives.early said
      | succ left =>
          rw [Step.next_of_acts again silent, operation]
          exact ⟨.ready rfl rfl rfl arrives said, up, good.allows_send _⟩
  | returns again wait silent under away tried said lost =>
      rw [under, Step.next_of_returns again wait silent]
      exact ⟨.returned rfl again wait rfl rfl away tried said lost, ⟨up.transport, up.server⟩,
        good.allows_returned _ _ _⟩
  | ends again wait silent alone ended said =>
      obtain ⟨text, finished⟩ := finish_eq (HasKind.kind (turn.step env).operation)
        (turn.step env).reply (turn.step env).noted
      rw [alone, Step.next_of_ends again wait silent, finished]
      exact ⟨fun waits => absurd waits wait, fun _ => ⟨rfl, _, ended, said⟩⟩

theorem Lists.drive {first : Turn τ Operation}
    (lists : first.Lists origin request env server current served results)
    (conforms : Transport.Conforms good) (up : first.desk.IsUp good server)
    (reported : good.Allows first.event first.desk.transport) :
    (first.drive env).Lists good origin request server current served results := by
  refine Turn.rule_elim (P := fun turn => turn.Lists origin request env server current served
    results ∧ turn.desk.IsUp good server ∧ good.Allows turn.event turn.desk.transport) ?_
    ⟨lists, up, reported⟩
  rintro turn ⟨lists, up, reported⟩
  exact lists.next conforms up reported

end Turn

/-! ## Over the course of the command -/

/-- The listing tells what the server listed at this time: the same names, kinds and sizes in the
same order, every entry to be trusted. -/
structure Listing.Tells (listing : Listing) (path : RemotePath) (listed : List Entry) (now : Nat) :
    Prop where
  place : listing.path = path
  names : listing.entries.map Entry.name = listed.map Entry.name
  kinds : listing.entries.map Entry.isDir = listed.map Entry.isDir
  sizes : listing.entries.map Entry.size = listed.map Entry.size
  known : ∀ entry ∈ listing.entries, entry.freshness = .known
  stamp : listing.fetched = now

/-- The cache from `before` to `after`, when this was reported of the listing of the current
directory, which is known to be `target`, if any. -/
structure ListTask.Leaves (server : Server) (target : Option RemotePath) (result : Reply)
    (entries : Option (List Entry)) (now : Nat) (before after : DirectoryCache) : Prop where
  stored : result.isError = false → ∀ path listed, target = some path → entries = some listed →
    ∃ listing, after.lookup server path = some listing ∧ listing.Tells path listed now
  elsewhere : ∀ other path, ¬ (other = server ∧ target = some path) →
    after.lookup other path = before.lookup other path
  failed : result.isError = true → after = before
  nowhere : target = none → after = before
  nothing : entries = none → after = before

namespace Engine

variable {engine after start : Engine τ Operation} {reports : List (Reply × Local.Store)}

/-- The call was answered without the transport. -/
structure LeavesAlone (start engine : Engine τ Operation) : Prop where
  transport : engine.desk.transport = start.desk.transport
  past : ∃ made, engine.desk.past = made ++ start.desk.past ∧
    ∀ happening ∈ made, happening.reachesTransport = false

/-- The next report reaches whoever is on top. -/
theorem lists_resume (awaits : request.Awaits current talk engine.session.directory engine.stack)
    (said : Said origin engine.desk.past talk results) (drifts : engine.Drifts good after) :
    ∃ first, after.opening .resume = some first ∧ first.desk.transport = after.desk.transport ∧
      first.desk.session = after.desk.session ∧
      first.Lists origin request env server current served (after.desk.result :: results) := by
  obtain ⟨waits, all, past⟩ := drifts.past
  have silent : ∀ happening ∈ waits, happening.isTalk = false := by
    intro happening mem
    exact Happening.isTalk_of_isWait (all happening mem)
  have told := said.told waits silent after.desk.result
  rw [← past] at told
  have stack : after.stack = engine.stack := by
    refine drifts.same_stack ?_
    generalize engine.stack = stack, engine.session.directory = directory at awaits
    -- no operation of the command has a local end
    cases awaits <;> simp [Behaviour.channel?, Operation.channel?]
  have place : after.session.directory = engine.session.directory :=
    congrArg Session.directory drifts.session
  unfold opening
  rw [stack]
  generalize stands : engine.stack = stack, engine.session.directory = directory at awaits place
  cases awaits with
  | entering away => exact ⟨_, rfl, rfl, rfl, .told rfl rfl rfl away told place⟩
  | listing arrives => exact ⟨_, rfl, rfl, rfl, .heard rfl rfl rfl arrives told⟩

omit [Transport τ] in
/-- A command to list begins alone on the stack. -/
theorem list_opening [Transport τ] (idle : start.IsIdleOverSftp)
    (valid : (Command.list request).valid = true) :
    ∃ first, start.opening (.execute (.list request)) = some first ∧ first.event = .send ∧
      first.below = [] ∧ first.top = .list { request } ∧
      first.desk.transport = start.desk.transport ∧ first.desk.session = start.session ∧
      first.desk.cache = start.cache ∧
      first.desk.past = .started (.list request) :: start.desk.past := by
  have accepted := accept_of_idle idle valid (by rintro request ⟨⟩) rfl
  exact ⟨_, opening_of_accepted accepted, rfl, rfl, rfl, rfl, rfl, rfl, rfl⟩

/-- Where a command to list stands after any of its calls. -/
theorem course_lists (conforms : Transport.Conforms good) (idle : start.IsIdleOverSftp)
    (transport : good start.desk.transport) (valid : (Command.list request).valid = true)
    (ours : start.session.server = some server)
    (course : start.Course (Completes good) (.list request) reports reply engine) :
    Outcome.Lists good start.desk.past request server start.session.directory
      (request.IsServed start.env start.cache server start.session.directory)
      (reports.map Prod.fst).reverse ⟨reply, engine.desk, engine.stack⟩ := by
  induction course with
  | execute =>
      obtain ⟨first, opened, event, alone, top, same, session, cache, past⟩ :=
        list_opening idle valid
      have said : Said start.desk.past first.desk.past [] [] := by
        rw [past]
        exact (Said.nothing _).silent [_] (List.forall_mem_singleton.2 rfl)
          (by rintro line text answer ⟨⟩)
      have up : first.desk.IsUp good server := ⟨same ▸ transport, session ▸ ours⟩
      have lists : first.Lists start.desk.past request start.env server start.session.directory
          (request.IsServed start.env start.cache server start.session.directory) [] :=
        .start event alone top said (congrArg Session.directory session) (by rw [cache]; exact id)
      rw [show start.execute (.list request) = _ from make_of_opening opened]
      exact lists.drive conforms up (by rw [event]; exact good.allows_send _)
  | @resume reports engine after course drifts ih =>
      obtain ⟨up, talk, awaits, said⟩ := ih.waits rfl
      obtain ⟨first, opened, same, session, lists⟩ := lists_resume awaits said drifts.toDrifts
      have up : first.desk.IsUp good server := by
        refine ⟨same ▸ drifts.transport, ?_⟩
        rw [session, drifts.session]
        exact up.server
      rw [List.map_append, List.reverse_append,
        show after.resume = _ from make_of_opening opened]
      exact lists.drive conforms up fun _ => same ▸ drifts.reported

/-- Served from the cache, the command ends in the first call. -/
theorem execute_served (idle : start.IsIdleOverSftp) (valid : (Command.list request).valid = true)
    (ours : start.session.server = some server)
    (served : request.IsServed start.env start.cache server start.session.directory) :
    (start.execute (.list request)).1 = .ok ∧
      start.LeavesAlone (start.execute (.list request)).2 := by
  obtain ⟨first, opened, event, alone, top, same, session, cache, past⟩ := list_opening idle valid
  let desk : Desk τ Operation := { first.desk with pending := none }
  have server' : desk.session.server = some server := session ▸ ours
  have found : (ListTask.consulted desk start.env request).1 = true := by
    rw [ListTask.consulted_iff desk start.env request server',
      show desk.cache = start.cache from cache, show desk.session = start.session from session]
    exact served
  have step : first.step start.env =
      (((ListTask.consulted desk start.env request).2.note .debug
        "cached listing is sufficient").answer .ok { request }).map Operation.list := by
    rw [Turn.step, event, top,
      show Behaviour.step start.env .send (Operation.list { request }) desk =
        (ListTask.send start.env { request } desk).map Operation.list from rfl,
      ListTask.send_start, if_pos found]
  have consults := ListTask.consulted_consults desk start.env request
  have ok : (first.step start.env).reply = .ok := by
    rw [step]
    rfl
  have driven : first.drive start.env = _ := Turn.drive_of_end (by rw [ok]; decide)
    (by rw [ok]; decide) (by rw [step]; exact consults.pending) alone
  rw [show start.execute (.list request) = _ from make_of_opening opened, driven, step]
  obtain ⟨told, all, past'⟩ := consults.past
  refine ⟨rfl, consults.transport.trans same, told ++ [.started (.list request)], ?_, ?_⟩
  · rw [List.append_assoc, List.singleton_append, ← past]
    exact past'
  · intro happening mem
    rcases List.mem_append.1 mem with mem | mem
    · obtain ⟨call, answer, rfl⟩ := all happening mem
      rfl
    · rw [List.mem_singleton.1 mem]
      rfl

end Engine

end

namespace Engine

end Engine

end Courier
