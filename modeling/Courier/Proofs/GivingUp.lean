import Courier.Proofs.Bookkeeping

/-!
# Giving up a command

A command is given up when its owner cancels it or the connection is lost. Nothing is sent then,
and nobody will ever hear how the line that is out ended. So whatever that line is about is left in
doubt in the cache, provided that nobody else uses it; and where nothing that changes the server is
out, the cache stays as it is.
-/

namespace Courier

/-! ## What is in doubt -/

/-- If the directory is cached, its entry of this name is there and may be wrong. -/
def DirectoryCache.Unsure (cache : DirectoryCache) (server : Server) (path : RemotePath)
    (name : String) : Prop :=
  ∀ listing, cache.lookup server path = some listing →
    ∃ entry, listing.find? name = some entry ∧ entry.freshness = .unsure

/-- The cache has nothing certain to say of what the line is about. -/
def WireLine.IsInDoubt (server : Server) (cache : DirectoryCache) : WireLine → Prop
  | put object | chmod _ object | remove object | removeDir object =>
    cache.Unsure server object.directory object.file
  | makeDir path => ∀ parent name, path.parent? = some parent → path.lastName? = some name →
    cache.Unsure server parent name
  | move source target =>
    cache.lookup server source.directory = none ∧ cache.lookup server target.directory = none
  | raw _ => ∀ path, cache.lookup server path = none
  | changeDir _ | list | get _ => True

theorem Entry.find?_update (name : String) (isDir : Bool) (freshness : Freshness)
    (entries : List Entry) :
    ∃ entry, (update name isDir freshness entries).find? (·.name == name) = some entry ∧
      entry.isDir = isDir ∧ entry.freshness = freshness := by
  induction entries with
  | nil =>
      refine ⟨⟨name, isDir, none, freshness⟩, ?_, rfl, rfl⟩
      simp [update]
  | cons entry rest ih =>
      by_cases here : entry.name = name
      · refine ⟨{ entry with isDir, freshness }, ?_, rfl, rfl⟩
        rw [update, if_pos here, List.find?_cons_of_pos (by simpa using here)]
      · rw [update, if_neg here, List.find?_cons_of_neg (by simpa using here)]
        exact ih

theorem DirectoryCache.unsure_updateEntry (cache : DirectoryCache) (server : Server)
    (path : RemotePath) (name : String) (isDir : Bool) :
    (cache.updateEntry server path name isDir .unsure).Unsure server path name := by
  intro listing cached
  rw [updateEntry, lookup_modify, if_pos ⟨rfl, rfl⟩] at cached
  obtain ⟨former, -, rfl⟩ := Option.map_eq_some_iff.1 cached
  obtain ⟨entry, found, -, unsure⟩ := Entry.find?_update name isDir .unsure former.entries
  exact ⟨entry, found, unsure⟩

/-- What is told of a line nobody will hear of is enough, unless it is a line of the caller. -/
theorem WireLine.isInDoubt_of_doubts {line : WireLine} (own : ∀ text, line ≠ .raw text)
    (server : Server) (cache : DirectoryCache) :
    line.IsInDoubt server
      (line.doubts.foldl (fun cache call => (cache.perform (call server)).2) cache) := by
  cases line with
  | put object => exact cache.unsure_updateEntry _ _ _ _
  | chmod permission object => exact cache.unsure_updateEntry _ _ _ _
  | remove object => exact cache.unsure_updateEntry _ _ _ _
  | removeDir object => exact cache.unsure_updateEntry _ _ _ _
  | makeDir path =>
      intro parent name above last
      simp only [doubts, above, last]
      exact cache.unsure_updateEntry _ _ _ _
  | move source target =>
      constructor
      · change ((cache.forgetDir server source.directory).forgetDir server
          target.directory).lookup server source.directory = none
        simp [DirectoryCache.forgetDir, DirectoryCache.lookup_forget]
      · change ((cache.forgetDir server source.directory).forgetDir server
          target.directory).lookup server target.directory = none
        simp [DirectoryCache.forgetDir, DirectoryCache.lookup_forget]
  | raw text => exact absurd rfl (own text)
  | changeDir path => trivial
  | list => trivial
  | get object => trivial

variable {τ : Type}

/-! ## What is out -/

namespace Engine

/-- The request is out; the transport has only been waited for since. -/
def Awaits (engine : Engine τ Operation) (request : Happening) : Prop :=
  request.answer? = some .wouldBlock ∧ ∃ waits before,
    engine.desk.past = waits ++ request :: before ∧ ∀ happening ∈ waits, happening.isWait = true

variable [Transport τ] {good : Transport.States τ} {origin : DirectoryCache}
  {engine : Engine τ Operation} {top : Operation} {below : List Operation} {line : WireLine}

omit [Transport τ] in
/-- While a line of the caller is out, nothing is known of the server. -/
theorem Booked.forgotten (booked : engine.Booked True origin) (stack : engine.stack = top :: below)
    {text : String} (out : top.line? = some (.raw text)) {server : Server}
    (up : Link.ofPast engine.desk.past = .up server) (path : RemotePath) :
    engine.desk.cache.lookup server path = none := by
  obtain ⟨waits, request, before, past, waited, answer, same⟩ := booked.pends top below stack
  obtain ⟨words, rfl⟩ := request_eq answer (same.trans out)
  obtain ⟨announcements, call, told, earlier, rfl, all, impends⟩ :=
    booked.chronicle.line_at past rfl
  obtain ⟨known, forecast, linked, foretells, rfl⟩ := impends.forecast
  obtain rfl : DirectoryCache.Call.forgetServer = forecast := Option.some.inj foretells
  -- there is still a connection to the server the cache was told of
  obtain rfl : known = server := by
    have asides : ∀ happening ∈ announcements, happening.isAside = true := fun happening mem =>
      Happening.isAside_of_isAnnouncement (all happening mem)
    rw [past, Link.ofPast_asides fun happening mem =>
      Happening.isAside_of_isWait (waited happening mem), Link.ofPast_cons, Link.after_sent,
      Link.ofPast_asides asides, Link.ofPast_cons, linked] at up
    exact Link.up.inj up
  rw [booked.replays trivial, past, DirectoryCache.replay_plains fun happening mem =>
    Happening.isPlain_of_isWait (waited happening mem), DirectoryCache.replay_cons]
  change ((origin.replay (announcements ++ _)).lookup known path) = none
  rw [DirectoryCache.replay_plains fun happening mem =>
    Happening.isPlain_of_isAnnouncement (all happening mem)]
  change ((origin.replay earlier).forgetServer known).lookup known path = none
  simp [DirectoryCache.forgetServer, DirectoryCache.lookup_forget]

omit [Transport τ] in
/-- When the stack is given up, what the line that is out is about is in doubt. -/
theorem Booked.doubted (booked : engine.Booked True origin) (oriented : engine.Oriented)
    (stack : engine.stack = top :: below) (out : top.line? = some line)
    {desk : Desk τ Operation} (session : desk.session = engine.desk.session)
    (cache : desk.cache = engine.desk.cache) :
    ∃ server, engine.desk.session.server = some server ∧
      Link.ofPast engine.desk.past = .up server ∧
        line.IsInDoubt server (desk.doubt top.line?).cache := by
  have tied := oriented.tied top (by simp [stack])
  obtain ⟨server, ours, -, up⟩ := linked_of_line tied out
  refine ⟨server, ours, up, ?_⟩
  rw [out]
  change line.IsInDoubt server (desk.tellAll line.doubts).cache
  rw [desk.tellAll_cache line.doubts (session ▸ ours), cache]
  by_cases own : ∀ text, line ≠ .raw text
  · exact WireLine.isInDoubt_of_doubts own server _
  · -- of a line of the caller the cache was told enough before it was sent
    simp only [ne_eq, Classical.not_forall, Classical.not_not] at own
    obtain ⟨text, rfl⟩ := own
    exact booked.forgotten stack out up

/-- Giving up the stack goes on record only by what is put in doubt. -/
theorem abandon_past (env : Env) (stack : List Operation) (desk : Desk τ Operation) :
    ∃ doubts, (∀ happening ∈ doubts, happening.isDoubt = true) ∧
      (abandon env stack desk).past = doubts ++ desk.past := by
  obtain ⟨after, doubts, eq⟩ := abandon_doubts env stack desk
  rw [eq]
  split <;> exact doubts.past

/-- From `engine` to `after` the command in progress was given up while the request was out. -/
structure GivenUp (engine : Engine τ Operation) (request : Happening)
    (after : Engine τ Operation) : Prop where
  stack : after.stack = []
  doubted : ∀ line, request.line? = some line → line.isMutating = true →
    ∃ server, engine.desk.session.server = some server ∧
      Link.ofPast engine.desk.past = .up server ∧ line.IsInDoubt server after.desk.cache
  kept : (∀ line, request.line? = some line → line.isMutating = false) →
    after.desk.cache = engine.desk.cache

/-- What the stack leaves behind when it is given up. -/
theorem Booked.givenUp (booked : engine.Booked True origin) (oriented : engine.Oriented)
    (form : StackForm engine.stack) (stack : engine.stack = top :: below) {request : Happening}
    (line : request.line? = top.line?) (desk : Desk τ Operation)
    (session : desk.session = engine.desk.session) (cache : desk.cache = engine.desk.cache)
    {after : Engine τ Operation} (empty : after.stack = [])
    (left : after.desk.cache = (abandon engine.env engine.stack desk).cache) :
    engine.GivenUp request after := by
  have idle : ∀ operation ∈ below, operation.line? = none := by
    intro operation mem
    exact (stack ▸ form).line?_of_mem mem
  have same : after.desk.cache = (desk.doubt top.line?).cache := by
    rw [left, stack, abandon_eq engine.env idle desk top]
    split <;> rfl
  refine ⟨empty, ?_, ?_⟩
  · intro sent is _
    rw [same]
    exact booked.doubted oriented stack (line.symm.trans is) session cache
  · intro harmless
    rw [same, ← cache]
    cases out : top.line? with
    | none => rfl
    | some sent =>
        have nothing : sent.doubts = [] := by
          refine List.eq_nil_iff_forall_not_mem.2 fun doubt mem => ?_
          have mutating := WireLine.isMutating_of_mem_doubts mem
          rw [harmless sent (line.trans out)] at mutating
          cases mutating
        change (desk.tellAll sent.doubts).cache = desk.cache
        rw [nothing]
        rfl

/-- A command that is canceled, or whose connection is lost, ends at once. Nothing is sent; the
transport is told to abort once if it was canceled, and not at all otherwise. What the line that
was out is about is in doubt from then on, and if there was none, or one that changes nothing on
the server, the cache is as it was. -/
theorem given_up_in_doubt (conforms : Transport.Conforms good)
    (run : Run good (DriftsAlone good) engine) (busy : engine.isBusy = true) :
    ∃ request, engine.Awaits request ∧
      engine.GivenUp request engine.cancel.2 ∧ engine.GivenUp request engine.connectionLost.2 ∧
      (∃ doubts, (∀ happening ∈ doubts, happening.isDoubt = true) ∧
        engine.cancel.2.desk.past = .aborted :: (doubts ++ .canceled :: engine.desk.past) ∧
        engine.cancel.2.desk.transport = Transport.abort engine.desk.transport) ∧
      ∃ doubts, (∀ happening ∈ doubts, happening.isDoubt = true) ∧
        engine.connectionLost.2.desk.past = doubts ++ .connectionLost :: engine.desk.past ∧
        engine.connectionLost.2.desk.transport = engine.desk.transport := by
  obtain ⟨origin, booked⟩ := booked_of_run conforms run
  have oriented := oriented_of_reachable conforms run.reachable
  have form := (rests_of_reachable conforms.neverGoesOn run.reachable).form
  obtain ⟨top, below, stack⟩ : ∃ top below, engine.stack = top :: below := by
    cases stack : engine.stack with
    | nil => simp [isBusy, stack] at busy
    | cons top below => exact ⟨top, below, rfl⟩
  obtain ⟨waits, request, before, past, waited, answer, line⟩ := booked.pends top below stack
  let canceled := (engine.desk.record .canceled).note .info "Command canceled"
  let lost := (engine.desk.record .connectionLost).note .warn
    "connection lost while a command was in progress"
  have cancel : engine.cancel.2 = { engine with
      desk := (abandon engine.env engine.stack canceled).abort, stack := [] } := by
    unfold Engine.cancel
    rw [if_pos busy]
  have lose : engine.connectionLost.2 = { engine with
      desk := { abandon engine.env engine.stack lost with session := {} }, stack := [] } := by
    unfold Engine.connectionLost
    rw [if_pos busy]
  rw [cancel, lose]
  refine ⟨request, ⟨answer, waits, before, past, waited⟩, ?_, ?_, ?_, ?_⟩
  · exact booked.givenUp oriented form stack line canceled rfl rfl rfl rfl
  · exact booked.givenUp oriented form stack line lost rfl rfl rfl rfl
  · obtain ⟨doubts, all, told⟩ := abandon_past engine.env engine.stack canceled
    refine ⟨doubts, all, congrArg (Happening.aborted :: ·) told, ?_⟩
    exact congrArg Transport.abort (abandon_transport engine.env engine.stack canceled)
  · obtain ⟨doubts, all, told⟩ := abandon_past engine.env engine.stack lost
    exact ⟨doubts, all, told, abandon_transport engine.env engine.stack lost⟩

/-- A change of permissions is canceled while the line is out. -/
theorem given_up_in_doubt_chmod : ∃ engine : Engine Scripted Operation,
    Run Scripted.IsConforming (DriftsAlone Scripted.IsConforming) engine ∧
      engine.isBusy = true ∧ (engine.desk.cache.lookup stage .root).isSome = true ∧
        engine.cancel.2.desk.cache.Unsure stage .root "a" := by
  let known : DirectoryCache := ({} : DirectoryCache).store stage ⟨.root, [.file "a" 1], 0⟩
  let engine := (rehearsed known).after
    (connecting ++ [.execute (.chmod ⟨.root, "a", "644"⟩), .resume])
  have run : Run Scripted.IsConforming (DriftsAlone Scripted.IsConforming) engine :=
    conforming_run _ _
  have busy : engine.isBusy = true := by decide +kernel
  have said : engine.desk.past.head?.bind Happening.line? =
      some (.chmod "644" ⟨.root, .bare, "a"⟩) := by decide +kernel
  have ours : engine.desk.session.server = some stage := by decide +kernel
  obtain ⟨request, ⟨-, waits, before, past, waited⟩, canceled, -⟩ :=
    given_up_in_doubt Scripted.conforms run busy
  have line : request.line? = some (.chmod "644" ⟨.root, .bare, "a"⟩) := by
    rw [past] at said
    cases waits with
    | nil => exact said
    | cons wait rest =>
        have plain := waited wait List.mem_cons_self
        cases wait with
        | awaited => cases said
        | moved data => cases said
        | _ => cases plain
  obtain ⟨server, known, -, unsure⟩ := canceled.doubted _ line rfl
  obtain rfl : stage = server := Option.some.inj (ours.symm.trans known)
  exact ⟨engine, run, busy, by decide +kernel, unsure⟩

end Engine

end Courier
