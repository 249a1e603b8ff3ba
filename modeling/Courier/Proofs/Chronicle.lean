import Courier.Proofs.Abandon
import Courier.Proofs.DirectoryCommands
import Courier.Proofs.Whereabouts

/-!
# What the journal tells of the cache

Every change of the directory cache is in the journal, so the journal tells what became of the
cache. There are four occasions to change it: a line is about to be sent, a listing is discarded
before it is made anew, a listing was received, or a command is given up whose line is out. A
journal that knows no other occasion, and in which every line that may change something on the
server comes right after the one change that goes with it, is a chronicle.
-/

namespace Courier

/-! ## Requests and changes -/

namespace Happening

/-- How the transport answered a request. -/
def answer? : Happening → Option Reply
  | .sent _ _ answer | .connecting _ _ answer | .disconnecting answer | .wakeUp _ answer =>
    some answer
  | _ => none

/-- The command that was accepted. -/
def command? : Happening → Option Command
  | .started command => some command
  | _ => none

/-- A request was made, or a command accepted. -/
def isMark (happening : Happening) : Bool :=
  happening.answer?.isSome || happening.command?.isSome

/-- The change that was made to the cache. -/
def change? : Happening → Option DirectoryCache.Call
  | .cached call _ => if call.isMutating then some call else none
  | _ => none

/-- What became of the cache. -/
def effect : Happening → DirectoryCache → DirectoryCache
  | .cached call _, cache => (cache.perform call).2
  | _, cache => cache

/-- Neither the cache was changed nor, by a line, anything on the server. -/
def isPlain : Happening → Bool
  | .cached call _ => !call.isMutating
  | .sent line _ _ => !line.isMutating
  | _ => true

end Happening

/-- The changes since the last request, or since the command was accepted if that was later. -/
def changesSince (past : List Happening) : List DirectoryCache.Call :=
  (past.takeWhile fun happening => !happening.isMark).filterMap Happening.change?

/-- The command that was accepted last. -/
def lastCommand? (past : List Happening) : Option Command := past.findSome? Happening.command?

/-- The cache after all that happened, newest first. -/
def DirectoryCache.replay (cache : DirectoryCache) (past : List Happening) : DirectoryCache :=
  past.foldr Happening.effect cache

section Journal

variable {happening : Happening} {past : List Happening} {cache : DirectoryCache}

theorem changesSince_cons (happening : Happening) (past : List Happening) :
    changesSince (happening :: past) =
      if happening.isMark then [] else happening.change?.toList ++ changesSince past := by
  unfold changesSince
  cases mark : happening.isMark with
  | true => simp [mark]
  | false => cases change : happening.change? <;> simp [mark, change]

theorem Happening.change?_of_isPlain (plain : happening.isPlain = true) :
    happening.change? = none := by
  cases happening with
  | cached call answer => simpa [change?, isPlain] using plain
  | _ => rfl

theorem Happening.effect_of_isPlain (plain : happening.isPlain = true) :
    happening.effect cache = cache := by
  cases happening with
  | cached call answer => cases call <;> first | rfl | cases plain
  | _ => rfl

theorem changesSince_plains {plains : List Happening}
    (all : ∀ happening ∈ plains, happening.isPlain = true) (none : changesSince past = []) :
    changesSince (plains ++ past) = [] := by
  induction plains with
  | nil => exact none
  | cons happening rest ih =>
      rw [List.cons_append, changesSince_cons,
        Happening.change?_of_isPlain (all happening List.mem_cons_self),
        ih fun h mem => all h (List.mem_cons_of_mem _ mem)]
      simp

namespace DirectoryCache

@[simp] theorem replay_nil (cache : DirectoryCache) : cache.replay [] = cache := rfl

@[simp] theorem replay_cons (cache : DirectoryCache) (happening : Happening)
    (past : List Happening) :
    cache.replay (happening :: past) = happening.effect (cache.replay past) := rfl

theorem replay_plains {plains : List Happening}
    (all : ∀ happening ∈ plains, happening.isPlain = true) :
    cache.replay (plains ++ past) = cache.replay past := by
  induction plains with
  | nil => rfl
  | cons happening rest ih =>
      rw [List.cons_append, replay_cons,
        Happening.effect_of_isPlain (all happening List.mem_cons_self)]
      exact ih fun h mem => all h (List.mem_cons_of_mem _ mem)

end DirectoryCache

theorem lastCommand?_append {later : List Happening}
    (none : ∀ happening ∈ later, happening.command? = none) :
    lastCommand? (later ++ past) = lastCommand? past := by
  unfold lastCommand?
  rw [List.findSome?_append, List.findSome?_eq_none_iff.2 none, Option.none_or]

theorem Happening.command?_of_isAnnouncement (h : happening.isAnnouncement = true) :
    happening.command? = none := by
  cases happening <;> first | rfl | cases h

theorem Happening.isPlain_of_isAnnouncement (h : happening.isAnnouncement = true) :
    happening.isPlain = true := by
  cases happening <;> first | rfl | cases h

theorem Happening.isAside_of_isAnnouncement (h : happening.isAnnouncement = true) :
    happening.isAside = true := by
  cases happening <;> first | rfl | cases h

theorem Happening.isPlain_of_isWait (h : happening.isWait = true) : happening.isPlain = true := by
  cases happening <;> first | rfl | cases h

theorem Happening.command?_of_isWait (h : happening.isWait = true) :
    happening.command? = none := by
  cases happening <;> first | rfl | cases h

theorem Happening.line?_of_isWait (h : happening.isWait = true) : happening.line? = none := by
  cases happening <;> first | rfl | cases h

theorem Happening.line?_of_isDoubt (h : happening.isDoubt = true) : happening.line? = none := by
  cases happening <;> first | rfl | cases h

end Journal

/-! ## Lines and their commands -/

/-- The line is one of those the command consists of, about the command's own objects. -/
def Command.Says (line : WireLine) : Command → Prop
  | .transfer request => ∃ naming,
    let object : ObjectName := ⟨request.path, naming, request.file⟩
    line = if request.isDownload then .get object else .put object
  | .delete request => ∃ naming, ∃ file ∈ request.files, line = .remove ⟨request.path, naming, file⟩
  | .removeDir request => ∃ naming, line = .removeDir ⟨request.path, naming, request.subDir⟩
  | .makeDir request => line = .makeDir request.path
  | .rename request => ∃ source target, line = .move ⟨request.fromPath, source, request.fromFile⟩
      ⟨request.toPath, target, request.toFile⟩
  | .chmod request => ∃ naming, line =
      .chmod request.permission ⟨request.path, naming, request.file⟩
  | .raw text => line = .raw text
  | .connect _ | .disconnect | .list _ | .http _ => False

/-- What the cache is told, in this order, when nobody will hear how the line ended. After a line
of the caller it knows nothing of the server anyway. -/
def WireLine.doubts : WireLine → List (Server → DirectoryCache.Call)
  | put object | chmod _ object | remove object =>
    [(.updateEntry · object.directory object.file false .unsure)]
  | removeDir object => [(.updateEntry · object.directory object.file true .unsure)]
  | makeDir path =>
    match path.parent?, path.lastName? with
    | some parent, some name => [(.updateEntry · parent name true .unsure)]
    | _, _ => []
  | move source target => [(.forgetDir · source.directory), (.forgetDir · target.directory)]
  | changeDir _ | list | get _ | raw _ => []

theorem WireLine.isMutating_of_mem_doubts {line : WireLine} {doubt : Server → DirectoryCache.Call}
    (h : doubt ∈ line.doubts) : line.isMutating = true := by
  cases line <;> first | rfl | cases h

/-! ## Chronicles -/

/-- The line is one of the command in progress, and `call` is what the cache is to be told of it,
on behalf of the server there is a connection to. No change has been made since the last request. -/
structure WireLine.Impends (line : WireLine) (call : DirectoryCache.Call)
    (past : List Happening) : Prop where
  mutating : line.isMutating = true
  own : ∃ command, lastCommand? past = some command ∧ command.Says line
  forecast : ∃ server forecast, Link.ofPast past = .up server ∧
    line.forecast? = some forecast ∧ call = forecast server
  first : changesSince past = []

section Impends

variable {line : WireLine} {call : DirectoryCache.Call} {past announcements : List Happening}

/-- What the cache is told of a line is a change. -/
theorem WireLine.isMutating_of_forecast? {forecast : Server → DirectoryCache.Call}
    (h : line.forecast? = some forecast) (server : Server) :
    (forecast server).isMutating = true := by
  cases line with
  | makeDir path =>
      simp only [forecast?] at h
      split at h <;> cases h
      rfl
  | _ => cases h <;> rfl

/-- When the line is sent, the one change since the last request is that which goes with it. -/
theorem WireLine.Impends.changesSince (impends : line.Impends call past)
    (answer : DirectoryCache.Answer)
    (all : ∀ happening ∈ announcements, happening.isAnnouncement = true) :
    changesSince (announcements ++ .cached call answer :: past) = [call] := by
  obtain ⟨server, forecast, -, foretells, rfl⟩ := impends.forecast
  have change := isMutating_of_forecast? foretells server
  induction announcements with
  | nil =>
      rw [List.nil_append, changesSince_cons, impends.first]
      simp [Happening.isMark, Happening.answer?, Happening.command?, Happening.change?, change]
  | cons happening rest ih =>
      obtain ⟨first, rest⟩ := List.forall_mem_cons.1 all
      rw [List.cons_append, changesSince_cons, ih rest]
      cases happening <;> first | rfl | cases first

/-- All that is known when the line is sent. -/
theorem WireLine.Impends.foretold (impends : line.Impends call past)
    (answer : DirectoryCache.Answer)
    (all : ∀ happening ∈ announcements, happening.isAnnouncement = true) :
    ∃ command server forecast,
      lastCommand? (announcements ++ .cached call answer :: past) = some command ∧
      command.Says line ∧
      Link.ofPast (announcements ++ .cached call answer :: past) = .up server ∧
      line.forecast? = some forecast ∧
      Courier.changesSince (announcements ++ .cached call answer :: past) = [forecast server] := by
  obtain ⟨command, last, owns⟩ := impends.own
  obtain ⟨server, forecast, up, foretells, is⟩ := impends.forecast
  refine ⟨command, server, forecast, ?_, owns, ?_, foretells, is ▸ impends.changesSince answer all⟩
  · rw [lastCommand?_append fun happening mem =>
      Happening.command?_of_isAnnouncement (all happening mem)]
    exact last
  · rw [Link.ofPast_asides fun happening mem =>
      Happening.isAside_of_isAnnouncement (all happening mem), Link.ofPast_cons, up]
    rfl

end Impends

/-- Why the cache is changed when no line is about to be sent. -/
inductive Occasion : DirectoryCache.Call → List Happening → Prop
  /-- A listing is to be made anew and the present one is not wanted any more. -/
  | discard {request : ListRequest} {current : Option RemotePath} {server : Server}
      {path : RemotePath} {before : List Happening}
      (wanted : request.flags.contains .clearCache = true)
      (here : ∀ known, current = some known → Settled (.started (.list request) :: before) known)
      (target : request.target? current = some path) (up : Link.ofPast before = .up server) :
      Occasion (.forgetDir server path) (.started (.list request) :: before)
  /-- A listing was received, and the line that asked for it completed without an error. -/
  | store {server : Server} {listing : Listing} {entries : List Entry} {result : Reply}
      {text : String} {waits before : List Happening} {request : ListRequest}
      (own : lastCommand? before = some (.list request)) (fine : result.isError = false)
      (up : Link.ofPast before = .up server)
      (waited : ∀ happening ∈ waits, happening.isWait = true)
      (received : listing.entries = ListTask.fresh entries) :
      Occasion (.store server listing) (.listingTaken (some entries) :: .completed result ::
        (waits ++ .sent .list text .wouldBlock :: before))
  /-- A command is given up while its line is out. -/
  | doubt {doubt : Server → DirectoryCache.Call} {server : Server} {line : WireLine}
      {text : String} {cause : Happening} {doubts waits before : List Happening}
      (gaveUp : cause = .canceled ∨ cause = .connectionLost) (mutating : line.isMutating = true)
      (up : Link.ofPast before = .up server) (doubted : doubt ∈ line.doubts)
      (others : ∀ happening ∈ doubts, ∃ other answer, other ∈ line.doubts ∧
        happening = .cached (other server) answer)
      (waited : ∀ happening ∈ waits, happening.isWait = true) :
      Occasion (doubt server) (doubts ++ cause :: (waits ++ .sent line text .wouldBlock :: before))

/-- A journal, newest first, in which every change of the cache has its occasion. -/
inductive Chronicle : List Happening → Prop
  | nil : Chronicle []
  | plain {happening : Happening} {past : List Happening} (plain : happening.isPlain = true)
      (earlier : Chronicle past) : Chronicle (happening :: past)
  | line {line : WireLine} {text : String} {reply : Reply} {announcements past : List Happening}
      {call : DirectoryCache.Call} {answer : DirectoryCache.Answer}
      (impends : line.Impends call past)
      (all : ∀ happening ∈ announcements, happening.isAnnouncement = true)
      (earlier : Chronicle past) :
      Chronicle (.sent line text reply :: (announcements ++ .cached call answer :: past))
  | change {call : DirectoryCache.Call} {answer : DirectoryCache.Answer} {past : List Happening}
      (occasion : Occasion call past) (earlier : Chronicle past) :
      Chronicle (.cached call answer :: past)

namespace Chronicle

variable {past later earlier : List Happening}

theorem plains {plains : List Happening} (earlier : Chronicle past)
    (all : ∀ happening ∈ plains, happening.isPlain = true) : Chronicle (plains ++ past) := by
  induction plains with
  | nil => exact earlier
  | cons happening rest ih =>
      exact .plain (all happening List.mem_cons_self)
        (ih fun h mem => all h (List.mem_cons_of_mem _ mem))

/-- What is found behind a stretch it does not belong to is found in the rest. -/
theorem split_behind {front rest : List Happening} {happening : Happening}
    (other : happening ∉ front) (split : front ++ rest = later ++ happening :: earlier) :
    ∃ middle, later = front ++ middle ∧ rest = middle ++ happening :: earlier := by
  rcases List.append_eq_append_iff.1 split with found | ⟨middle, within, behind⟩
  · exact found
  · cases middle with
    | nil => exact ⟨[], by simpa using within.symm, behind.symm⟩
    | cons head tail =>
        rw [List.cons_append, List.cons.injEq] at behind
        refine absurd ?_ other
        rw [within, behind.1]
        exact List.mem_append_right _ List.mem_cons_self

/-- Before a line that may change something on the server comes the one change that goes with it,
made since the last request. -/
theorem line_at (chronicle : Chronicle past) {line : WireLine} {text : String} {reply : Reply}
    (split : past = later ++ .sent line text reply :: earlier)
    (mutating : line.isMutating = true) :
    ∃ announcements call answer before,
      earlier = announcements ++ .cached call answer :: before ∧
      (∀ happening ∈ announcements, happening.isAnnouncement = true) ∧
      line.Impends call before := by
  induction chronicle generalizing later with
  | nil => simp at split
  | @plain happening past plain _ ih =>
      cases later with
      | nil =>
          obtain ⟨rfl, rfl⟩ := List.cons.inj split
          simp [Happening.isPlain, mutating] at plain
      | cons _ later => exact ih (List.cons.inj split).2
  | @line _ _ _ announcements past call answer impends all _ ih =>
      cases later with
      | nil =>
          obtain ⟨same, rfl⟩ := List.cons.inj split
          obtain ⟨rfl, rfl, rfl⟩ := Happening.sent.inj same
          exact ⟨announcements, call, answer, past, rfl, all, impends⟩
      | cons _ later =>
          have other : Happening.sent line text reply ∉ announcements := by
            intro mem
            cases all _ mem
          obtain ⟨middle, -, behind⟩ := split_behind other (List.cons.inj split).2
          cases middle with
          | nil => cases (List.cons.inj behind).1
          | cons _ middle => exact ih (List.cons.inj behind).2
  | change _ _ ih =>
      cases later with
      | nil => cases (List.cons.inj split).1
      | cons _ later => exact ih (List.cons.inj split).2

/-- A line that may change something on the server is one of the command in progress. -/
theorem own_line (chronicle : Chronicle past) {line : WireLine} {text : String} {reply : Reply}
    (split : past = later ++ .sent line text reply :: earlier)
    (mutating : line.isMutating = true) :
    ∃ command, lastCommand? earlier = some command ∧ command.Says line := by
  obtain ⟨announcements, call, answer, before, rfl, all, impends⟩ :=
    chronicle.line_at split mutating
  obtain ⟨command, last, owns⟩ := impends.own
  refine ⟨command, ?_, owns⟩
  rw [lastCommand?_append fun happening mem =>
    Happening.command?_of_isAnnouncement (all happening mem)]
  exact last

/-- A change made between `later` and `earlier` is accounted for: the line it goes with comes next,
or it had another occasion. -/
def Accounts (later : List Happening) (call : DirectoryCache.Call) (earlier : List Happening) :
    Prop :=
  (∃ rest line text reply announcements,
    later = rest ++ .sent line text reply :: announcements ∧
    (∀ happening ∈ announcements, happening.isAnnouncement = true) ∧
    line.Impends call earlier) ∨ Occasion call earlier

theorem Accounts.prepend {call : DirectoryCache.Call} (accounts : Accounts later call earlier)
    (more : List Happening) : Accounts (more ++ later) call earlier := by
  rcases accounts with ⟨rest, line, text, reply, announcements, rfl, found⟩ | occasion
  · exact .inl ⟨more ++ rest, line, text, reply, announcements, by rw [List.append_assoc], found⟩
  · exact .inr occasion

theorem change_at (chronicle : Chronicle past) {call : DirectoryCache.Call}
    {answer : DirectoryCache.Answer} (split : past = later ++ .cached call answer :: earlier)
    (mutating : call.isMutating = true) : Accounts later call earlier := by
  induction chronicle generalizing later with
  | nil => simp at split
  | @plain happening past plain _ ih =>
      cases later with
      | nil =>
          obtain ⟨rfl, rfl⟩ := List.cons.inj split
          simp [Happening.isPlain, mutating] at plain
      | cons head later => exact (ih (List.cons.inj split).2).prepend [head]
  | @line line text reply announcements past told _ impends all _ ih =>
      cases later with
      | nil => cases (List.cons.inj split).1
      | cons head later =>
          obtain ⟨rfl, tail⟩ := List.cons.inj split
          have other : Happening.cached call answer ∉ announcements := by
            intro mem
            cases all _ mem
          obtain ⟨middle, rfl, behind⟩ := split_behind other tail
          cases middle with
          | nil =>
              obtain ⟨same, rfl⟩ := List.cons.inj behind
              obtain ⟨rfl, rfl⟩ := Happening.cached.inj same
              exact .inl ⟨[], line, text, reply, announcements, by simp, all, impends⟩
          | cons next middle =>
              have found := (ih (List.cons.inj behind).2).prepend
                (.sent line text reply :: (announcements ++ [next]))
              simpa using found
  | @change _ _ past occasion _ ih =>
      cases later with
      | nil =>
          obtain ⟨same, rfl⟩ := List.cons.inj split
          obtain ⟨rfl, -⟩ := Happening.cached.inj same
          exact .inr occasion
      | cons head later => exact (ih (List.cons.inj split).2).prepend [head]

/-- The cache is changed in the course of a listing, or of a command one of whose lines may change
something on the server. -/
theorem command_at (chronicle : Chronicle past) {call : DirectoryCache.Call}
    {answer : DirectoryCache.Answer} (split : past = later ++ .cached call answer :: earlier)
    (mutating : call.isMutating = true) :
    ∃ command, lastCommand? earlier = some command ∧
      ((∃ request, command = .list request) ∨
        ∃ line : WireLine, line.isMutating = true ∧ command.Says line) := by
  rcases chronicle.change_at split mutating with ⟨_, line, _, _, _, -, -, impends⟩ | occasion
  · obtain ⟨command, last, owns⟩ := impends.own
    exact ⟨command, last, .inr ⟨line, impends.mutating, owns⟩⟩
  · cases occasion with
    | discard => exact ⟨_, rfl, .inl ⟨_, rfl⟩⟩
    | @store _ _ _ _ text waits before request own _ _ waited _ =>
        refine ⟨_, ?_, .inl ⟨request, rfl⟩⟩
        have same : lastCommand? (waits ++ .sent .list text .wouldBlock :: before) =
            lastCommand? before :=
          lastCommand?_append fun happening mem =>
            Happening.command?_of_isWait (waited happening mem)
        exact same.trans own
    | @doubt doubt server line text cause doubts waits before gaveUp changes _ _ others waited =>
        have found : past = (later ++ .cached (doubt server) answer :: doubts ++
            cause :: waits) ++ .sent line text .wouldBlock :: before := by simpa using split
        obtain ⟨command, last, owns⟩ := chronicle.own_line found changes
        refine ⟨command, ?_, .inr ⟨line, changes, owns⟩⟩
        have silent : cause.command? = none := by rcases gaveUp with rfl | rfl <;> rfl
        have quiet : ∀ happening ∈ doubts ++ cause :: waits, happening.command? = none := by
          intro happening mem
          rcases List.mem_append.1 mem with mem | mem
          · obtain ⟨_, _, -, rfl⟩ := others happening mem
            rfl
          · rcases List.mem_cons.1 mem with rfl | mem
            · exact silent
            · exact Happening.command?_of_isWait (waited happening mem)
        have same : lastCommand? ((doubts ++ cause :: waits) ++
            .sent line text .wouldBlock :: before) = lastCommand? before :=
          lastCommand?_append quiet
        rw [List.append_assoc, List.cons_append] at same
        exact same.trans last

end Chronicle

end Courier
