import Courier.Proofs.Chronicle
import Courier.Proofs.Course

/-!
# What failed removals leave in the cache

The cache is told of a line before the line is sent, and how the line ends makes no difference: what
is known of a directory once a command is over is what its lines made of it. So a listing from which
an entry was taken is trusted after a failure as it is after a success, unless something else in it
is in doubt.
-/

namespace Courier

open RemotePath (Naming)
open Script (Plays)

/-! ## What a line makes of a listing -/

namespace WireLine

/-- The object a line takes out of its directory. -/
def taken? : WireLine → Option ObjectName
  | remove object | removeDir object => some object
  | move source _ => some source
  | _ => none

/-- What the cache makes of the entries of the directory an object is taken out of. -/
def strike (entries : List Entry) : WireLine → List Entry
  | remove object | removeDir object => Entry.without object.file entries
  | move source _ => Entry.withoutFirst source.file entries
  | _ => entries

/-- The directory an object is taken out of is forgotten with it, or the object comes back into it
under another name. -/
def unsettles : WireLine → Bool
  | removeDir object => (object.directory.join object.file).isAtOrAbove object.directory
  | move source target =>
    target.directory = source.directory ||
      (source.directory.join source.file).isAtOrAbove source.directory
  | _ => false

/-- After `line` a line that takes an object out of its directory may follow only if both remove
files of one directory. -/
def Precedes (line later : WireLine) : Prop :=
  ∀ object, line.taken? = some object →
    line = .remove object ∧ ∃ naming file, later = .remove ⟨object.directory, naming, file⟩

end WireLine

/-- The cache once it was told of lines, on behalf of the server of the session. -/
def DirectoryCache.told (cache : DirectoryCache) (server : Option Server) (lines : List WireLine) :
    DirectoryCache :=
  lines.foldl (fun cache line => line.foretold server cache) cache

namespace WireLine

variable {line : WireLine} {object : ObjectName} {cache : DirectoryCache} {server : Server}

variable (cache server) in
/-- Where the directory stays settled, its listing loses what the line strikes and nothing else. -/
theorem lookup_foretold (takes : line.taken? = some object) (settled : line.unsettles = false) :
    (line.foretold (some server) cache).lookup server object.directory =
      (cache.lookup server object.directory).map fun listing =>
        { listing with entries := line.strike listing.entries } := by
  cases line with
  | remove removed =>
      cases takes
      simp [foretold, forecast?, DirectoryCache.perform, DirectoryCache.removeEntry,
        DirectoryCache.lookup_modify, strike]
  | removeDir removed =>
      cases takes
      have kept : (object.directory.join object.file).isAtOrAbove object.directory = false :=
        settled
      simp [foretold, forecast?, DirectoryCache.perform, DirectoryCache.removeDir,
        DirectoryCache.removeEntry, DirectoryCache.lookup_forget, DirectoryCache.lookup_modify,
        kept, strike]
  | move source target =>
      cases takes
      obtain ⟨other, kept⟩ : target.directory ≠ object.directory ∧
          (object.directory.join object.file).isAtOrAbove object.directory = false := by
        simpa [unsettles] using settled
      simp [foretold, forecast?, DirectoryCache.perform, DirectoryCache.rename,
        DirectoryCache.lookup_forget, DirectoryCache.lookup_modify, kept, other, strike]
  | _ => cases takes

/-- Where it does not, its listing is gone or in doubt. -/
theorem doubted_foretold (takes : line.taken? = some object) (unsettled : line.unsettles = true)
    {left : Listing}
    (found : (line.foretold (some server) cache).lookup server object.directory = some left) :
    left.hasUnsure = true := by
  cases line with
  | remove removed => cases unsettled
  | removeDir removed =>
      cases takes
      have gone : (object.directory.join object.file).isAtOrAbove object.directory = true :=
        unsettled
      simp [foretold, forecast?, DirectoryCache.perform, DirectoryCache.removeDir,
        DirectoryCache.lookup_forget, gone] at found
  | move source target =>
      cases takes
      simp only [foretold, forecast?, DirectoryCache.perform, DirectoryCache.rename,
        DirectoryCache.lookup_forget, DirectoryCache.lookup_modify] at found
      by_cases gone : (object.directory.join object.file).isAtOrAbove object.directory = true
      · simp [gone] at found
      · -- the entry is back in the directory under its new name, as one that is in doubt
        have same : target.directory = object.directory := by
          simpa [unsettles, gone] using unsettled
        simp only [true_and, gone, same, and_true, if_true] at found
        obtain ⟨listing, -, rfl⟩ : ∃ listing, _ ∧ _ = left := by
          simpa using found
        simp [Listing.hasUnsure, DirectoryCache.movedEntry]
  | _ => cases takes

/-- Lines that may follow a line which leaves its directory settled strike more of the same
listing. -/
theorem lookup_told {lines : List WireLine} {listing : Listing} (takes : line.taken? = some object)
    (settled : line.unsettles = false) (follow : ∀ later ∈ lines, line.Precedes later)
    (cached : cache.lookup server object.directory = some listing) :
    (cache.told (some server) (line :: lines)).lookup server object.directory =
      some { listing with entries := (line :: lines).foldl strike listing.entries } := by
  have removes : ∀ later ∈ lines, ∃ naming file,
      later = .remove ⟨object.directory, naming, file⟩ := by
    intro later mem
    exact (follow later mem object takes).2
  have first := lookup_foretold cache server takes settled
  rw [cached, Option.map_some] at first
  simp only [DirectoryCache.told, List.foldl_cons]
  -- from here on only the cache and the entries after the first line matter
  generalize line.foretold (some server) cache = now at first
  generalize line.strike listing.entries = entries at first
  clear follow cached
  -- each line that follows strikes one file more
  induction lines generalizing now entries with
  | nil => exact first
  | cons later rest ih =>
      obtain ⟨naming, file, rfl⟩ := removes later List.mem_cons_self
      refine ih (fun later mem => removes later (List.mem_cons_of_mem _ mem)) _ _ ?_
      have more : (WireLine.remove ⟨object.directory, naming, file⟩).taken? = some _ := rfl
      rw [lookup_foretold now server more rfl, first]
      rfl

end WireLine

/-! ## Lines that follow one another -/

namespace Script

variable {allowed : WireLine → Prop} {script rest : Script} {store last : Local.Store}
  {talk : List Talk}

/-- Whatever is sent in the course of the script is allowed. -/
def Sends (allowed : WireLine → Prop) : Script → Prop
  | done _ => True
  | look next => ∀ store, (next store).Sends allowed
  | send line next => allowed line ∧ ∀ answer, (next answer).Sends allowed
  | wait next => ∀ result, (next result).Sends allowed

/-- Every line is followed by such lines only as may follow it. -/
def Orderly : Script → Prop
  | done _ => True
  | look next => ∀ store, (next store).Orderly
  | send line next => ∀ answer, (next answer).Sends line.Precedes ∧ (next answer).Orderly
  | wait next => ∀ result, (next result).Orderly

theorem Sends.of_forall (all : ∀ line, allowed line) (script : Script) : script.Sends allowed := by
  induction script with
  | done reply => trivial
  | look next ih => exact ih
  | send line next ih => exact ⟨all line, ih⟩
  | wait next ih => exact ih

theorem Plays.sends (plays : Plays store script talk last rest) (sends : script.Sends allowed) :
    ∀ line ∈ talk.filterMap Talk.line?, allowed line := by
  induction plays with
  | nothing => exact List.forall_mem_nil _
  | look _ ih => exact ih (sends _)
  | sent text answer _ ih => exact List.forall_mem_cons.2 ⟨sends.1, ih (sends.2 answer)⟩
  | told result _ ih => exact ih (sends result)

/-- The lines of a talk follow one another as the script has it. -/
theorem Plays.orderly (plays : Plays store script talk last rest) (orderly : script.Orderly) :
    (talk.filterMap Talk.line?).Pairwise WireLine.Precedes := by
  induction plays with
  | nothing => exact .nil
  | look _ ih => exact ih (orderly _)
  | sent text answer plays ih =>
      obtain ⟨sends, orderly⟩ := orderly answer
      exact .cons (plays.sends sends) (ih orderly)
  | told result _ ih => exact ih (orderly result)

section Ask

variable {line : WireLine} {refused finished : Reply → Script}

theorem ask_sends (own : allowed line) (refuses : ∀ answer, (refused answer).Sends allowed)
    (finishes : ∀ result, (finished result).Sends allowed) :
    (ask line refused finished).Sends allowed := by
  refine ⟨own, fun answer => ?_⟩
  simp only
  split
  · exact finishes
  · exact refuses answer

theorem ask_orderly
    (refuses : ∀ answer, (refused answer).Sends line.Precedes ∧ (refused answer).Orderly)
    (finishes : ∀ result, (finished result).Sends line.Precedes ∧ (finished result).Orderly) :
    (ask line refused finished).Orderly := by
  intro answer
  simp only
  split
  · exact ⟨fun result => (finishes result).1, fun result => (finishes result).2⟩
  · exact refuses answer

end Ask

/-- A line after which the command ends is the last. -/
theorem line_orderly (line : WireLine) : (Script.line line).Orderly :=
  ask_orderly (fun _ => ⟨trivial, trivial⟩) fun _ => ⟨trivial, trivial⟩

/-- Only these files of one directory are removed. -/
theorem remove_sends (path : RemotePath) (naming : Naming) (files : List String) (failed : Nat)
    (removes : ∀ file ∈ files, allowed (.remove ⟨path, naming, file⟩)) :
    (remove path naming files failed).Sends allowed := by
  induction files generalizing failed with
  | nil => trivial
  | cons file files ih =>
      obtain ⟨first, others⟩ := List.forall_mem_cons.1 removes
      have ih (failed : Nat) := ih failed others
      refine ask_sends first (fun _ => trivial) ?_
      intro result
      split
      · split
        · trivial
        · exact ih _
      · exact ih _

theorem remove_orderly (path : RemotePath) (naming : Naming) (files : List String)
    (failed : Nat) : (remove path naming files failed).Orderly := by
  induction files generalizing failed with
  | nil => trivial
  | cons file files ih =>
      have goesOn (failed : Nat) : (remove path naming files failed).Sends
          (WireLine.Precedes (.remove ⟨path, naming, file⟩)) := by
        refine remove_sends path naming files failed ?_
        intro next _ object takes
        cases takes
        exact ⟨rfl, naming, next, rfl⟩
      refine ask_orderly (fun _ => ⟨trivial, trivial⟩) ?_
      intro result
      split
      · split
        · exact ⟨trivial, trivial⟩
        · exact ⟨goesOn _, ih _⟩
      · exact ⟨goesOn _, ih _⟩

/-- A change of directory may be followed by anything. -/
theorem enter_orderly (current : Option RemotePath) (path : RemotePath) {body : Naming → Script}
    (orderly : ∀ naming, (body naming).Orderly) : (enter current path body).Orderly := by
  by_cases here : current = some path
  · rw [enter_here here]
    exact orderly .bare
  · rw [enter_elsewhere here]
    have free (script : Script) : script.Sends (WireLine.Precedes (.changeDir path)) :=
      .of_forall (by rintro _ _ ⟨⟩) script
    exact ask_orderly (fun _ => ⟨free _, orderly _⟩) fun _ => ⟨free _, orderly _⟩

theorem ofCommand?_orderly {current : Option RemotePath} {command : Command} {script : Script}
    (scripted : ofCommand? current command = some script) : script.Orderly := by
  cases command with
  | chmod request =>
      cases scripted
      exact enter_orderly _ _ fun naming => line_orderly _
  | removeDir request =>
      cases scripted
      exact enter_orderly _ _ fun naming => line_orderly _
  | rename request =>
      cases scripted
      exact enter_orderly _ _ fun naming => line_orderly _
  | transfer request =>
      cases scripted
      refine enter_orderly _ _ fun naming store => ?_
      simp only
      split
      · trivial
      · exact line_orderly _
  | delete request =>
      cases scripted
      exact enter_orderly _ _ fun naming => remove_orderly _ _ _ _
  | _ => cases scripted

end Script

/-! ## What the cache is told in the course of a command -/

/-- The lines sent so far, oldest first. -/
def linesSent (past : List Happening) : List WireLine :=
  past.reverse.filterMap Happening.line?

theorem linesSent_append (later earlier : List Happening) :
    linesSent (later ++ earlier) = linesSent earlier ++ linesSent later := by
  simp [linesSent]

theorem linesSent_eq_nil {past : List Happening}
    (silent : ∀ happening ∈ past, happening.line? = none) : linesSent past = [] :=
  List.filterMap_eq_nil_iff.2 fun happening mem => silent happening (List.mem_reverse.1 mem)

theorem Happening.line?_of_isTelling {happening : Happening} (h : happening.isTelling = true) :
    happening.line? = none := by
  cases happening <;> first | rfl | cases h

/-- The lines of a talk are those that were sent. -/
theorem linesSent_of_talk {past : List Happening} {talk : List Talk}
    (same : past.reverse.filter Happening.isTalk = talk.map Talk.happening) :
    linesSent past = talk.filterMap Talk.line? := by
  have lines : talk.filterMap Talk.line? =
      (past.reverse.filter Happening.isTalk).filterMap Happening.line? := by
    rw [same, List.filterMap_map]
    congr 1
    funext said
    cases said <;> rfl
  rw [lines, List.filterMap_filter]
  unfold linesSent
  congr 1
  funext happening
  cases happening <;> rfl

variable {τ : Type} [Transport τ] {good : Transport.States τ}

/-- From `desk` to `after` the cache learnt of the lines that were sent, and of nothing else. -/
def Desk.Learns (desk after : Desk τ Operation) : Prop :=
  ∃ happened, after.past = happened ++ desk.past ∧
    after.cache = desk.cache.told desk.session.server (linesSent happened)

/-- So it did, and the server is still the same. -/
structure Desk.Tells (desk after : Desk τ Operation) : Prop where
  server : after.session.server = desk.session.server
  learns : desk.Learns after

namespace Desk.Tells

variable {desk middle after : Desk τ Operation}

omit [Transport τ]

/-- Nothing was sent. -/
theorem silent (server : after.session.server = desk.session.server)
    (past : ∃ silence, (∀ happening ∈ silence, happening.line? = none) ∧
      after.past = silence ++ desk.past)
    (cache : after.cache = desk.cache) : desk.Tells after := by
  obtain ⟨silence, all, past⟩ := past
  refine ⟨server, silence, past, ?_⟩
  rw [cache, linesSent_eq_nil all]
  rfl

theorem quiet (quiet : desk.Quiet after) : desk.Tells after := by
  obtain ⟨notes, rfl⟩ := quiet
  exact silent rfl ⟨[], List.forall_mem_nil _, rfl⟩ rfl

theorem refl (desk : Desk τ Operation) : desk.Tells desk := .quiet (.refl desk)

theorem note (tells : desk.Tells after) (level : LogLevel) (text : String) :
    desk.Tells (after.note level text) :=
  ⟨tells.server, tells.learns⟩

theorem learnsOn (first : desk.Tells middle) (second : middle.Learns after) :
    desk.Learns after := by
  obtain ⟨before, firstPast, firstCache⟩ := first.learns
  obtain ⟨later, secondPast, secondCache⟩ := second
  refine ⟨later ++ before, ?_, ?_⟩
  · rw [secondPast, firstPast, List.append_assoc]
  · rw [secondCache, firstCache, first.server, linesSent_append]
    exact (List.foldl_append ..).symm

theorem trans (first : desk.Tells middle) (second : middle.Tells after) : desk.Tells after :=
  ⟨second.server.trans first.server, first.learnsOn second.learns⟩

/-- A line is sent that the cache was told of. -/
theorem send [Transport τ] {line : WireLine} (prepares : desk.Prepares line middle)
    (operation : Operation) : desk.Tells (middle.send line operation).desk := by
  obtain ⟨tellings, all, past⟩ := prepares.tells
  have silent : linesSent tellings = [] := by
    refine linesSent_eq_nil ?_
    intro happening mem
    exact Happening.line?_of_isTelling (all happening mem)
  refine ⟨congrArg Session.server prepares.session,
    .sent line (middle.lineText line) (Transport.send middle.transport (middle.lineText line)).1 ::
      tellings, ?_, ?_⟩
  · rw [Desk.send_past, past]
    rfl
  · rw [Desk.send_cache, prepares.cache, ← List.singleton_append, linesSent_append, silent]
    rfl

end Desk.Tells

section Steps

variable {desk : Desk τ Operation} {operation : Operation} {home : RemotePath} {naming : Naming}

theorem tells_start (env : Env) (works : operation.WorksIn home .start) :
    desk.Tells (operation.send env desk).desk := by
  obtain ⟨path, after, -, quiet, sent⟩ := Operation.send_start desk env works.state
  rw [sent]
  exact (Desk.Tells.quiet quiet).trans
    (.silent (congrArg Session.server (after.request_session _))
      ⟨[], List.forall_mem_nil _, after.request_past _⟩ (after.request_cache _))

theorem tells_enter (env : Env) (specified : home.isUnspecified = false) :
    desk.Tells ((Operation.changeDir { path := home }).send env desk).desk := by
  simp only [Operation.send, ChangeDirTask.send, specified, Bool.false_eq_true, if_false]
  split
  · exact .quiet (.note (.refl desk) _ _)
  · have leaves : desk.Tells { desk with session := { desk.session with directory := none } } :=
      .silent rfl ⟨[], List.forall_mem_nil _, rfl⟩ rfl
    exact leaves.trans (.send (.refl _ rfl) _)

theorem tells_entered (env : Env) :
    desk.Tells
      ((Operation.changeDir { path := home, waiting := true }).completed env desk).desk := by
  simp only [Operation.completed, ChangeDirTask.completed, if_true]
  split
  · exact .silent rfl ⟨[], List.forall_mem_nil _, rfl⟩ rfl
  · exact .refl desk

omit [Transport τ] in
theorem tells_returned (reply : Reply) (finished : Operation)
    (works : operation.WorksIn home .entering) :
    desk.Tells (Operation.returned reply finished operation desk).desk := by
  obtain ⟨after, quiet, eq⟩ := Operation.returned_entering desk reply finished works.state
  rw [eq]
  exact .quiet quiet

theorem tells_ready (env : Env) (works : operation.WorksIn home (.ready naming)) :
    desk.Tells (operation.send env desk).desk := by
  have ready := Operation.send_ready desk env works.state
  split at ready
  · obtain ⟨after, quiet, sent⟩ := ready
    rw [sent]
    exact .quiet quiet
  · obtain ⟨before, out, prepares, -, sent⟩ := ready
    rw [sent]
    exact .send prepares out
  · exact ready.elim

theorem tells_heard (env : Env) (works : operation.WorksIn home (.waiting naming)) :
    desk.Tells (operation.completed env desk).desk := by
  have completed := Operation.completed_waiting desk env works.state
  split at completed
  · obtain ⟨after, out, quiet, -, eq⟩ := completed
    rw [eq]
    exact .quiet quiet
  · obtain ⟨after, quiet, eq⟩ := completed
    rw [eq]
    exact .quiet quiet

end Steps

namespace Turn

variable {turn after : Turn τ Operation} {ample : Prop} {script : Script} {env : Env}
  {start : Desk τ Operation}

/-- In every turn of the five commands the cache learns of the line that is sent. -/
theorem Due.tells (due : turn.Due ample script) (env : Env) :
    turn.desk.Tells (turn.step env).desk := by
  obtain ⟨budget, below, event, top, desk⟩ := turn
  have begins : desk.Tells { desk with pending := none } :=
    .silent rfl ⟨[], List.forall_mem_nil _, rfl⟩ rfl
  refine begins.trans ?_
  cases due with
  | start event alone steps works =>
      cases event
      exact tells_start env works
  | enter event top under steps works =>
      cases event
      cases top
      exact tells_enter env works.specified
  | entered event top under steps works =>
      cases event
      cases top
      exact tells_entered env
  | returned event alone steps works =>
      cases event
      exact tells_returned _ _ works
  | ready event alone works =>
      cases event
      exact tells_ready env works
  | heard event alone steps works =>
      cases event
      exact tells_heard env works

theorem Follows.tells_next {reports : List (Reply × Local.Store)}
    (follows : turn.Follows good ample start script reports) (tells : start.Tells turn.desk)
    (next : turn.next env = .inr after) : start.Tells after.desk := by
  obtain ⟨due, -, due_, -⟩ := follows
  have stepped : start.Tells (turn.step env).noted := (tells.trans (due_.tells env)).note _ _
  rcases Step.next_eq_inr next with ⟨-, left, -, rfl⟩ | ⟨-, -, -, parent, rest, -, rfl⟩
  · unfold Step.onward
    split
    · exact ⟨stepped.server, stepped.learns⟩
    · exact stepped
  · exact stepped.note _ _

/-- Where the call ends, the cache has learnt of what was sent, and of no more. -/
theorem Follows.learns_ends {reports : List (Reply × Local.Store)} {outcome : Outcome τ Operation}
    (follows : turn.Follows good ample start script reports) (tells : start.Tells turn.desk)
    (concludes : Transport.Concludes good) (fits : turn.Fits good)
    (next : turn.next env = .inl outcome) :
    start.Learns outcome.desk ∧ (outcome.reply = .wouldBlock → start.Tells outcome.desk) := by
  obtain ⟨_, _, leaves, -⟩ := follows.step concludes fits env
  obtain ⟨due, -, due_, -⟩ := follows
  have stepped : start.Tells (turn.step env).noted := (tells.trans (due_.tells env)).note _ _
  rcases Step.next_eq_inl next with ⟨again, spent, rfl⟩ | ⟨stops, child, asked, -⟩ |
    ⟨-, -, rfl⟩ | ⟨-, ends, -, -, rfl⟩
  · -- a directory command that is given up before its line was sent tells the cache nothing
    obtain ⟨-, alone, home, progress, works, idle⟩ := leaves.wanting again spent
    obtain ⟨after, quiet, gaveUp⟩ := giveUp_working works idle env (turn.step env).noted
    have given := stepped.trans (.quiet quiet)
    rw [alone, gaveUp]
    exact ⟨given.learns, fun _ => ⟨given.server, given.learns⟩⟩
  · exact ((fits.sound concludes.neverGoesOn env).asks_nothing stops asked).elim
  · exact ⟨stepped.learns, fun _ => stepped⟩
  · obtain ⟨text, finished⟩ := finish_eq (HasKind.kind (turn.step env).operation)
      (turn.step env).reply (turn.step env).noted
    rw [finished]
    exact ⟨stepped.learns, fun wait => absurd wait ends⟩

end Turn

namespace Engine

variable {start engine : Engine τ Operation} {command : Command} {script : Script}
  {reports : List (Reply × Local.Store)} {reply : Reply}

/-- A call begins without a word to the server or the cache. -/
theorem opening_tells {call : Call} {first : Turn τ Operation}
    (opened : engine.opening call = some first) : engine.desk.Tells first.desk := by
  rcases opening_eq_some opened with ⟨command, operation, rfl, -, rfl⟩ | ⟨top, below, rfl, -, rfl⟩
  · exact .silent rfl ⟨[.started command], by simp [Happening.line?], rfl⟩ rfl
  · exact .silent rfl ⟨[.completed engine.desk.result], by simp [Happening.line?], rfl⟩ rfl

omit [Transport τ] in
theorem DriftsAlone.tells {after : Engine τ Operation} (drifts : engine.DriftsAlone good after) :
    engine.desk.Tells after.desk := by
  obtain ⟨waits, all, past⟩ := drifts.past
  refine .silent (congrArg Session.server drifts.session) ⟨waits, ?_, past⟩ drifts.cache
  intro happening mem
  exact Happening.line?_of_isWait (all happening mem)

/-- A call in the course of a command. -/
theorem learns_make {call : Call} {first : Turn τ Operation} (concludes : Transport.Concludes good)
    (rests : engine.Rests good) (may : engine.MayMake good call)
    (opened : engine.opening call = some first) (tells : start.desk.Tells engine.desk)
    (follows : first.Follows good False start.desk script reports) :
    start.desk.Learns (engine.make call).2.desk ∧
      ((engine.make call).1 = .wouldBlock → start.desk.Tells (engine.make call).2.desk) := by
  rw [make_of_opening opened]
  refine Turn.Fits.rule concludes.neverGoesOn
    (P := fun turn => turn.Follows good False start.desk script reports ∧
      start.desk.Tells turn.desk) ?_
    (Q := fun outcome => start.desk.Learns outcome.desk ∧
      (outcome.reply = .wouldBlock → start.desk.Tells outcome.desk)) ?_
    (rests.opening may opened) ⟨follows, tells.trans (opening_tells opened)⟩
  · rintro turn after fits ⟨follows, tells⟩ next
    exact ⟨follows.next concludes fits next, follows.tells_next tells next⟩
  · rintro turn outcome fits ⟨follows, tells⟩ next
    exact follows.learns_ends tells concludes fits next

/-- The last call in the course of a command: the cache has learnt of what was sent before, and the
call goes by the script. -/
theorem exists_last_call (concludes : Transport.Concludes good) (idle : start.IsIdleOverSftp)
    (transport : good start.desk.transport) (valid : command.valid = true)
    (scripted : Script.ofCommand? start.desk.session.directory command = some script)
    (course : Course (CompletesAlone good) command start reports reply engine) :
    ∃ (before : Engine τ Operation) (call : Call) (first : Turn τ Operation),
      before.make call = (reply, engine) ∧ before.Rests good ∧ before.MayMake good call ∧
        before.opening call = some first ∧ start.desk.Tells before.desk ∧
        first.Follows good False start.desk script reports := by
  -- nothing is assumed of how often operations may go on: who is given up has said nothing
  have drifts (engine after : Engine τ Operation) (alone : engine.CompletesAlone good after) :
      engine.Completes good after ∧ (False → 2 ≤ after.settings.maxContinue.toNat) :=
    ⟨alone.toCompletes, False.elim⟩
  induction course with
  | execute =>
      have rests : start.Rests good := ⟨transport, by rw [idle.stack]; exact .idle⟩
      obtain ⟨first, opened, follows⟩ := follows_opening idle valid False.elim scripted
      exact ⟨start, .execute command, first, rfl, rests, mayMake_execute command, opened, .refl _,
        follows⟩
  | @resume reports engine after course alone ih =>
      obtain ⟨before, call, first, made, rests, may, opened, tells, follows⟩ := ih
      have told := (learns_make concludes rests may opened tells follows).2
      rw [made] at told
      obtain ⟨rests, due, talk, store, played, ⟨-, next, rfl, awaits⟩ | ⟨ended, -⟩⟩ :=
        follows_course concludes idle transport valid False.elim scripted drifts course
      · obtain ⟨first, opened, follows⟩ := follows_resume played awaits alone.toDrifts False.elim
        exact ⟨after, .resume, first, rfl, rests.drifts alone.toDrifts, alone.mayMake .resume,
          opened, (told rfl).trans alone.toDriftsAlone.tells, follows⟩
      · exact absurd rfl ended

/-- In the course of a command the cache learns of the lines that are sent, and of nothing else. -/
theorem learns_course (concludes : Transport.Concludes good) (idle : start.IsIdleOverSftp)
    (transport : good start.desk.transport) (valid : command.valid = true)
    (scripted : Script.ofCommand? start.desk.session.directory command = some script)
    (course : Course (CompletesAlone good) command start reports reply engine) :
    start.desk.Learns engine.desk ∧ (reply = .wouldBlock → start.desk.Tells engine.desk) := by
  obtain ⟨before, call, first, made, rests, may, opened, tells, follows⟩ :=
    exists_last_call concludes idle transport valid scripted course
  have learns := learns_make concludes rests may opened tells follows
  rwa [made] at learns

/-- The journal has the lines as the script does. -/
theorem plays_course (concludes : Transport.Concludes good) (idle : start.IsIdleOverSftp)
    (transport : good start.desk.transport) (valid : command.valid = true)
    (scripted : Script.ofCommand? start.desk.session.directory command = some script)
    (course : Course (CompletesAlone good) command start reports reply engine)
    {since : List Happening} (past : engine.desk.past = since ++ start.desk.past) :
    ∃ talk store rest, Plays start.desk.store script talk store rest ∧
      linesSent since = talk.filterMap Talk.line? := by
  obtain ⟨-, due, talk, store, played, -⟩ :=
    follows_course concludes idle transport valid False.elim scripted
      (fun _ _ alone => ⟨alone.toCompletes, False.elim⟩) course
  obtain ⟨happened, again, talks⟩ := played.past
  obtain rfl := List.append_cancel_right (past.symm.trans again)
  exact ⟨talk, store, due, played.plays, linesSent_of_talk talks⟩

/-- The script has the lines in order. -/
theorem orderly_course (concludes : Transport.Concludes good) (idle : start.IsIdleOverSftp)
    (transport : good start.desk.transport) (valid : command.valid = true)
    (scripted : Script.ofCommand? start.desk.session.directory command = some script)
    (course : Course (CompletesAlone good) command start reports reply engine)
    {since : List Happening} (past : engine.desk.past = since ++ start.desk.past) :
    (linesSent since).Pairwise WireLine.Precedes := by
  obtain ⟨talk, store, rest, plays, lines⟩ :=
    plays_course concludes idle transport valid scripted course past
  rw [lines]
  exact plays.orderly (Script.ofCommand?_orderly scripted)

/-- What the lines of a command make of a listing from which one of them takes an entry: it is in
doubt exactly if the line unsettles its directory, or if something was in doubt before that neither
this line nor a later one takes. How the lines end makes no difference. -/
theorem listing_doubted_iff (conforms : Transport.Conforms good) (idle : start.IsIdleOverSftp)
    (transport : good start.desk.transport) (valid : command.valid = true)
    (scripted : Script.ofCommand? start.desk.session.directory command = some script)
    (course : Course (CompletesAlone good) command start reports reply engine) :
    ∃ since, engine.desk.past = since ++ start.desk.past ∧
      engine.desk.cache = start.desk.cache.told start.desk.session.server (linesSent since) ∧
      ∀ before line after object server listing,
        linesSent since = before ++ line :: after → line.taken? = some object →
        start.desk.session.server = some server →
        (start.desk.cache.told (some server) before).lookup server object.directory =
          some listing →
        ((∀ left, engine.desk.cache.lookup server object.directory = some left →
            left.hasUnsure = true) ↔
          line.unsettles = true ∨
            ∃ entry ∈ (line :: after).foldl WireLine.strike listing.entries,
              entry.freshness ≠ .known) := by
  obtain ⟨⟨since, past, cache⟩, -⟩ :=
    learns_course conforms.concludes idle transport valid scripted course
  refine ⟨since, past, cache, ?_⟩
  intro before line after object server listing lines takes ours cached
  have follow : ∀ next ∈ after, line.Precedes next := by
    have orderly := orderly_course conforms.concludes idle transport valid scripted course past
    rw [lines] at orderly
    exact (List.pairwise_cons.1 (List.pairwise_append.1 orderly).2.1).1
  have now : engine.desk.cache =
      (start.desk.cache.told (some server) before).told (some server) (line :: after) := by
    rw [cache, ours, lines]
    exact List.foldl_append ..
  rw [now]
  by_cases unsettled : line.unsettles = true
  · -- the line was the last, so nothing else has been made of the listing
    have last : after = [] := by
      refine List.eq_nil_iff_forall_not_mem.2 ?_
      intro next mem
      obtain ⟨rfl, -⟩ := follow next mem object takes
      cases unsettled
    rw [last]
    constructor
    · intro _
      exact .inl unsettled
    · intro _ left found
      exact WireLine.doubted_foretold takes unsettled found
  · -- what is left of the listing is what the lines have not struck
    have settled : line.unsettles = false := by simpa using unsettled
    rw [WireLine.lookup_told takes settled follow cached]
    simp [settled, Listing.hasUnsure]

/-! ## A file that could not be removed -/

/-- A session that knows two files in the root. -/
def stocked : Engine Scripted Operation :=
  (rehearsed (({} : DirectoryCache).store stage
    ⟨.root, [.file "a" 1, .file "keep" 3], 0⟩)).after connecting

/-- The outstanding request has failed. -/
def failing (engine : Engine Scripted Operation) : Engine Scripted Operation :=
  { engine with desk := { engine.desk with
    transport := { engine.desk.transport with lastResult := .error } } }

/-- The root was entered, but the file in it could not be removed. -/
def failedRemoval : Engine Scripted Operation :=
  (stocked.after [.execute (.delete ⟨.root, ["a"]⟩), .resume]).failing.resume.2

theorem stocked_idle : stocked.IsIdleOverSftp :=
  ⟨List.isEmpty_iff.1 (by decide +kernel), by decide +kernel, stage, by decide +kernel, rfl⟩

theorem conforming_of_reachable {engine : Engine Scripted Operation}
    (run : engine.Reachable Scripted.IsConforming) : Scripted.IsConforming engine.desk.transport :=
  (rests_of_reachable Scripted.conforms.neverGoesOn run).transport

theorem failing_completes {engine : Engine Scripted Operation}
    (kept : Scripted.IsConforming engine.desk.transport) :
    engine.CompletesAlone Scripted.IsConforming engine.failing :=
  reporting_completesAlone kept ⟨by decide, by decide⟩

theorem failedRemoval_course : ∃ reports,
    stocked.Course (CompletesAlone Scripted.IsConforming) (.delete ⟨.root, ["a"]⟩) reports .error
      failedRemoval ∧ reports.map Prod.fst = [.ok, .error] := by
  have run : stocked.Reachable Scripted.IsConforming := conforming_reachable _ connecting
  have removing := run.call (.execute (.delete ⟨.root, ["a"]⟩)) (mayMake_execute _)
  have sent : stocked.Course (CompletesAlone Scripted.IsConforming) (.delete ⟨.root, ["a"]⟩) []
      .wouldBlock (stocked.execute (.delete ⟨.root, ["a"]⟩)).2 := by
    have wait : (stocked.execute (.delete ⟨.root, ["a"]⟩)).1 = .wouldBlock := by decide +kernel
    exact wait ▸ .execute
  have entered := sent.resume ⟨⟨.refl (conforming_of_reachable removing), rfl⟩, trivial⟩
  rw [show (stocked.execute (.delete ⟨.root, ["a"]⟩)).2.resume.1 = .wouldBlock by
    decide +kernel] at entered
  have failed := entered.resume
    (failing_completes (conforming_of_reachable (removing.call .resume fun _ _ => trivial)))
  rw [show (failing (stocked.execute (.delete ⟨.root, ["a"]⟩)).2.resume.2).resume.1 = .error by
    decide +kernel] at failed
  exact ⟨_, failed, by decide +kernel⟩

theorem failedRemoval_lines :
    linesSent failedRemoval.desk.past = [.changeDir .root, .remove ⟨.root, .bare, "a"⟩] := by
  decide +kernel

/-- A listing without the file, which is still there, is trusted. -/
theorem failedRemoval_trusted :
    ∃ reports listing left,
      stocked.Course (CompletesAlone Scripted.IsConforming) (.delete ⟨.root, ["a"]⟩) reports .error
        failedRemoval ∧
      reports.map Prod.fst = [.ok, .error] ∧
      linesSent failedRemoval.desk.past = [.changeDir .root, .remove ⟨.root, .bare, "a"⟩] ∧
      stocked.desk.cache.lookup stage .root = some listing ∧ (listing.find? "a").isSome = true ∧
      failedRemoval.desk.cache.lookup stage .root = some left ∧ left.find? "a" = none ∧
      left.hasUnsure = false ∧ (failedRemoval.execute (.list { path := .root })).1 = .ok := by
  obtain ⟨reports, course, replies⟩ := failedRemoval_course
  refine ⟨reports, ⟨.root, [.file "a" 1, .file "keep" 3], 0⟩, ⟨.root, [.file "keep" 3], 0⟩, course,
    replies, failedRemoval_lines, ?_, ?_, ?_, ?_, ?_, ?_⟩
  · decide +kernel
  · decide
  · decide +kernel
  · decide
  · decide
  · decide +kernel

/-- Nothing else was in doubt there. -/
theorem listing_doubted_iff_failedRemoval :
    (∀ left, failedRemoval.desk.cache.lookup stage .root = some left → left.hasUnsure = true) ↔
      ∃ entry ∈ [Entry.file "keep" 3], entry.freshness ≠ .known := by
  obtain ⟨reports, course, -⟩ := failedRemoval_course
  have run : stocked.Reachable Scripted.IsConforming := conforming_reachable _ connecting
  obtain ⟨since, past, -, doubted⟩ := listing_doubted_iff Scripted.conforms stocked_idle
    (conforming_of_reachable run) (by decide +kernel) rfl course
  have before : linesSent stocked.desk.past = [] := by decide +kernel
  have lines := failedRemoval_lines
  rw [past, linesSent_append, before, List.nil_append] at lines
  have iff := doubted [.changeDir .root] (.remove ⟨.root, .bare, "a"⟩) [] ⟨.root, .bare, "a"⟩ stage
    ⟨.root, [.file "a" 1, .file "keep" 3], 0⟩ lines rfl (by decide +kernel) (by decide +kernel)
  exact iff.trans (or_iff_right (by decide))

end Engine

end Courier
