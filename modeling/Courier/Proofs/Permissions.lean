import Courier.Proofs.GivingUp
import Courier.Proofs.Removals

/-!
# What a change of permissions leaves in the cache

The cache is told of the line before it is sent, and told again if the command is given up while the
line is out. Both times the entry of the object is set to be a file, so a change of permissions
leaves a listing as it was, but for how far that entry is trusted, exactly as long as the line was
not sent or the object was not cached as a directory.
-/

namespace Courier

open RemotePath (Naming)

variable {τ : Type} [Transport τ] {good : Transport.States τ}

/-! ## An entry set twice -/

/-- What an entry was set to first makes no difference. -/
theorem Entry.update_update (name : String) (first isDir : Bool) (before freshness : Freshness)
    (entries : List Entry) :
    update name isDir freshness (update name first before entries) =
      update name isDir freshness entries := by
  induction entries with
  | nil => simp [update]
  | cons entry rest ih =>
      by_cases here : entry.name = name
      · simp [update, here]
      · simp [update, here, ih]

theorem DirectoryCache.updateEntry_updateEntry (cache : DirectoryCache) (server : Server)
    (path : RemotePath) (name : String) (first isDir : Bool) (before freshness : Freshness) :
    (cache.updateEntry server path name first before).updateEntry server path name isDir freshness =
      cache.updateEntry server path name isDir freshness := by
  unfold updateEntry modify
  congr 1
  rw [List.map_map]
  refine List.map_congr_left ?_
  intro slot _
  by_cases here : slot.server = server ∧ slot.path = path
  · simp [here, Entry.update_update]
  · simp [here]

/-! ## What is touched of a listing -/

namespace Entry

/-- Nothing but how far the entry is trusted has changed. -/
def IsButForFreshness (entry now : Entry) : Prop :=
  now = { entry with freshness := now.freshness }

/-- Nothing but that and whether it is a directory has changed. -/
def IsButForKind (entry now : Entry) : Prop :=
  now = { entry with isDir := now.isDir, freshness := now.freshness }

/-- Between these entries no more has changed than what `may` allows of the first one of this name,
or that there was none and one was added. -/
inductive Retouched (may : Entry → Entry → Prop) (name : String) : List Entry → List Entry → Prop
  | same (entries : List Entry) : Retouched may name entries entries
  | marked (front back : List Entry) {entry now : Entry}
      (first : ∀ other ∈ front, other.name ≠ name) (named : entry.name = name)
      (changes : may entry now) :
      Retouched may name (front ++ entry :: back) (front ++ now :: back)
  | added {entries : List Entry} {now : Entry} (absent : ∀ other ∈ entries, other.name ≠ name)
      (named : now.name = name) : Retouched may name entries (entries ++ [now])

section

variable {may : Entry → Entry → Prop} {name : String} {entries after : List Entry} {entry : Entry}
  {isDir : Bool} {freshness : Freshness}

theorem Retouched.cons (retouched : Retouched may name entries after) (other : entry.name ≠ name) :
    Retouched may name (entry :: entries) (entry :: after) := by
  cases retouched with
  | same => exact .same _
  | marked front back first named changes =>
      exact .marked (entry :: front) back (List.forall_mem_cons.2 ⟨other, first⟩) named changes
  | added absent named => exact .added (List.forall_mem_cons.2 ⟨other, absent⟩) named

theorem update_retouched
    (changes : ∀ entry, entries.find? (·.name == name) = some entry →
      may entry { entry with isDir, freshness }) :
    Retouched may name entries (update name isDir freshness entries) := by
  induction entries with
  | nil => exact .added (List.forall_mem_nil _) rfl
  | cons entry rest ih =>
      by_cases here : entry.name = name
      · rw [update, if_pos here]
        exact .marked [] rest (List.forall_mem_nil _) here (changes entry (by simp [here]))
      · rw [update, if_neg here]
        refine (ih ?_).cons here
        intro marked found
        exact changes marked (by simpa [here] using found)

/-- The first entry of the name is still of the same kind. -/
theorem Retouched.isDir_eq {now : Entry}
    (retouched : Retouched IsButForFreshness name entries after)
    (found : entries.find? (·.name == name) = some entry)
    (left : after.find? (·.name == name) = some now) : now.isDir = entry.isDir := by
  cases retouched with
  | same =>
      obtain rfl := Option.some.inj (found.symm.trans left)
      rfl
  | @marked front back _ changed first named changes =>
      have past (rest : List Entry) : (front ++ rest).find? (·.name == name) =
          rest.find? (·.name == name) := by
        rw [List.find?_append, List.find?_eq_none.2 (by simpa using first), Option.none_or]
      have kept : changed.name = name := (congrArg Entry.name changes).trans named
      rw [past, List.find?_cons_of_pos (by simpa using named)] at found
      rw [past, List.find?_cons_of_pos (by simpa using kept)] at left
      obtain ⟨rfl, rfl⟩ := And.intro (Option.some.inj found) (Option.some.inj left)
      rw [IsButForFreshness] at changes
      rw [changes]
  | added absent named =>
      rw [List.find?_eq_none.2 (by simpa using absent)] at found
      cases found

/-- An update leaves all but the trust in the entry as it was exactly if the entry was already of
the kind it is set to. -/
theorem update_retouched_iff :
    Retouched IsButForFreshness name entries (update name isDir freshness entries) ↔
      ∀ entry, entries.find? (·.name == name) = some entry → entry.isDir = isDir := by
  constructor
  · intro retouched entry found
    obtain ⟨now, left, rfl, -⟩ := find?_update name isDir freshness entries
    exact (retouched.isDir_eq found left).symm
  · intro same
    refine update_retouched ?_
    intro entry found
    obtain rfl := same entry found
    rfl

end

end Entry

namespace DirectoryCache

variable {may : Entry → Entry → Prop} {cache : DirectoryCache} {server : Server}
  {path : RemotePath} {name : String} {isDir : Bool} {freshness : Freshness}

/-- Between these caches no listing but this one has changed, and of this one no more than what
`may` allows of the entry of this name, or that this entry was added. -/
def Retouched (may : Entry → Entry → Prop) (server : Server) (path : RemotePath) (name : String)
    (cache after : DirectoryCache) : Prop :=
  ∀ other place, after.lookup other place = cache.lookup other place ∨
    other = server ∧ place = path ∧ ∃ listing entries, cache.lookup server path = some listing ∧
      Entry.Retouched may name listing.entries entries ∧
        after.lookup server path = some { listing with entries }

theorem Retouched.refl (cache : DirectoryCache) : cache.Retouched may server path name cache :=
  fun _ _ => .inl rfl

theorem lookup_updateEntry (cache : DirectoryCache) (server : Server) (path : RemotePath)
    (name : String) (isDir : Bool) (freshness : Freshness) :
    (cache.updateEntry server path name isDir freshness).lookup server path =
      (cache.lookup server path).map fun listing =>
        { listing with entries := Entry.update name isDir freshness listing.entries } := by
  rw [updateEntry, lookup_modify, if_pos ⟨rfl, rfl⟩]

theorem updateEntry_retouched
    (changes : ∀ listing, cache.lookup server path = some listing →
      Entry.Retouched may name listing.entries
        (Entry.update name isDir freshness listing.entries)) :
    cache.Retouched may server path name
      (cache.updateEntry server path name isDir freshness) := by
  intro other place
  by_cases here : server = other ∧ path = place
  · obtain ⟨rfl, rfl⟩ := here
    rw [lookup_updateEntry]
    cases cached : cache.lookup server path with
    | none => exact .inl rfl
    | some listing => exact .inr ⟨rfl, rfl, listing, _, rfl, changes listing cached, rfl⟩
  · rw [updateEntry, lookup_modify, if_neg here]
    exact .inl rfl

theorem updateEntry_retouched_iff :
    cache.Retouched Entry.IsButForFreshness server path name
        (cache.updateEntry server path name isDir freshness) ↔
      ∀ listing entry, cache.lookup server path = some listing →
        listing.find? name = some entry → entry.isDir = isDir := by
  constructor
  · intro retouched listing entry cached found
    suffices changed : Entry.Retouched Entry.IsButForFreshness name listing.entries
        (Entry.update name isDir freshness listing.entries) from
      Entry.update_retouched_iff.1 changed entry found
    have now := lookup_updateEntry cache server path name isDir freshness
    rw [cached, Option.map_some] at now
    rcases retouched server path with same | ⟨-, -, known, entries, before, changed, after⟩
    · rw [now, cached] at same
      have same := congrArg Listing.entries (Option.some.inj same)
      change Entry.update name isDir freshness listing.entries = listing.entries at same
      rw [same]
      exact .same _
    · obtain rfl := Option.some.inj (cached.symm.trans before)
      have same := congrArg Listing.entries (Option.some.inj (now.symm.trans after))
      change Entry.update name isDir freshness listing.entries = entries at same
      rw [same]
      exact changed
  · intro same
    refine updateEntry_retouched ?_
    intro listing cached
    exact Entry.update_retouched_iff.2 fun entry found => same listing entry cached found

end DirectoryCache

/-! ## What is out was said -/

/-- The line was sent since `start`. -/
def Desk.SaidSince (start : Desk τ Operation) (line : WireLine) (desk : Desk τ Operation) : Prop :=
  ∃ since, desk.past = since ++ start.past ∧ line ∈ linesSent since

omit [Transport τ] in
theorem Desk.SaidSince.later {start desk after : Desk τ Operation} {line : WireLine}
    (said : start.SaidSince line desk) (happened : List Happening)
    (past : after.past = happened ++ desk.past) : start.SaidSince line after := by
  obtain ⟨since, earlier, mem⟩ := said
  refine ⟨happened ++ since, by rw [past, earlier, List.append_assoc], ?_⟩
  rw [linesSent_append]
  exact List.mem_append_left _ mem

/-- The topmost operation waits for a line that was sent since `start`. -/
def Desk.Pends (start desk : Desk τ Operation) (stack : List Operation) : Prop :=
  ∃ top below line, stack = top :: below ∧ top.line? = some line ∧ start.SaidSince line desk

section Steps

variable {desk : Desk τ Operation} {operation : Operation} {home : RemotePath} {naming : Naming}

/-- A line that is sent is out if it is not answered at once. -/
theorem Desk.Prepares.saidSince {line : WireLine} {before : Desk τ Operation}
    (prepares : desk.Prepares line before) (operation : Operation) :
    desk.SaidSince line (before.send line operation).desk := by
  obtain ⟨tellings, -, past⟩ := prepares.tells
  refine ⟨.sent line (before.lineText line)
    (Transport.send before.transport (before.lineText line)).1 :: tellings, ?_, ?_⟩
  · rw [Desk.send_past, past]
    rfl
  · rw [← List.singleton_append, linesSent_append]
    exact List.mem_append_right _ List.mem_cons_self

theorem pends_enter (env : Env) (specified : home.isUnspecified = false)
    (wait : ((Operation.changeDir { path := home }).send env desk).reply = .wouldBlock) :
    ∃ line, ((Operation.changeDir { path := home }).send env desk).operation.line? = some line ∧
      desk.SaidSince line ((Operation.changeDir { path := home }).send env desk).desk := by
  revert wait
  simp only [Operation.send, ChangeDirTask.send, specified, Bool.false_eq_true, if_false]
  split
  · intro wait
    exact absurd wait Reply.ok_ne_wouldBlock
  · intro _
    let left := { desk with session := { desk.session with directory := none } }
    have prepares : left.Prepares (.changeDir home) left := .refl left rfl
    exact ⟨.changeDir home, rfl, prepares.saidSince _⟩

theorem pends_ready (env : Env) (works : operation.WorksIn home (.ready naming))
    (wait : (operation.send env desk).reply = .wouldBlock) :
    ∃ line, (operation.send env desk).operation.line? = some line ∧
      desk.SaidSince line (operation.send env desk).desk := by
  have ready := Operation.send_ready desk env works.state
  split at ready
  · rename_i reply next
    obtain ⟨after, -, sent⟩ := ready
    rw [sent] at wait
    exact absurd wait (Operation.next_inl next).2
  · rename_i line next
    obtain ⟨before, out, prepares, same, sent⟩ := ready
    rw [sent]
    refine ⟨line, ?_, prepares.saidSince out⟩
    exact (same.line?.trans (Operation.line?_withProgress works.place (.waiting naming))).trans
      (Operation.lineNaming?_of_next next)
  · exact ready.elim

/-- Who has heard how its line ended does not wait for it any more. -/
theorem heard_ne_wouldBlock (concludes : Transport.Concludes good) (transport : good desk.transport)
    (reported : good.reports desk.transport) (env : Env)
    (works : operation.WorksIn home (.waiting naming)) :
    (operation.completed env desk).reply ≠ .wouldBlock := by
  have completed := Operation.completed_waiting desk env works.state
  split at completed
  · rename_i reply ended
    obtain ⟨after, out, -, -, eq⟩ := completed
    obtain rfl := Operation.after_inl ended
    rw [eq]
    exact (concludes.result _ transport reported).1
  · obtain ⟨after, -, eq⟩ := completed
    rw [eq]
    exact Reply.again_ne_wouldBlock

end Steps

namespace Turn

variable {turn after : Turn τ Operation} {ample : Prop} {script : Script}
  {start : Desk τ Operation} {reports : List (Reply × Local.Store)} {env : Env}

/-- An operation that waits has just sent the line it waits for. -/
theorem Due.pends (due : turn.Due ample script) (concludes : Transport.Concludes good)
    (transport : good turn.desk.transport)
    (reported : good.Allows turn.event turn.desk.transport) (env : Env)
    (wait : (turn.step env).reply = .wouldBlock) :
    ∃ line, (turn.step env).operation.line? = some line ∧
      turn.desk.SaidSince line (turn.step env).desk := by
  obtain ⟨budget, below, event, top, desk⟩ := turn
  let begun : Desk τ Operation := { desk with pending := none }
  cases due with
  | start event alone steps works =>
      cases event
      obtain ⟨path, after, -, -, sent⟩ := Operation.send_start begun env works.state
      have again : (top.send env begun).reply = .again := by rw [sent]
      exact absurd (again.symm.trans wait) Reply.again_ne_wouldBlock
  | enter event top under steps works =>
      cases event
      cases top
      exact pends_enter env works.specified wait
  | entered event top under steps works =>
      cases event
      cases top
      exact absurd wait (concludes.result _ transport (reported rfl)).1
  | @returned _ reply finished event alone steps works =>
      cases event
      obtain ⟨after, -, eq⟩ := Operation.returned_entering begun reply finished works.state
      have again : (Operation.returned reply finished top begun).reply = .again := by rw [eq]
      exact absurd (again.symm.trans wait) Reply.again_ne_wouldBlock
  | ready event alone works =>
      cases event
      exact pends_ready env works wait
  | heard event alone steps works =>
      cases event
      have kept : good begun.transport := transport
      exact absurd wait (heard_ne_wouldBlock concludes kept (reported rfl) env works)

/-- Where the call ends with an operation that waits, what it waits for was sent since `start`. -/
theorem Follows.pends_ends {outcome : Outcome τ Operation}
    (follows : turn.Follows good ample start script reports) (tells : start.Tells turn.desk)
    (concludes : Transport.Concludes good) (fits : turn.Fits good)
    (next : turn.next env = .inl outcome) (wait : outcome.reply = .wouldBlock) :
    start.Pends outcome.desk outcome.stack := by
  obtain ⟨due, -, due_, -⟩ := follows
  rcases Step.next_eq_inl next with ⟨-, -, rfl⟩ | ⟨-, child, -, rfl⟩ | ⟨waits, -, rfl⟩ |
    ⟨-, ends, -, -, rfl⟩
  · exact absurd wait Reply.internalError_ne_wouldBlock
  · exact absurd wait Reply.internalError_ne_wouldBlock
  · obtain ⟨line, out, since, past, said⟩ :=
      due_.pends concludes fits.transport fits.reported env waits
    obtain ⟨happened, earlier, -⟩ := tells.learns
    refine ⟨_, _, line, rfl, out, since ++ happened, ?_, ?_⟩
    · rw [List.append_assoc, ← earlier]
      exact past
    · rw [linesSent_append]
      exact List.mem_append_right _ said
  · exact absurd wait ends

end Turn

/-- From `start` to `desk` these lines were sent. The cache has learnt of them, and if the command
was given up, what the line that was out is about was put in doubt. -/
structure Desk.Learnt (start desk : Desk τ Operation) (server : Server) (lines : List WireLine) :
    Prop where
  past : ∃ since, desk.past = since ++ start.past ∧ linesSent since = lines
  cache : desk.cache = start.cache.told (some server) lines ∨
    ∃ line ∈ lines, desk.cache =
      line.doubts.foldl (fun cache call => (cache.perform (call server)).2)
        (start.cache.told (some server) lines)

section Learnt

variable {start desk : Desk τ Operation} {stack : List Operation} {server : Server}
  {lines : List WireLine} {since : List Happening}

theorem Desk.Learnt.abort (learnt : start.Learnt desk server lines) :
    start.Learnt desk.abort server lines := by
  obtain ⟨⟨since, past, rfl⟩, cache⟩ := learnt
  refine ⟨⟨.aborted :: since, ?_, ?_⟩, cache⟩
  · exact congrArg (Happening.aborted :: ·) past
  · rw [← List.singleton_append, linesSent_append]
    exact List.append_nil _

/-- Giving up what waits for a line puts in doubt what the line is about. -/
theorem Desk.Tells.learnt_abandon (tells : start.Tells desk) (env : Env) (form : StackForm stack)
    (pends : start.Pends desk stack) (ours : start.session.server = some server)
    (past : desk.past = since ++ start.past) :
    start.Learnt (abandon env stack desk) server (linesSent since) := by
  obtain ⟨top, below, line, rfl, out, again, earlier, said⟩ := pends
  obtain rfl := List.append_cancel_right (past.symm.trans earlier)
  obtain ⟨happened, again, cache⟩ := tells.learns
  obtain rfl := List.append_cancel_right (past.symm.trans again)
  obtain ⟨doubts, all, later⟩ := Engine.abandon_past env (top :: below) desk
  refine ⟨⟨doubts ++ since, by rw [later, past, List.append_assoc], ?_⟩, .inr ⟨line, said, ?_⟩⟩
  · have silent : linesSent doubts = [] := by
      refine linesSent_eq_nil ?_
      intro happening mem
      exact Happening.line?_of_isDoubt (all happening mem)
    rw [linesSent_append, silent, List.append_nil]
  · have idle : ∀ operation ∈ below, operation.line? = none := by
      intro operation mem
      exact form.line?_of_mem mem
    have same : (abandon env (top :: below) desk).cache = (desk.tellAll line.doubts).cache := by
      rw [abandon_eq env idle desk top, out]
      split <;> rfl
    rw [same, desk.tellAll_cache line.doubts (tells.server.trans ours), cache, ours]

end Learnt

namespace Engine

variable {start engine after : Engine τ Operation} {command : Command} {script : Script}
  {reports : List (Reply × Local.Store)} {reply : Reply}

theorem pends_make {call : Call} {first : Turn τ Operation} (concludes : Transport.Concludes good)
    (rests : engine.Rests good) (may : engine.MayMake good call)
    (opened : engine.opening call = some first) (tells : start.desk.Tells engine.desk)
    (follows : first.Follows good False start.desk script reports)
    (wait : (engine.make call).1 = .wouldBlock) :
    start.desk.Pends (engine.make call).2.desk (engine.make call).2.stack := by
  revert wait
  rw [make_of_opening opened]
  refine Turn.Fits.rule concludes.neverGoesOn
    (P := fun turn => turn.Follows good False start.desk script reports ∧
      start.desk.Tells turn.desk) ?_
    (Q := fun outcome => outcome.reply = .wouldBlock →
      start.desk.Pends outcome.desk outcome.stack) ?_
    (rests.opening may opened) ⟨follows, tells.trans (opening_tells opened)⟩
  · rintro turn after fits ⟨follows, tells⟩ next
    exact ⟨follows.next concludes fits next, follows.tells_next tells next⟩
  · rintro turn outcome fits ⟨follows, tells⟩ next
    exact follows.pends_ends tells concludes fits next

/-- Whatever a command that has a script waits for was sent in its course. -/
theorem pends_course (concludes : Transport.Concludes good) (idle : start.IsIdleOverSftp)
    (transport : good start.desk.transport) (valid : command.valid = true)
    (scripted : Script.ofCommand? start.desk.session.directory command = some script)
    (course : Course (CompletesAlone good) command start reports reply engine)
    (wait : reply = .wouldBlock) : start.desk.Pends engine.desk engine.stack := by
  obtain ⟨before, call, first, made, rests, may, opened, tells, follows⟩ :=
    exists_last_call concludes idle transport valid scripted course
  have pends := pends_make concludes rests may opened tells follows
  rw [made] at pends
  exact pends wait

/-! ## Commands carried on or given up -/

/-- A command in progress, ended, canceled while it waited, or interrupted then by the loss of the
connection. Nobody else uses the directory cache in the meantime. -/
inductive Pursuit (good : Transport.States τ) (command : Command) (start : Engine τ Operation) :
    Engine τ Operation → Prop
  | course {reports : List (Reply × Local.Store)} {reply : Reply} {engine : Engine τ Operation}
      (course : start.Course (CompletesAlone good) command reports reply engine) :
      Pursuit good command start engine
  | canceled {reports : List (Reply × Local.Store)} {engine after : Engine τ Operation}
      (course : start.Course (CompletesAlone good) command reports .wouldBlock engine)
      (drifts : engine.DriftsAlone good after) : Pursuit good command start after.cancel.2
  | lost {reports : List (Reply × Local.Store)} {engine after : Engine τ Operation}
      (course : start.Course (CompletesAlone good) command reports .wouldBlock engine)
      (drifts : engine.DriftsAlone good after) : Pursuit good command start after.connectionLost.2

omit [Transport τ] in
/-- Until the next call the operations wait for the same. -/
theorem DriftsAlone.pends {start : Desk τ Operation} (drifts : engine.DriftsAlone good after)
    (pends : start.Pends engine.desk engine.stack) : start.Pends after.desk after.stack := by
  obtain ⟨top, below, line, stack, out, said⟩ := pends
  obtain ⟨waits, -, past⟩ := drifts.past
  have kept := said.later waits past
  rcases drifts.stack with same | ⟨first, rest, channel, before, -, now⟩
  · exact ⟨top, below, line, same.trans stack, out, kept⟩
  · obtain ⟨rfl, rfl⟩ := List.cons.inj (stack.symm.trans before)
    exact ⟨_, below, line, now, (Operation.line?_withChannel channel).trans out, kept⟩

/-- In the course of a command the lines of its script are sent. -/
theorem sends_course {allowed : WireLine → Prop} {since : List Happening}
    (concludes : Transport.Concludes good) (idle : start.IsIdleOverSftp)
    (transport : good start.desk.transport) (valid : command.valid = true)
    (scripted : Script.ofCommand? start.desk.session.directory command = some script)
    (course : Course (CompletesAlone good) command start reports reply engine)
    (sends : script.Sends allowed) (past : engine.desk.past = since ++ start.desk.past) :
    ∀ line ∈ linesSent since, allowed line := by
  obtain ⟨talk, store, rest, plays, lines⟩ :=
    plays_course concludes idle transport valid scripted course past
  rw [lines]
  exact plays.sends sends

/-- A command that is refused is not in progress afterwards. -/
theorem Pursuit.accepted_or_refused (pursuit : Pursuit good command start engine) :
    (∃ operation, start.accept command = .ok operation) ∨
      engine.desk.past = start.desk.past ∧ engine.desk.cache = start.desk.cache := by
  have accepted {reports : List (Reply × Local.Store)} {engine : Engine τ Operation}
      (course : start.Course (CompletesAlone good) command reports .wouldBlock engine) :
      ∃ operation, start.accept command = .ok operation := by
    rcases course.accepted_or_refused with accepted | ⟨failed, -⟩
    · exact accepted
    · exact absurd failed (by decide)
  cases pursuit with
  | course course => exact course.accepted_or_refused.imp_right And.right
  | canceled course => exact .inl (accepted course)
  | lost course => exact .inl (accepted course)

section Learnt

variable {allowed : WireLine → Prop} {server : Server} (concludes : Transport.Concludes good)
  (idle : start.IsIdleOverSftp) (ours : start.desk.session.server = some server)
  (transport : good start.desk.transport) (valid : command.valid = true)
  (scripted : Script.ofCommand? start.desk.session.directory command = some script)
  (sends : script.Sends allowed)

include concludes idle ours transport valid scripted sends

/-- What a command that has a script leaves behind when it is given up, whatever the cause. -/
theorem learnt_givenUp
    (course : Course (CompletesAlone good) command start reports .wouldBlock engine)
    (drifts : engine.DriftsAlone good after) (cause : Happening) (silent : cause.line? = none)
    (level : LogLevel) (text : String) :
    after.isBusy = true ∧ ∃ lines, (∀ line ∈ lines, allowed line) ∧ start.desk.Learnt
      (abandon after.env after.stack ((after.desk.record cause).note level text)) server lines := by
  have rests := (follows_course concludes idle transport valid False.elim scripted
    (fun _ _ alone => ⟨alone.toCompletes, False.elim⟩) course).1
  have form := (rests.drifts drifts.toDrifts).form
  have pends := drifts.pends (pends_course concludes idle transport valid scripted course rfl)
  have tells := (learns_course concludes idle transport valid scripted course).2 rfl
  obtain ⟨happened, earlier, -⟩ := tells.learns
  obtain ⟨waits, all, later⟩ := drifts.past
  -- nothing is said between the last call and the cause
  have quiet : ∀ happening ∈ cause :: waits, happening.line? = none := by
    refine List.forall_mem_cons.2 ⟨silent, ?_⟩
    intro happening mem
    exact Happening.line?_of_isWait (all happening mem)
  let told := (after.desk.record cause).note level text
  have past : told.past = (cause :: waits) ++ engine.desk.past := congrArg (cause :: ·) later
  have interrupted : engine.desk.Tells told :=
    .silent (congrArg Session.server drifts.session) ⟨_, quiet, past⟩ drifts.cache
  have left : told.past = (cause :: waits ++ happened) ++ start.desk.past := by
    rw [past, earlier, List.append_assoc]
  have out : start.desk.Pends told after.stack := by
    obtain ⟨top, below, line, stack, out, said⟩ := pends
    exact ⟨top, below, line, stack, out, said.later [cause] rfl⟩
  refine ⟨?_, _, ?_, (tells.trans interrupted).learnt_abandon after.env form out ours left⟩
  · obtain ⟨top, below, line, stack, -⟩ := pends
    simp [isBusy, stack]
  · rw [linesSent_append, linesSent_eq_nil quiet, List.append_nil]
    exact sends_course concludes idle transport valid scripted course sends earlier

/-- However a command that has a script goes on or is given up, the cache knows the lines that were
sent, and of one of them, at most, that nobody will hear how it ended. -/
theorem Pursuit.learnt (pursuit : Pursuit good command start engine) :
    ∃ lines, (∀ line ∈ lines, allowed line) ∧ start.desk.Learnt engine.desk server lines := by
  cases pursuit with
  | course course =>
      obtain ⟨⟨since, past, cache⟩, -⟩ :=
        learns_course concludes idle transport valid scripted course
      refine ⟨linesSent since, ?_, ⟨since, past, rfl⟩, .inl (ours ▸ cache)⟩
      exact sends_course concludes idle transport valid scripted course sends past
  | canceled course drifts =>
      obtain ⟨busy, lines, all, learnt⟩ := learnt_givenUp concludes idle ours transport valid
        scripted sends course drifts .canceled rfl .info "Command canceled"
      unfold cancel
      rw [if_pos busy]
      exact ⟨lines, all, learnt.abort⟩
  | lost course drifts =>
      obtain ⟨busy, lines, all, learnt⟩ := learnt_givenUp concludes idle ours transport valid
        scripted sends course drifts .connectionLost rfl .warn
        "connection lost while a command was in progress"
      unfold connectionLost
      rw [if_pos busy]
      exact ⟨lines, all, learnt.past, learnt.cache⟩

end Learnt

end Engine

/-! ## Changes of permissions -/

namespace ChmodRequest

variable {request : ChmodRequest} {server : Server} {lines : List WireLine}

/-- The line enters the directory or changes the permissions there. -/
def Says (request : ChmodRequest) (line : WireLine) : Prop :=
  line = .changeDir request.path ∨ (Command.chmod request).Says line

theorem sends (request : ChmodRequest) (current : Option RemotePath) :
    (Script.enter current request.path fun naming =>
      .line (.chmod request.permission ⟨request.path, naming, request.file⟩)).Sends
        request.Says := by
  have line (naming : Naming) :
      (Script.line (.chmod request.permission ⟨request.path, naming, request.file⟩)).Sends
        request.Says :=
    Script.ask_sends (.inr ⟨naming, rfl⟩) (fun _ => trivial) fun _ => trivial
  by_cases here : current = some request.path
  · rw [Script.enter_here here]
    exact line .bare
  · rw [Script.enter_elsewhere here]
    exact Script.ask_sends (.inl rfl) (fun _ => line _) fun _ => line _

/-- What the cache makes of such lines. -/
theorem told_eq (own : ∀ line ∈ lines, request.Says line) (cache : DirectoryCache) :
    ((∀ line ∈ lines, line.isMutating = false) ∧ cache.told (some server) lines = cache) ∨
      (∃ line ∈ lines, line.isMutating = true) ∧ cache.told (some server) lines =
        cache.updateEntry server request.path request.file false .unknown := by
  induction lines generalizing cache with
  | nil => exact .inl ⟨List.forall_mem_nil _, rfl⟩
  | cons line rest ih =>
      obtain ⟨first, others⟩ := List.forall_mem_cons.1 own
      rcases first with rfl | ⟨naming, rfl⟩
      · -- a change of directory is nothing the cache is told of
        rcases ih others cache with ⟨harmless, same⟩ | ⟨⟨changes, mem, mutating⟩, updated⟩
        · exact .inl ⟨List.forall_mem_cons.2 ⟨rfl, harmless⟩, same⟩
        · exact .inr ⟨⟨changes, List.mem_cons_of_mem _ mem, mutating⟩, updated⟩
      · refine .inr ⟨⟨_, List.mem_cons_self, rfl⟩, ?_⟩
        let first := cache.updateEntry server request.path request.file false .unknown
        change first.told (some server) rest = first
        rcases ih others first with ⟨-, same⟩ | ⟨-, updated⟩
        · exact same
        · rw [updated]
          exact cache.updateEntry_updateEntry _ _ _ _ _ _ _

omit [Transport τ] in
/-- What such lines leave in the cache, whether or not one of them was given up. -/
theorem learnt_eq {start desk : Desk τ Operation} (own : ∀ line ∈ lines, request.Says line)
    (learnt : start.Learnt desk server lines) :
    ((∀ line ∈ lines, line.isMutating = false) ∧ desk.cache = start.cache) ∨
      (∃ line ∈ lines, line.isMutating = true) ∧ ∃ freshness, freshness ≠ .known ∧ desk.cache =
        start.cache.updateEntry server request.path request.file false freshness := by
  have told : ((∀ line ∈ lines, line.isMutating = false) ∧
      start.cache.told (some server) lines = start.cache) ∨
        (∃ line ∈ lines, line.isMutating = true) ∧ ∃ freshness, freshness ≠ .known ∧
          start.cache.told (some server) lines =
            start.cache.updateEntry server request.path request.file false freshness := by
    refine (told_eq own start.cache).imp_right ?_
    rintro ⟨mutating, updated⟩
    exact ⟨mutating, .unknown, by decide, updated⟩
  rcases learnt.cache with known | ⟨line, mem, doubted⟩
  · rw [known]
    exact told
  · rcases own line mem with rfl | ⟨naming, rfl⟩
    · -- nothing is in doubt of a change of directory
      change desk.cache = start.cache.told (some server) lines at doubted
      rw [doubted]
      exact told
    · rcases told with ⟨harmless, -⟩ | ⟨mutating, freshness, -, updated⟩
      · cases harmless _ mem
      · refine .inr ⟨mutating, .unsure, by decide, ?_⟩
        rw [doubted, updated]
        exact start.cache.updateEntry_updateEntry _ _ _ _ _ _ _

end ChmodRequest

namespace Engine

variable {start engine : Engine τ Operation} {request : ChmodRequest}

/-- What a change of permissions leaves in the cache, however it goes on or is given up. -/
theorem chmod_leaves (concludes : Transport.Concludes good) (transport : good start.desk.transport)
    (pursuit : Pursuit good (.chmod request) start engine) :
    ∃ since, engine.desk.past = since ++ start.desk.past ∧
      (((∀ line ∈ linesSent since, line.isMutating = false) ∧
          engine.desk.cache = start.desk.cache) ∨
        (∃ line ∈ linesSent since, line.isMutating = true) ∧
          ∃ server freshness, start.desk.session.server = some server ∧ freshness ≠ .known ∧
            engine.desk.cache =
              start.desk.cache.updateEntry server request.path request.file false freshness) := by
  rcases pursuit.accepted_or_refused with ⟨operation, accepted⟩ | ⟨past, cache⟩
  · obtain ⟨idle, valid⟩ := accepted_sftp accepted fun protocol operation offered => by
      cases protocol <;> first | rfl | cases offered
    obtain ⟨server, ours, -⟩ := idle.server
    obtain ⟨lines, own, learnt⟩ :=
      pursuit.learnt concludes idle ours transport valid rfl (request.sends _)
    obtain ⟨since, past, rfl⟩ := learnt.past
    refine ⟨since, past, (ChmodRequest.learnt_eq own learnt).imp_right ?_⟩
    rintro ⟨mutating, freshness, doubtful, updated⟩
    exact ⟨mutating, server, freshness, ours, doubtful, updated⟩
  · exact ⟨[], past, .inl ⟨List.forall_mem_nil _, cache⟩⟩

/-- Whatever becomes of a change of permissions, no listing but that of its directory changes, and
of that one no more than how far the entry of the object is trusted and whether it is a directory,
unless there was none and it was added. Whether it is a directory stays as it was, too, exactly if
the line was not sent or no directory was known under this name. -/
theorem chmod_retouches_iff (conforms : Transport.Conforms good)
    (transport : good start.desk.transport)
    (pursuit : Pursuit good (.chmod request) start engine) :
    ∃ since, engine.desk.past = since ++ start.desk.past ∧
      ((∀ line ∈ linesSent since, line.isMutating = false) →
        engine.desk.cache = start.desk.cache) ∧
      ∀ server, start.desk.session.server = some server →
        start.desk.cache.Retouched Entry.IsButForKind server request.path request.file
          engine.desk.cache ∧
        (start.desk.cache.Retouched Entry.IsButForFreshness server request.path request.file
            engine.desk.cache ↔
          (∀ line ∈ linesSent since, line.isMutating = false) ∨
            ∀ listing entry, start.desk.cache.lookup server request.path = some listing →
              listing.find? request.file = some entry → entry.isDir = false) := by
  obtain ⟨since, past, ⟨harmless, same⟩ | ⟨mutating, server, freshness, ours, -, updated⟩⟩ :=
    chmod_leaves conforms.concludes transport pursuit
  · refine ⟨since, past, fun _ => same, ?_⟩
    intro server ours
    rw [same]
    exact ⟨.refl _, iff_of_true (.refl _) (.inl harmless)⟩
  · have sent : ¬ ∀ line ∈ linesSent since, line.isMutating = false := by
      obtain ⟨line, mem, mutating⟩ := mutating
      intro harmless
      cases mutating.symm.trans (harmless line mem)
    refine ⟨since, past, fun harmless => absurd harmless sent, ?_⟩
    intro known again
    obtain rfl := Option.some.inj (ours.symm.trans again)
    rw [updated]
    constructor
    · refine DirectoryCache.updateEntry_retouched ?_
      intro listing _
      exact Entry.update_retouched fun entry _ => rfl
    · exact DirectoryCache.updateEntry_retouched_iff.trans (or_iff_right sent).symm

/-! ## A directory that is not one any more -/

/-- A session that knows a directory and a file in the root. -/
def furnished : Engine Scripted Operation :=
  (rehearsed (({} : DirectoryCache).store stage ⟨.root, [.dir "sub", .file "a" 1], 0⟩)).after
    connecting

/-- The permissions of the file are being changed when the command is canceled: all that has changed
in the cache is how far its entry is trusted. -/
theorem chmod_retouches_iff_canceled :
    ∃ engine, Pursuit (Scripted.IsConforming : Transport.States Scripted)
        (.chmod ⟨.root, "a", "755"⟩) furnished engine ∧ engine.isBusy = false ∧
      furnished.desk.cache.Retouched Entry.IsButForFreshness stage .root "a" engine.desk.cache ∧
      engine.desk.cache.lookup stage .root =
        some ⟨.root, [.dir "sub", ⟨"a", false, some 1, .unsure⟩], 0⟩ := by
  have entering : furnished.Course (CompletesAlone Scripted.IsConforming)
      (.chmod ⟨.root, "a", "755"⟩) [] .wouldBlock
      (furnished.execute (.chmod ⟨.root, "a", "755"⟩)).2 := .begun (by decide +kernel)
  have changing := entering.reported (fun _ _ alone => alone) .ok .wouldBlock (by decide +kernel)
    (by decide) (by decide) (by decide +kernel)
  have canceled := Pursuit.canceled changing
    ⟨.refl (by decide +kernel : Scripted.IsConforming _), rfl⟩
  refine ⟨_, canceled, by decide +kernel, ?_, by decide +kernel⟩
  obtain ⟨since, -, -, retouched⟩ :=
    chmod_retouches_iff Scripted.conforms (by decide +kernel) canceled
  refine (retouched stage (by decide +kernel)).2.2 (.inr ?_)
  intro listing entry cached found
  have known : furnished.desk.cache.lookup stage .root =
      some ⟨.root, [.dir "sub", .file "a" 1], 0⟩ := by decide +kernel
  obtain rfl := Option.some.inj (known.symm.trans cached)
  obtain rfl := Option.some.inj (show some (Entry.file "a" 1) = some entry from found)
  rfl

/-- The permissions of the directory have been changed, and it is cached as a file from then on. -/
theorem chmod_unmakes_directory :
    ∃ reports engine left,
      furnished.Course (CompletesAlone Scripted.IsConforming) (.chmod ⟨.root, "sub", "755"⟩) reports
        .ok engine ∧ reports.map Prod.fst = [.ok, .ok] ∧
      furnished.desk.cache.lookup stage .root =
        some ⟨.root, [.dir "sub", .file "a" 1], 0⟩ ∧
      engine.desk.cache.lookup stage .root = some left ∧
      left.entries = [⟨"sub", false, none, .unknown⟩, .file "a" 1] ∧
      ¬ Entry.Retouched Entry.IsButForFreshness "sub" [.dir "sub", .file "a" 1] left.entries := by
  have entering : furnished.Course (CompletesAlone Scripted.IsConforming)
      (.chmod ⟨.root, "sub", "755"⟩) [] .wouldBlock
      (furnished.execute (.chmod ⟨.root, "sub", "755"⟩)).2 := .begun (by decide +kernel)
  have changing := entering.reported (fun _ _ alone => alone) .ok .wouldBlock (by decide +kernel)
    (by decide) (by decide) (by decide +kernel)
  have changed := changing.reported (fun _ _ alone => alone) .ok .ok (by decide +kernel)
    (by decide) (by decide) (by decide +kernel)
  refine ⟨_, _, ⟨.root, [⟨"sub", false, none, .unknown⟩, .file "a" 1], 0⟩, changed, rfl,
    by decide +kernel, by decide +kernel, rfl, ?_⟩
  intro retouched
  have kind : false = true := retouched.isDir_eq (show _ = some (.dir "sub") from rfl) rfl
  cases kind

end Engine

end Courier
