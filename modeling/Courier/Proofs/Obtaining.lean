import Courier.Proofs.Attempts
import Courier.Proofs.Listings
import Courier.Proofs.Removals
import Courier.Proofs.Settling

/-!
# Whether a listing was obtained

A command to list that does not fail should have found a listing, in the cache or on the server. It
has, but for one case: the change into the directory may come to what is neither success nor a
failure, such as `disconnected`. Unless its flags say what to make of that, the command passes it on
as its own reply, and nothing was listed.
-/

namespace Courier

namespace ListRequest

/-- A change of directory that came to `entered`, neither success nor a failure, ends the command as
it is. -/
structure PassesOn (request : ListRequest) (entered : Reply) : Prop where
  notice : entered.isNotice = true
  plain : request.flags.contains .link = false
  firm : request.flags.contains .fallbackCurrent = false

end ListRequest

/-- What was said is among what has happened since. -/
theorem Said.mem {origin since talk : List Happening} {results : List Reply}
    (said : Said origin (since ++ origin) talk results) {happening : Happening}
    (told : happening ∈ talk) : happening ∈ since := by
  obtain ⟨made, past, rfl⟩ := said.since
  rw [List.append_cancel_right past]
  exact (List.mem_filter.1 told).1

namespace Engine

variable {τ : Type} [Transport τ]

/-- From `start` to `engine` the command found what it was to list: in the cache, with nothing asked
of the transport, or on the server, whose answer is the reply. -/
inductive Obtains (start : Engine τ Operation) (request : ListRequest) (reply : Reply)
    (engine : Engine τ Operation) : Prop
  | cached {server : Server} (ours : start.session.server = some server)
      (served : request.IsServed start.env start.cache server start.session.directory)
      (alone : start.LeavesAlone engine)
  | listed {text : String} {talk : List Happening} {results : List Reply}
      (said : Said start.desk.past engine.desk.past
        (.completed reply :: .sent .list text .wouldBlock :: talk) results)

/-- From `start` to `engine` the command only changed into another directory, and what that came to
is its reply. -/
structure PassesNotice (start : Engine τ Operation) (request : ListRequest) (reply : Reply)
    (engine : Engine τ Operation) : Prop where
  passes : request.PassesOn reply
  said : ∃ target text results, request.IsAway start.session.directory target ∧
    Said start.desk.past engine.desk.past
      [.completed reply, .sent (.changeDir target) text .wouldBlock] results

section

variable {start engine : Engine τ Operation} {request : ListRequest} {reply : Reply}

omit [Transport τ] in
/-- What only changed into a directory has listed nothing. -/
theorem PassesNotice.not_obtains (passed : start.PassesNotice request reply engine) :
    ¬ start.Obtains request reply engine := by
  obtain ⟨-, target, text, results, -, said⟩ := passed
  intro obtains
  cases obtains with
  | cached ours served alone =>
      obtain ⟨made, past, silent⟩ := alone.past
      rw [past] at said
      have sent := said.mem (List.mem_cons_of_mem _ List.mem_cons_self)
      exact absurd (silent _ sent) (by simp [Happening.reachesTransport])
  | listed other =>
      have same := said.talk_unique other
      simp at same

/-! ## The course of the command -/

variable {meanwhile : Engine τ Operation → Engine τ Operation → Prop} {command : Command}
  {good : Transport.States τ} {reports : List (Reply × Local.Store)} {server : Server}

theorem Course.accepted_or_isError
    (course : start.Course meanwhile command reports reply engine) :
    (∃ operation, start.accept command = .ok operation) ∨ reply.isError = true :=
  course.accepted_or_refused.imp_right And.left

/-- As long as nothing was reported the engine is where the first call left it. -/
theorem Course.first_only (course : start.Course meanwhile command [] reply engine) :
    (start.execute command).2 = engine := by
  generalize silent : ([] : List (Reply × Local.Store)) = reports at course
  cases course with
  | execute => rfl
  | resume course drifts => simp at silent

/-- Whatever is waited for, the engine is busy. -/
theorem Course.isBusy (course : start.Course meanwhile command reports .wouldBlock engine) :
    engine.isBusy = true := by
  generalize wait : Reply.wouldBlock = reply at course
  cases course with
  | execute =>
      have waits : (start.make (.execute command)).1 = .wouldBlock := wait.symm
      exact isBusy_of_wouldBlock waits
  | @resume _ _ after course drifts =>
      have waits : (after.make .resume).1 = .wouldBlock := wait.symm
      exact isBusy_of_wouldBlock waits

omit [Transport τ] in
/-- Commands to list are accepted over SFTP only. -/
theorem idleOverSftp_of_accepted {operation : Operation}
    (accepted : start.accept (.list request) = .ok operation) :
    start.IsIdleOverSftp ∧ (Command.list request).valid = true := by
  refine accepted_sftp accepted ?_
  intro protocol operation offered
  cases protocol <;> first | rfl | cases offered

/-- The command has ended without a failure. -/
theorem obtains_or_passes (conforms : Transport.Conforms good) (idle : start.IsIdleOverSftp)
    (transport : good start.desk.transport) (valid : (Command.list request).valid = true)
    (ours : start.session.server = some server)
    (course : start.Course (Completes good) (.list request) reports reply engine)
    (ended : reply ≠ .wouldBlock) (mild : reply.isError = false) :
    start.Obtains request reply engine ∨ start.PassesNotice request reply engine := by
  have never : reply.isError ≠ true := by simp [mild]
  have lists := course_lists conforms idle transport valid ours course
  obtain ⟨-, talk, ends, said⟩ := lists.ends ended
  change request.Ends start.session.directory _ talk reply at ends
  cases ends with
  | cached served =>
      -- nothing was reported, so the first call was the only one
      obtain rfl : reports = [] := by
        simpa using said.results.symm
      obtain rfl := course.first_only
      exact .inl (.cached ours served (execute_served idle valid ours served).2)
  | gaveUp early failed => exact absurd failed never
  | @outside target talk reply away tried failed firm plain =>
      cases tried with
      | refused failed => exact absurd failed never
      | heard =>
          right
          refine ⟨⟨Reply.isNotice_iff.2 ⟨failed, mild⟩, ?_, firm⟩, target, _, _, away, said⟩
          by_contra link
          exact never (Reply.isError_of_isCritical (plain (by simpa using link)))
  | refused arrives failed => exact absurd failed never
  | listed arrives => exact .inl (.listed said)

/-- A command to list that ends without a failure has found what it was to list, exactly unless it
passed on what a change of directory came to. Called off or interrupted, it fails. -/
theorem list_obtains (conforms : Transport.Conforms good) (transport : good start.desk.transport)
    (course : start.Course (Completes good) (.list request) reports reply engine) :
    (reply ≠ .wouldBlock →
      ((reply.isError = false → start.Obtains request reply engine) ↔
        ¬ start.PassesNotice request reply engine)) ∧
    (reply = .wouldBlock → ∀ after, engine.Drifts good after →
      after.cancel.1.isError = true ∧ after.connectionLost.1.isError = true) := by
  constructor
  · intro ended
    constructor
    · intro obtains passed
      exact passed.not_obtains (obtains (Reply.isNotice_iff.1 passed.passes.notice).2)
    · intro decided mild
      rcases course.accepted_or_isError with ⟨operation, accepted⟩ | failed
      · obtain ⟨idle, valid⟩ := idleOverSftp_of_accepted accepted
        obtain ⟨server, ours, -⟩ := idle.server
        rcases obtains_or_passes conforms idle transport valid ours course ended mild with
          obtained | passed
        · exact obtained
        · exact absurd passed decided
      · rw [mild] at failed
        cases failed
  · rintro rfl after drifts
    have busy : after.isBusy = true := by
      have before := isBusy_eq_true_iff.1 course.isBusy
      rw [isBusy_eq_true_iff]
      rcases drifts.stack with same | ⟨top, below, channel, -, -, now⟩
      · rw [same]
        exact before
      · rw [now]
        exact List.cons_ne_nil _ _
    simp only [cancel, connectionLost, busy, if_true]
    exact ⟨by decide, by decide⟩

end

/-! ## Rehearsals -/

/-- The root is entered and listed. -/
theorem list_obtains_root :
    let start := (rehearsed {}).after connecting
    ∃ reports engine,
      start.Course (Completes Scripted.IsConforming) (.list { path := .root }) reports .ok engine ∧
      reports.map Prod.fst = [.ok, .ok] ∧ start.Obtains { path := .root } .ok engine := by
  intro start
  have alone : ∀ engine after : Engine Scripted Operation,
      engine.CompletesAlone Scripted.IsConforming after →
        engine.Completes Scripted.IsConforming after :=
    fun _ _ alone => alone.toCompletes
  have entering : start.Course (Completes Scripted.IsConforming) (.list { path := .root }) []
      .wouldBlock (start.execute (.list { path := .root })).2 := .begun (by decide +kernel)
  have listing := entering.reported alone .ok .wouldBlock (by decide +kernel) (by decide)
    (by decide) (by decide +kernel)
  have listed := listing.reported alone .ok .ok (by decide +kernel) (by decide) (by decide)
    (by decide +kernel)
  refine ⟨_, _, listed, rfl, ?_⟩
  refine ((list_obtains Scripted.conforms (by decide +kernel) listed).1
    Reply.ok_ne_wouldBlock).2 ?_ (by decide)
  intro passed
  exact absurd passed.passes.notice (by decide)

/-- The connection is closed while the directory is being changed: the reply is no failure, but
nothing was listed. -/
theorem list_obtains_nothing :
    let start := (rehearsed {}).after connecting
    ∃ reports engine,
      start.Course (Completes Scripted.IsConforming) (.list { path := .root }) reports .disconnected
        engine ∧
      reports.map Prod.fst = [.disconnected] ∧ Reply.disconnected.isError = false ∧
      engine.isBusy = false ∧ linesSent engine.desk.past = [.changeDir .root] ∧
      ¬ start.Obtains { path := .root } .disconnected engine := by
  intro start
  have entering : start.Course (Completes Scripted.IsConforming) (.list { path := .root }) []
      .wouldBlock (start.execute (.list { path := .root })).2 := .begun (by decide +kernel)
  have closed := entering.reported (fun _ _ alone => alone.toCompletes) .disconnected .disconnected
    (by decide +kernel) (by decide) (by decide) (by decide +kernel)
  have lines : linesSent ((start.execute (.list { path := .root })).2.reporting
      .disconnected).resume.2.desk.past = [.changeDir .root] := by decide +kernel
  refine ⟨_, _, closed, rfl, by decide, by decide +kernel, lines, ?_⟩
  intro obtains
  cases obtains with
  | cached ours served =>
      obtain ⟨target, listing, -, cached, -⟩ := served
      have nothing : start.cache.slots = [] := List.isEmpty_iff.1 (by decide +kernel)
      simp [DirectoryCache.lookup, nothing] at cached
  | listed said =>
      obtain ⟨since, past, -⟩ := said.since
      rw [past] at said lines
      have sent := said.mem (List.mem_cons_of_mem _ List.mem_cons_self)
      have line : WireLine.list ∈ linesSent (since ++ start.desk.past) := by
        rw [linesSent_append, List.mem_append]
        exact .inr (List.mem_filterMap.2 ⟨_, List.mem_reverse.2 sent, rfl⟩)
      rw [lines] at line
      simp at line

end Engine

end Courier
