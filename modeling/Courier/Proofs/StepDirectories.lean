import Courier.Proofs.Abandon
import Courier.Proofs.DirectoryCommands
import Courier.Proofs.Paths
import Courier.Proofs.Steps
import Courier.Proofs.Whereabouts

/-!
# Steps and the working directory

An object is named by its bare name only where the server is known to be in its directory, and a
listing is cached only under the directory in which the server made it. Here this is shown of single
steps, from what an operation may rely on in its present state.
-/

namespace Courier

open RemotePath (Naming)

/-! ## What is heeded -/

/-- The name is understood from the working directory on. -/
def ObjectName.IsRelative (object : ObjectName) : Prop :=
  object.naming = .bare ∨ object.text.toList.head? ≠ some '/'

/-- The listing was made by the last line sent, in its directory and by this server. -/
def Listing.FetchedFrom (server : Server) (listing : Listing) (earlier : List Happening) : Prop :=
  ∃ entries result waits text before,
    earlier = .listingTaken (some entries) :: .completed result ::
      (waits ++ .sent .list text .wouldBlock :: before) ∧
    (∀ happening ∈ waits, happening.isWait = true) ∧
    listing.entries = ListTask.fresh entries ∧
    Link.ofPast before = .up server ∧ Settled before listing.path

/-- The happening heeds where the server is, as far as that is known from before. -/
def Happening.Heeds (earlier : List Happening) : Happening → Prop
  | .sent line _ _ =>
    ∀ object ∈ line.objects, object.IsRelative → Settled earlier object.directory
  | .cached (.store server listing) _ => listing.FetchedFrom server earlier
  | _ => True

/-- Everything that happened heeds where the server is. -/
def AllHeed : List Happening → Prop
  | [] => True
  | happening :: earlier => happening.Heeds earlier ∧ AllHeed earlier

theorem AllHeed.at {later earlier past : List Happening} {happening : Happening}
    (heed : AllHeed past) (h : past = later ++ happening :: earlier) :
    happening.Heeds earlier := by
  subst h
  induction later with
  | nil => exact heed.1
  | cons _ rest ih => exact ih heed.2

/-- Happenings of this kind concern neither the server nor the stored listings. -/
def Happening.isIdle : Happening → Bool
  | .cached call _ => !call.isStore
  | happening => happening.isAside

namespace Happening

variable {happening : Happening}

theorem isAside_of_isIdle (h : happening.isIdle = true) : happening.isAside = true := by
  cases happening <;> first | rfl | exact h

theorem heeds_of_isIdle (h : happening.isIdle = true) (earlier : List Happening) :
    happening.Heeds earlier := by
  cases happening with
  | cached call answer => cases call <;> trivial
  | sent line text answer => cases h
  | _ => trivial

theorem isIdle_of_isTelling (h : happening.isTelling = true) : happening.isIdle = true := by
  cases happening <;> first | exact h | cases h

theorem isIdle_of_isDoubt (h : happening.isDoubt = true) : happening.isIdle = true := by
  cases happening with
  | cached call answer => cases call <;> first | rfl | cases h
  | _ => cases h

theorem isIdle_of_isWait (h : happening.isWait = true) : happening.isIdle = true := by
  cases happening <;> first | rfl | cases h

theorem isAside_of_isWait (h : happening.isWait = true) : happening.isAside = true :=
  isAside_of_isIdle (isIdle_of_isWait h)

end Happening

theorem AllHeed.idles {past idles : List Happening} (heed : AllHeed past)
    (all : ∀ happening ∈ idles, happening.isIdle = true) : AllHeed (idles ++ past) := by
  induction idles with
  | nil => exact heed
  | cons happening rest ih =>
      exact ⟨Happening.heeds_of_isIdle (all happening List.mem_cons_self) _,
        ih fun h mem => all h (List.mem_cons_of_mem _ mem)⟩

/-! ## Names in full -/

/-- A name in full is understood from anywhere. -/
theorem ObjectName.not_isRelative {object : ObjectName}
    (h : object.directory.isUnspecified = false) (full : object.naming = .full) :
    ¬ object.IsRelative := by
  rintro (bare | relative)
  · rw [full] at bare
    cases bare
  · refine relative ?_
    -- a name in full begins with the directory, which begins with a slash
    have named : object.text =
        if object.directory.hasParent then object.directory.text ++ "/" ++ object.file
        else "/" ++ object.file := by
      simp [text, RemotePath.nameOf, full, h]
    rw [named]
    split
    · have head := RemotePath.text_head h
      simp [String.toList_append, List.head?_append, head]
    · simp [String.toList_append]

theorem WireLine.stays_of_mem_objects (line : WireLine) {object : ObjectName}
    (h : object ∈ line.objects) : line.Stays := by
  cases line with
  | changeDir path => cases h
  | raw text => cases h
  | _ => trivial

/-! ## What an operation may rely on -/

/-- There is a connection to the server of the session. -/
def Linked (past : List Happening) (session : Session) : Prop :=
  ∃ server, session.server = some server ∧ session.connected = true ∧
    Link.ofPast past = .up server

/-- What a directory command that is to act knows of the working directory. -/
def Progress.Placed (session : Session) (home : RemotePath) : Progress → Prop
  | .start => True
  | .ready naming => naming = .bare → session.directory = some home
  | .entering | .waiting _ => False

namespace Operation

/-- The operation changes the working directory. -/
def isChangeDir : Operation → Bool
  | changeDir _ => true
  | _ => false

/-- The directories of the objects the operation names in lines are specified. -/
def IsSpecified : Operation → Prop
  | transfer task => task.request.path.isUnspecified = false
  | delete task => task.path.isUnspecified = false
  | removeDir task => task.request.path.isUnspecified = false
  | rename task =>
    task.request.fromPath.isUnspecified = false ∧ task.request.toPath.isUnspecified = false
  | chmod task => task.request.path.isUnspecified = false
  | _ => True

/-- How the session and the link stand while the operation is on the stack. -/
def Tied (past : List Happening) (session : Session) : Operation → Prop
  | connect task =>
    task.request.handle = task.request.server ∧ session.connected = false ∧
      (task.stage = .connecting → session.server = some task.request.server ∧
        Link.ofPast past = .dialing task.request.server)
  | disconnect task =>
    if task.waiting then
      ∃ server, session.server = some server ∧ Link.ofPast past = .closing server
    else Linked past session
  | sleep _ => True
  | _ => Linked past session

/-- What an operation that is to act knows of the working directory. -/
def Placed (session : Session) : Operation → Prop
  | list task =>
    match task.progress with
    | .start | .ready none => True
    | .ready (some target) => session.directory = some target
    | .entering _ | .waiting _ => False
  | connect _ | disconnect _ | sleep _ | changeDir _ | makeDir _ | raw _ => True
  | operation =>
    ∀ home progress, operation.home? = some home → operation.progress? = some progress →
      progress.Placed session home

/-- What is out while the operation waits. -/
def Out (past : List Happening) (session : Session) : Operation → Prop
  | changeDir task => session.directory = none ∧ Heading past task.path
  | list task =>
    ∃ target waits text before, task.progress = .waiting target ∧
      past = waits ++ .sent .list text .wouldBlock :: before ∧
      (∀ happening ∈ waits, happening.isWait = true) ∧
      ∀ path, target = some path → Settled before path
  | connect _ | disconnect _ | sleep _ | makeDir _ | raw _ => True
  | operation =>
    ∀ home, operation.home? = some home → ∃ naming,
      operation.progress? = some (.waiting naming) ∧
        (naming = .bare → session.directory = some home)

theorem ne_changeDir {operation : Operation} (plain : operation.isChangeDir = false)
    {task : ChangeDirTask} : operation ≠ .changeDir task := by
  rintro rfl
  cases plain

end Operation

/-! ## Steady steps -/

variable {τ : Type} [Transport τ]

/-- The journal heeds where the server is, and what the session says of that is so. -/
structure Desk.Oriented (desk : Desk τ Operation) : Prop where
  place : ∀ path, desk.session.directory = some path → Settled desk.past path
  heed : AllHeed desk.past

/-- From `start` to `desk` the orientation was kept, and the connection stayed as it was. -/
structure Desk.Steady (start desk : Desk τ Operation) : Prop extends desk.Oriented where
  server : desk.session.server = start.session.server
  connected : desk.session.connected = start.session.connected
  link : Link.ofPast desk.past = Link.ofPast start.past

/-- The step left the connection as it was, and says truly where it leaves the operation. -/
structure Step.Steady (start : Desk τ Operation) (step : Step τ Operation Operation) : Prop where
  desk : start.Steady step.desk
  specified : step.reply = .again ∨ step.reply = .wouldBlock → step.operation.IsSpecified
  ready : step.reply = .again → step.desk.pending = none →
    step.operation.Placed step.desk.session
  out : step.reply = .wouldBlock → step.operation.Out step.desk.past step.desk.session
  entered : step.reply = .ok → ∀ task, step.operation = .changeDir task →
    step.desk.session.directory = some task.path

namespace Desk.Steady

variable {start desk after : Desk τ Operation}

omit [Transport τ]

theorem refl (oriented : desk.Oriented) : desk.Steady desk := ⟨oriented, rfl, rfl, rfl⟩

theorem idles (steady : start.Steady desk) (session : after.session = desk.session)
    (past : ∃ idles, (∀ happening ∈ idles, happening.isIdle = true) ∧
      after.past = idles ++ desk.past) : start.Steady after := by
  obtain ⟨idles, all, past⟩ := past
  have asides : ∀ happening ∈ idles, happening.isAside = true := fun happening mem =>
    Happening.isAside_of_isIdle (all happening mem)
  refine ⟨⟨?_, ?_⟩, ?_, ?_, ?_⟩
  · intro path known
    rw [session] at known
    rw [past]
    exact (steady.place path known).asides asides
  · rw [past]
    exact steady.heed.idles all
  · rw [session, steady.server]
  · rw [session, steady.connected]
  · rw [past, Link.ofPast_asides asides, steady.link]

theorem note (steady : start.Steady desk) (level : LogLevel) (text : String) :
    start.Steady (desk.note level text) :=
  ⟨⟨steady.place, steady.heed⟩, steady.server, steady.connected, steady.link⟩

theorem quiet (steady : start.Steady desk) (quiet : desk.Quiet after) : start.Steady after := by
  obtain ⟨notes, rfl⟩ := quiet
  exact ⟨⟨steady.place, steady.heed⟩, steady.server, steady.connected, steady.link⟩

theorem doubts (steady : start.Steady desk) (doubts : desk.Doubts after) : start.Steady after := by
  obtain ⟨happened, all, past⟩ := doubts.past
  exact steady.idles doubts.session
    ⟨happened, fun happening mem => Happening.isIdle_of_isDoubt (all happening mem), past⟩

theorem tellCache (steady : start.Steady desk) {call : Server → DirectoryCache.Call}
    (h : ∀ server, (call server).isStore = false) : start.Steady (desk.tellCache call) := by
  obtain ⟨told, all, past⟩ := desk.tellCache_past call
  refine steady.idles (desk.tellCache_session call) ⟨told, ?_, past⟩
  intro happening mem
  obtain ⟨server, answer, rfl⟩ := all happening mem
  simp [Happening.isIdle, h server]

theorem lookup (steady : start.Steady desk) (path : RemotePath) :
    start.Steady (desk.lookup path).2 := by
  refine steady.idles (desk.lookup_session path) ?_
  rcases desk.lookup_desk path with same | ⟨server, called⟩
  · refine ⟨[], List.forall_mem_nil _, ?_⟩
    rw [same]
    rfl
  · refine ⟨[.cached (.lookup server path) (desk.cache.perform (.lookup server path)).1], ?_, ?_⟩
    · exact List.forall_mem_singleton.2 rfl
    · rw [called, Desk.cacheCall_past]
      rfl

/-- A listing is stored that was fetched from the server of the session. -/
theorem store (steady : start.Steady desk) {server : Server}
    (ours : desk.session.server = some server) {listing : Listing}
    (fetched : listing.FetchedFrom server desk.past) :
    start.Steady (desk.tellCache (.store · listing)) := by
  rw [desk.tellCache_of_server _ ours]
  refine ⟨⟨?_, ?_⟩, ?_, ?_, ?_⟩
  · intro path known
    rw [Desk.cacheCall_session] at known
    rw [Desk.cacheCall_past]
    exact (steady.place path known).still rfl
  · rw [Desk.cacheCall_past]
    exact ⟨fetched, steady.heed⟩
  · rw [Desk.cacheCall_session, steady.server]
  · rw [Desk.cacheCall_session, steady.connected]
  · rw [Desk.cacheCall_past, Link.ofPast_cons, Link.after_aside rfl, steady.link]

theorem forget (steady : start.Steady desk) :
    start.Steady { desk with session := { desk.session with directory := none } } :=
  ⟨⟨by rintro _ ⟨⟩, steady.heed⟩, steady.server, steady.connected, steady.link⟩

/-! The ways in which a step ends. -/

variable {κ : Type} {f : κ → Operation} {task : κ} {reply : Reply}

theorem ends (steady : start.Steady desk) (again : reply ≠ .again) (wait : reply ≠ .wouldBlock)
    (plain : (f task).isChangeDir = false) : ((desk.answer reply task).map f).Steady start where
  desk := steady
  specified := fun h => (h.elim again wait).elim
  ready := fun h => absurd h again
  out := fun h => absurd h wait
  entered := fun _ _ is => (Operation.ne_changeDir plain is).elim

/-- A change of directory that succeeded has led to where the session says. -/
theorem endsEntering (steady : start.Steady desk) {task : ChangeDirTask} (again : reply ≠ .again)
    (wait : reply ≠ .wouldBlock) (entered : reply = .ok → desk.session.directory = some task.path) :
    ((desk.answer reply task).map .changeDir).Steady start where
  desk := steady
  specified := fun h => (h.elim again wait).elim
  ready := fun h => absurd h again
  out := fun h => absurd h wait
  entered := by
    intro ok other same
    rw [← Operation.changeDir.inj same]
    exact entered ok

theorem answerAgain (steady : start.Steady desk) (specified : (f task).IsSpecified)
    (placed : (f task).Placed desk.session) : ((desk.answer .again task).map f).Steady start where
  desk := steady
  specified := fun _ => specified
  ready := fun _ _ => placed
  out := fun h => absurd h Reply.again_ne_wouldBlock
  entered := fun h => absurd h Reply.again_ne_ok

theorem request (steady : start.Steady desk) (specified : (f task).IsSpecified)
    (child : Operation) : (((desk.request child).answer .again task).map f).Steady start where
  desk := steady.idles (desk.request_session child)
    ⟨[], List.forall_mem_nil _, desk.request_past child⟩
  specified := fun _ => specified
  ready := by
    intro again (none : (desk.request child).pending = none)
    rw [desk.request_pending child] at none
    cases none
  out := fun h => absurd h Reply.again_ne_wouldBlock
  entered := fun h => absurd h Reply.again_ne_ok

end Desk.Steady

section Requests

variable {good : Transport.States τ} {start desk : Desk τ Operation} {κ : Type} {f : κ → Operation}
  {task : κ}

/-- A line is sent that heeds where the server is. One that may move the server is sent only when
the session says nothing of its directory. -/
theorem Desk.Steady.send (steady : start.Steady desk) (conforms : Transport.Conforms good)
    (transport : good desk.transport) {line : WireLine}
    (heeds : ∀ object ∈ line.objects, object.IsRelative → Settled desk.past object.directory)
    (moves : line.Stays ∨ desk.session.directory = none) (specified : (f task).IsSpecified)
    (out : (f task).Out (.sent line (desk.lineText line) .wouldBlock :: desk.past) desk.session) :
    ((desk.send line task).map f).Steady start := by
  have answer := (conforms.send _ (desk.lineText line) transport).1
  have kept : start.Steady (desk.send line task).desk := by
    refine ⟨⟨?_, ⟨heeds, steady.heed⟩⟩, steady.server, steady.connected, ?_⟩
    · intro path known
      -- a line that may move the server was preceded by forgetting where it is
      rcases moves with stays | lost
      · exact (steady.place path known).sent stays _ _
      · rw [Desk.send_session, lost] at known
        cases known
    · rw [Desk.send_past, Link.ofPast_cons, Link.after_sent, steady.link]
  refine ⟨kept, fun _ => specified, ?_, ?_, ?_⟩
  · intro again
    exact absurd again (Reply.ne_again_of_start answer)
  · intro wait
    change (f task).Out (desk.send line task).desk.past desk.session
    rw [Desk.send_past, show (Transport.send desk.transport (desk.lineText line)).1 = _ from wait]
    exact out
  · -- what conforms never answers that a line was done at once
    intro ok
    rcases answer with wait | failed
    · exact absurd (ok.symm.trans wait) Reply.ok_ne_wouldBlock
    · exact absurd ok (Reply.ne_ok_of_isError failed)

theorem Desk.Steady.wakeUp (steady : start.Steady desk) (conforms : Transport.Conforms good)
    (transport : good desk.transport) (seconds : Nat) (specified : (f task).IsSpecified)
    (out : ∀ past, (f task).Out past desk.session) (plain : (f task).isChangeDir = false) :
    ((desk.wakeUp seconds task).map f).Steady start := by
  have answer := (conforms.wakeUp _ seconds transport).1
  have woken : start.Steady (desk.wakeUp seconds task).desk :=
    steady.idles rfl ⟨[_], List.forall_mem_singleton.2 rfl, rfl⟩
  refine ⟨woken, fun _ => specified, ?_, fun _ => out _, ?_⟩
  · intro again
    exact absurd again (Reply.ne_again_of_start answer)
  · intro ok other is
    exact (Operation.ne_changeDir plain is).elim

end Requests

end Courier
