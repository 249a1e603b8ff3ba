import Courier.Journal
import Courier.Proofs.Runs

/-!
# Where the server may be

What the journal tells of the other side. The server has a working directory. A change of directory
moves it exactly if it is reported to have succeeded; one that was under way when its command was
given up may or may not take effect, and a line of the caller may lead anywhere, in both cases
before the next line is processed. A new connection starts anywhere. So a journal is compatible
with several states of the server, and what is known is what all of them have in common.

The link to the server is told by the journal without doubt.
-/

namespace Courier

/-! ## The server's working directory -/

/-- What may still move the server before it processes the next line. -/
inductive Afoot where
  | nothing
  /-- A change of directory whose outcome is going to be reported. -/
  | entering (path : RemotePath)
  /-- A change of directory nobody waits for any more. -/
  | straggling (path : RemotePath)
  /-- A line of the caller. -/
  | anything

structure Remote where
  directory : RemotePath
  afoot : Afoot

namespace Remote

/-- The server may be in this directory when it processes the next line. -/
def MayReach (remote : Remote) (directory : RemotePath) : Prop :=
  match remote.afoot with
  | .nothing => directory = remote.directory
  | .entering path | .straggling path => directory = remote.directory ∨ directory = path
  | .anything => True

/-- The line, answered in this way, makes the server that is in `directory` one in state `after`. -/
def Processes (line : WireLine) (answer : Reply) (directory : RemotePath) (after : Remote) : Prop :=
  match line with
  | .changeDir path =>
    after =
      if answer = .wouldBlock then ⟨directory, .entering path⟩
      else if answer = .ok then ⟨path, .nothing⟩
      else ⟨directory, .nothing⟩
  | .raw _ => after = ⟨directory, .anything⟩
  | _ => after = ⟨directory, .nothing⟩

/-- What a happening makes of the server. -/
def Moves (happening : Happening) (before after : Remote) : Prop :=
  match happening with
  | .sent line _ answer => ∃ directory, before.MayReach directory ∧
      Processes line answer directory after
  | .completed result =>
    match before.afoot with
    | .entering path => after = ⟨if result = .ok then path else before.directory, .nothing⟩
    | _ => after = before
  | .canceled | .connectionLost =>
    match before.afoot with
    | .entering path => after = ⟨before.directory, .straggling path⟩
    | _ => after = before
  | .connecting _ _ _ => True
  | _ => after = before

/-- The states of the server that are compatible with what happened, newest first. -/
def Possible : List Happening → Remote → Prop
  | [], _ => True
  | happening :: earlier, after => ∃ before, Possible earlier before ∧ Moves happening before after

end Remote

/-! ## The link to the server -/

/-- The link as far as it was asked for and reported. -/
inductive Link where
  | down
  | dialing (server : Server)
  | up (server : Server)
  /-- A disconnection is under way. -/
  | closing (server : Server)
deriving DecidableEq

namespace Link

/-- A disconnection that was called off has not happened. -/
def after : Happening → Link → Link
  | .connecting server _ answer, _ => if answer = .wouldBlock then dialing server else down
  | .completed result, dialing server => if result = .ok then up server else down
  | .completed _, closing _ => down
  | .disconnecting answer, up server => if answer = .wouldBlock then closing server else down
  | .canceled, dialing _ => down
  | .canceled, closing server => up server
  | .connectionLost, _ => down
  | _, link => link

/-- The link after all that happened, newest first. -/
def ofPast (past : List Happening) : Link := past.foldr after down

end Link

/-! ## Knowledge -/

namespace Happening

/-- Neither the server nor the link has to do with it. -/
def isAside : Happening → Bool
  | .started _ | .wakeUp _ _ | .listingTaken _ | .announced _ | .aborted | .cached _ _
  | .awaited | .moved _ => true
  | .completed _ | .canceled | .connectionLost | .sent _ _ _ | .connecting _ _ _
  | .disconnecting _ => false

/-- Where nothing is afoot, the server stays where it is: neither a report nor giving up moves it,
and closing the connection never does. -/
def isStill : Happening → Bool
  | .sent _ _ _ | .connecting _ _ _ => false
  | _ => true

end Happening

/-- The server is certainly in the directory, and nothing is afoot. -/
def Settled (past : List Happening) (path : RemotePath) : Prop :=
  ∀ remote, Remote.Possible past remote → remote = ⟨path, .nothing⟩

/-- A change into the directory is certainly under way. -/
def Heading (past : List Happening) (path : RemotePath) : Prop :=
  ∀ remote, Remote.Possible past remote → remote.afoot = .entering path

variable {past : List Happening} {path : RemotePath} {happening : Happening}

theorem Remote.moves_aside (aside : happening.isAside = true) {before after : Remote} :
    Moves happening before after ↔ after = before := by
  cases happening <;> first | rfl | cases aside

theorem Happening.isStill_of_isAside (aside : happening.isAside = true) :
    happening.isStill = true := by
  cases happening <;> first | rfl | cases aside

theorem Settled.still (settled : Settled past path) (still : happening.isStill = true) :
    Settled (happening :: past) path := by
  rintro remote ⟨before, possible, moves⟩
  have here := settled before possible
  subst here
  cases happening <;> first | exact moves | cases still

theorem Settled.asides (settled : Settled past path) {asides : List Happening}
    (all : ∀ happening ∈ asides, happening.isAside = true) : Settled (asides ++ past) path := by
  induction asides with
  | nil => exact settled
  | cons happening rest ih =>
      have earlier := ih fun h mem => all h (List.mem_cons_of_mem _ mem)
      exact earlier.still (Happening.isStill_of_isAside (all happening List.mem_cons_self))

theorem Heading.asides (heading : Heading past path) {asides : List Happening}
    (all : ∀ happening ∈ asides, happening.isAside = true) : Heading (asides ++ past) path := by
  induction asides with
  | nil => exact heading
  | cons happening rest ih =>
      rintro remote ⟨before, possible, moves⟩
      rw [(Remote.moves_aside (all happening List.mem_cons_self)).1 moves]
      exact ih (fun h mem => all h (List.mem_cons_of_mem _ mem)) before possible

/-- Processing the line does not move the server. -/
def WireLine.Stays : WireLine → Prop
  | changeDir _ | raw _ => False
  | _ => True

/-- A line that cannot move the server is processed where the server is known to be. -/
theorem Settled.sent (settled : Settled past path) {line : WireLine} (stays : line.Stays)
    (text : String) (answer : Reply) : Settled (.sent line text answer :: past) path := by
  rintro remote ⟨before, possible, directory, reached, processed⟩
  have here := settled before possible
  subst here
  -- nothing was afoot, so the line was processed where the server was
  obtain rfl : directory = path := reached
  cases line with
  | changeDir path => exact stays.elim
  | raw text => exact stays.elim
  | _ => exact processed

/-- A change of directory that is under way is. -/
theorem heading_sent (past : List Happening) (path : RemotePath) (text : String) :
    Heading (.sent (.changeDir path) text .wouldBlock :: past) path := by
  rintro remote ⟨before, -, directory, -, processed⟩
  rw [show remote = ⟨directory, .entering path⟩ from processed]

/-- A change of directory that succeeded leads to the directory. -/
theorem Heading.completed (heading : Heading past path) :
    Settled (.completed .ok :: past) path := by
  rintro remote ⟨before, possible, moves⟩
  have afoot := heading before possible
  simpa [Remote.Moves, afoot] using moves

/-- Some state of the server is compatible with whatever happened. -/
theorem Remote.exists_possible (past : List Happening) : ∃ remote, Possible past remote := by
  induction past with
  | nil => exact ⟨⟨.root, .nothing⟩, trivial⟩
  | cons happening earlier ih =>
      -- whatever happens, it moves the server from where it was to somewhere
      obtain ⟨before, possible⟩ := ih
      suffices ∃ after, Moves happening before after from
        this.imp fun after moves => ⟨before, possible, moves⟩
      cases happening with
      | sent line text answer =>
          have stays : before.MayReach before.directory := by
            unfold MayReach
            cases before.afoot with
            | entering path => exact .inl rfl
            | straggling path => exact .inl rfl
            | nothing => rfl
            | anything => trivial
          cases line <;> exact ⟨_, _, stays, rfl⟩
      | completed result =>
          cases afoot : before.afoot <;> simp [Moves, afoot]
      | canceled => cases afoot : before.afoot <;> simp [Moves, afoot]
      | connectionLost => cases afoot : before.afoot <;> simp [Moves, afoot]
      | connecting server credentials answer => exact ⟨before, trivial⟩
      | _ => exact ⟨before, rfl⟩

namespace Link

@[simp] theorem ofPast_cons (happening : Happening) (past : List Happening) :
    ofPast (happening :: past) = after happening (ofPast past) := rfl

theorem after_aside (aside : happening.isAside = true) (link : Link) :
    link.after happening = link := by
  cases happening <;> cases link <;> first | rfl | cases aside

@[simp] theorem after_sent (line : WireLine) (text : String) (answer : Reply) (link : Link) :
    after (.sent line text answer) link = link := by
  cases link <;> rfl

theorem after_connecting (server : Server) (credentials : Credentials) (answer : Reply)
    (link : Link) : after (.connecting server credentials answer) link =
      if answer = .wouldBlock then dialing server else down := by
  cases link <;> rfl

theorem ofPast_asides {asides : List Happening}
    (all : ∀ happening ∈ asides, happening.isAside = true) :
    ofPast (asides ++ past) = ofPast past := by
  induction asides with
  | nil => rfl
  | cons happening rest ih =>
      rw [List.cons_append, ofPast_cons, after_aside (all happening List.mem_cons_self)]
      exact ih fun h mem => all h (List.mem_cons_of_mem _ mem)

end Link

end Courier
