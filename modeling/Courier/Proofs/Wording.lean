import Courier.Proofs.Connection
import Courier.Proofs.Words

/-!
# The wording of lines

Every line that is sent is one of the command in progress or enters the directory of the command,
and its text is the line with names quoted as the transport quotes them. Where that is the common
way, the server reads the words the line is meant to have, whatever the names are. It does not if a
permission, which stands unquoted, is not read as one word; and as quotes leave line breaks where
they are, a name with a line break makes a line with one.
-/

namespace Courier

/-! ## Lines of a command -/

/-- The directory a command works in, if it names one. -/
def Command.directory? : Command → Option RemotePath
  | list request => request.target? none
  | transfer request => some request.path
  | delete request => some request.path
  | removeDir request => some request.path
  | rename request => some request.fromPath
  | chmod request => some request.path
  | connect _ | disconnect | makeDir _ | raw _ | http _ => none

/-- The lines that are sent for a command. -/
inductive Command.Utters (command : Command) : WireLine → Prop
  | speaks {line : WireLine} (own : command.Says line) : Utters command line
  | enters {path : RemotePath} (into : command.directory? = some path) :
      Utters command (.changeDir path)
  | lists {request : ListRequest} (is : command = .list request) : Utters command .list

/-- Only a line of the caller is not made by an operation. -/
theorem Command.Utters.isOwn {command : Command} {line : WireLine} (utters : command.Utters line)
    (other : ∀ text, command ≠ .raw text) : line.IsOwn := by
  cases utters with
  | enters into => trivial
  | lists is => trivial
  | speaks own =>
      cases line with
      | raw text =>
          cases command with
          | raw line => exact other line rfl
          | transfer request =>
              obtain ⟨naming, is⟩ := own
              simp only at is
              split at is <;> cases is
          | delete request =>
              obtain ⟨naming, file, -, is⟩ := own
              cases is
          | rename request =>
              obtain ⟨source, target, is⟩ := own
              cases is
          | removeDir request | chmod request =>
              obtain ⟨naming, is⟩ := own
              cases is
          | makeDir request => cases own
          | _ => exact own.elim
      | _ => trivial

/-- If a line was sent, it is one of the command, with its names quoted. -/
def Happening.Voices (command : Command) : Happening → Prop
  | .sent line text _ => command.Utters line ∧ text = line.text Quoting.quote
  | happening => happening.command? = none

/-- If a line was sent, it is one of the command accepted last, with its names quoted. -/
def Happening.IsWorded (earlier : List Happening) : Happening → Prop
  | .sent line text _ => ∃ command, lastCommand? earlier = some command ∧ command.valid = true ∧
      command.Utters line ∧ text = line.text Quoting.quote
  | _ => True

section History

variable {command : Command} {past made : List Happening} {happening : Happening}

theorem Happening.Voices.silent (voices : happening.Voices command) :
    happening.command? = none := by
  cases happening <;> first | rfl | exact voices

theorem Happening.voices_of_isWork (work : happening.isWork = true) :
    happening.Voices command := by
  cases happening <;> first | rfl | cases work

theorem Happening.command?_of_isDoubt (doubt : happening.isDoubt = true) :
    happening.command? = none := by
  cases happening <;> first | rfl | cases doubt

theorem lastCommand?_voices (voices : ∀ happening ∈ made, happening.Voices command) :
    lastCommand? (made ++ past) = lastCommand? past :=
  lastCommand?_append fun happening mem => (voices happening mem).silent

/-- What is sent for the command accepted last is worded. -/
theorem worded_voices (voices : ∀ happening ∈ made, happening.Voices command)
    (last : lastCommand? past = some command) (valid : command.valid = true)
    (worded : Throughout Happening.IsWorded past) :
    Throughout Happening.IsWorded (made ++ past) := by
  induction made with
  | nil => exact worded
  | cons happening made ih =>
      obtain ⟨newest, voices⟩ := List.forall_mem_cons.1 voices
      refine ⟨?_, ih voices⟩
      cases happening with
      | sent line text answer =>
          exact ⟨command, (lastCommand?_voices voices).trans last, valid, newest⟩
      | _ => trivial

/-- What is no line is worded. -/
theorem worded_lines (silent : ∀ happening ∈ made, happening.line? = none)
    (worded : Throughout Happening.IsWorded past) :
    Throughout Happening.IsWorded (made ++ past) := by
  refine worded.append fun happening mem earlier => ?_
  have none := silent happening mem
  cases happening with
  | sent line text answer => cases none
  | _ => trivial

end History

/-! ## The command of an operation -/

namespace Operation

/-- The operation executes the command, or enters its directory. -/
def Executes (command : Command) : Operation → Prop
  | sleep _ => True
  | changeDir task => command.directory? = some task.path
  | list task => command = .list task.request ∧
      ∀ target, task.progress = .entering target → task.request.target? none = some target
  | operation => operation.Serves command

variable {command : Command} {operation child : Operation}

theorem executes_of_ofCommand? {protocol : Protocol}
    (offered : ofCommand? command protocol = some operation) : operation.Executes command := by
  unfold ofCommand? at offered
  split at offered <;> cases offered
  all_goals first | rfl | exact ⟨[], rfl⟩ | exact ⟨rfl, nofun⟩

/-- The directory that an operation asks to enter is that of its command. -/
theorem Executes.of_asked (executes : operation.Executes command)
    (waits : operation.WaitsFor child) :
    child.Executes command := by
  cases child with
  | sleep task => trivial
  | changeDir task =>
      have into : operation.entering? = some task.path := waits
      show command.directory? = some task.path
      cases operation with
      | list parent =>
          obtain ⟨rfl, leads⟩ := executes
          simp only [entering?] at into
          split at into
          · rename_i target entering
            exact (leads _ entering).trans into
          · cases into
      | delete parent =>
          obtain ⟨done, rfl⟩ := executes
          exact (Option.ite_none_right_eq_some.1 into).2
      | transfer parent | removeDir parent | rename parent | chmod parent =>
          obtain rfl := (show command = _ from executes)
          exact (Option.ite_none_right_eq_some.1 into).2
      | _ => cases into
  | _ => exact waits.elim

theorem Executes.withChannel (executes : operation.Executes command) (channel : Local.Channel) :
    (operation.withChannel channel).Executes command := by
  cases operation <;> exact executes

end Operation

/-! ## What is said in a step -/

variable {τ : Type}

/-- A step of an operation that executes the command, from `start`, sends lines of the command
only. -/
structure Step.Speaks (command : Command) (start : Desk τ Operation)
    (step : Step τ Operation Operation) : Prop where
  executes : step.operation.Executes command
  past : ∃ made, (∀ happening ∈ made, happening.Voices command) ∧
    step.desk.past = made ++ start.past

section Steps

variable {good : Transport.States τ} {command : Command} {operation : Operation}
  {start desk : Desk τ Operation}

theorem Desk.Works.voices (works : start.Works good operation desk) (command : Command) :
    ∃ made, (∀ happening ∈ made, happening.Voices command) ∧ desk.past = made ++ start.past := by
  obtain ⟨made, all, past⟩ := works.past
  exact ⟨made, fun happening mem => Happening.voices_of_isWork (all happening mem), past⟩

theorem Desk.Works.voices_request (works : start.Works good operation desk) (command : Command)
    (child : Operation) : ∃ made, (∀ happening ∈ made, happening.Voices command) ∧
      (desk.request child).past = made ++ start.past := by
  rw [desk.request_past]
  exact works.voices command

/-- The text of a line is made with the quotes of the transport. -/
theorem Desk.Works.voices_send [Transport τ] (works : start.Works good operation desk)
    (quotes : ∀ t, good t → Transport.quote t = Quoting.quote) {line : WireLine}
    (utters : command.Utters line) (answer : Reply) :
    ∃ made, (∀ happening ∈ made, happening.Voices command) ∧
      .sent line (desk.lineText line) answer :: desk.past = made ++ start.past := by
  obtain ⟨made, voices, past⟩ := works.voices command
  refine ⟨.sent line (desk.lineText line) answer :: made, ?_, congrArg (List.cons _) past⟩
  refine List.forall_mem_cons.2 ⟨⟨utters, ?_⟩, voices⟩
  rw [Desk.lineText, quotes _ works.transport]

/-- Who sends no lines says nothing. -/
theorem Step.Does.speaks {step : Step τ Operation Operation}
    (does : step.Does good operation start) (mute : operation.sendsLines = false)
    (executes : step.operation.Executes command) : step.Speaks command start := by
  refine ⟨executes, ?_⟩
  cases does with
  | rests works => exact works.voices command
  | @asks before child works again waits acts asked =>
      rw [asked, Desk.request_past]
      exact works.voices command
  | @requests before request works own waits past pending transport session =>
      obtain ⟨made, voices, before_past⟩ := works.voices command
      refine ⟨request :: made, List.forall_mem_cons.2 ⟨?_, voices⟩, ?_⟩
      · cases request with
        | sent line text answer => exact absurd (mute.symm.trans own) nofun
        | connecting server credentials answer => rfl
        | disconnecting answer => rfl
        | wakeUp seconds answer => rfl
        | _ => cases own
      · rw [past, before_past]
        rfl

/-! ### The operations -/

section Operations

variable [Transport τ]

theorem ConnectTask.step_executes {task : ConnectTask}
    (executes : (Operation.connect task).Executes command) (env : Env) (event : Event Operation) :
    (Operation.step env event (.connect task) desk).operation.Executes command := by
  have same : command = .connect task.request := executes
  cases event with
  | send =>
      refine same.trans (congrArg Command.connect ?_)
      unfold ConnectTask.send
      split <;> rfl
  | completed =>
      refine same.trans (congrArg Command.connect ?_)
      unfold ConnectTask.completed
      split
      · simp only
        split
        · rfl
        · split
          · rfl
          · split <;> rfl
      · rfl
      · rfl
  | returned reply finished =>
      refine same.trans (congrArg Command.connect ?_)
      unfold ConnectTask.returned
      split
      · split <;> rfl
      · rfl

namespace ChangeDirTask

variable {task : ChangeDirTask} (works : desk.Works good (.changeDir task) desk)
  (executes : (Operation.changeDir task).Executes command)

include works executes

theorem send_speaks (quotes : ∀ t, good t → Transport.quote t = Quoting.quote) :
    ((task.send desk).map .changeDir).Speaks command desk := by
  unfold send
  split
  · exact ⟨executes, works.voices command⟩
  · split
    · exact ⟨executes, works.voices command⟩
    · split
      · exact ⟨executes, works.voices command⟩
      · exact ⟨executes, works.forgetDirectory.voices_send quotes (.enters executes) _⟩

theorem completed_speaks : ((task.completed desk).map .changeDir).Speaks command desk := by
  unfold completed
  split
  · simp only
    split <;> exact ⟨executes, works.voices command⟩
  · exact ⟨executes, works.voices command⟩

end ChangeDirTask

namespace ListTask

variable {task : ListTask} (works : desk.Works good (.list task) desk)
  (executes : (Operation.list task).Executes command)

include works executes

theorem send_speaks (quotes : ∀ t, good t → Transport.quote t = Quoting.quote) (env : Env) :
    ((task.send env desk).map .list).Speaks command desk := by
  have same : command = .list task.request := executes.1
  unfold send
  split
  · have consulted := consultCache_works
      (discard_works works task.request.flags (task.request.target? desk.session.directory)) env
      task.request.flags (task.request.target? desk.session.directory)
    simp only
    split
    · exact ⟨executes, consulted.voices command⟩
    · split
      · split
        · exact ⟨⟨same, nofun⟩, consulted.voices command⟩
        · rename_i path found elsewhere
          have leads : task.request.target? none = some path := by
            unfold ListRequest.target? at found ⊢
            rwa [if_neg fun unspecified => elsewhere (.inl unspecified)] at found ⊢
          refine ⟨⟨same, ?_⟩, consulted.voices_request command _⟩
          rintro target ⟨⟩
          exact leads
      · exact ⟨⟨same, nofun⟩, consulted.voices command⟩
  · exact ⟨⟨same, nofun⟩, works.voices_send quotes (.lists same) _⟩
  · exact ⟨executes, works.voices command⟩
  · exact ⟨executes, works.voices command⟩

theorem completed_speaks (answers : Transport.Answers good (fun _ => True) (fun _ => True))
    (env : Env) : ((task.completed env desk).map .list).Speaks command desk := by
  unfold completed
  split
  · simp only
    split
    · exact ⟨executes, works.voices command⟩
    · split
      · exact ⟨executes, ((works.takeListing answers).tellCache _).voices command⟩
      · exact ⟨executes, (works.takeListing answers).voices command⟩
  · exact ⟨executes, works.voices command⟩
  · exact ⟨executes, works.voices command⟩
  · exact ⟨executes, works.voices command⟩

omit [Transport τ] in
theorem returned_speaks (entered : Reply) :
    ((task.returned entered desk).map .list).Speaks command desk := by
  unfold returned
  split
  · simp only
    split
    · exact ⟨⟨executes.1, nofun⟩, works.voices command⟩
    · split
      · exact ⟨executes, works.voices command⟩
      · split
        · exact ⟨executes, works.voices command⟩
        · exact ⟨⟨executes.1, nofun⟩, (works.quiet (.noteEntered (.refl desk) _ _)).voices command⟩
  · exact ⟨executes, works.voices command⟩
  · exact ⟨executes, works.voices command⟩
  · exact ⟨executes, works.voices command⟩

end ListTask

namespace TransferTask

variable {task : TransferTask} (works : desk.Works good (.transfer task) desk)
  (executes : (Operation.transfer task).Executes command)

include works executes

theorem send_speaks (answers : Transport.Answers good (fun _ => True) (fun _ => True))
    (quotes : ∀ t, good t → Transport.quote t = Quoting.quote) :
    ((task.send desk).map .transfer).Speaks command desk := by
  have same : command = .transfer task.request := executes
  unfold send
  split
  · simp only
    split
    · exact ⟨executes, ((works.note _ _).note _ _).voices_request command _⟩
    · exact ⟨executes, (works.note _ _).voices_request command _⟩
  · simp only
    split
    · rename_i refused
      obtain ⟨-, text, rfl⟩ := openChannel_error refused
      exact ⟨executes, works.voices command⟩
    · rename_i opened
      obtain ⟨store, rfl⟩ := openChannel_ok opened
      have told := (mark_works (works.withStore store) .unknown).announce answers
      exact ⟨executes, (told _).voices_send quotes (same ▸ .speaks ⟨_, rfl⟩) _⟩
  · exact ⟨executes, works.voices command⟩
  · exact ⟨executes, works.voices command⟩

theorem completed_speaks : ((task.completed desk).map .transfer).Speaks command desk := by
  unfold completed
  split
  · simp only
    split <;> exact ⟨executes, works.voices command⟩
  · exact ⟨executes, works.voices command⟩
  · exact ⟨executes, works.voices command⟩
  · exact ⟨executes, works.voices command⟩

omit [Transport τ] in
theorem returned_speaks (entered : Reply) :
    ((task.returned entered desk).map .transfer).Speaks command desk := by
  unfold returned
  split
  · exact ⟨executes, (works.quiet (.noteEntered (.refl desk) _ _)).voices command⟩
  · exact ⟨executes, works.voices command⟩
  · exact ⟨executes, works.voices command⟩
  · exact ⟨executes, works.voices command⟩

end TransferTask

namespace DeleteTask

variable {task : DeleteTask} (works : desk.Works good (.delete task) desk)
  (executes : (Operation.delete task).Executes command)

include works executes

theorem send_speaks (quotes : ∀ t, good t → Transport.quote t = Quoting.quote) :
    ((task.send desk).map .delete).Speaks command desk := by
  unfold send
  split
  · exact ⟨executes, (works.note _ _).voices_request command _⟩
  · rename_i naming _
    split
    · split <;> exact ⟨executes, works.voices command⟩
    · rename_i file rest left
      obtain ⟨done, same⟩ := id executes
      have own : command.Utters (.remove ⟨task.path, naming, file⟩) := by
        rw [same, left]
        exact .speaks ⟨_, file, List.mem_append_right _ List.mem_cons_self, rfl⟩
      exact ⟨executes, (works.tellCache _).voices_send quotes own _⟩
  · exact ⟨executes, works.voices command⟩
  · exact ⟨executes, works.voices command⟩

/-- The file that was in question is done with. -/
theorem completed_speaks : ((task.completed desk).map .delete).Speaks command desk := by
  obtain ⟨done, same⟩ := id executes
  have onward : ∃ done, command = .delete ⟨task.path, done ++ task.rest.tail⟩ := by
    refine ⟨done ++ task.rest.head?.toList, same.trans ?_⟩
    cases task.rest <;> simp
  unfold completed
  split
  · simp only
    split
    · split
      · exact ⟨executes, works.voices command⟩
      · exact ⟨onward, works.voices command⟩
    · exact ⟨onward, works.voices command⟩
  · exact ⟨executes, works.voices command⟩
  · exact ⟨executes, works.voices command⟩
  · exact ⟨executes, works.voices command⟩

omit [Transport τ] in
theorem returned_speaks (entered : Reply) :
    ((task.returned entered desk).map .delete).Speaks command desk := by
  unfold returned
  split <;> exact ⟨executes, works.voices command⟩

end DeleteTask

namespace RemoveDirTask

variable {task : RemoveDirTask} (works : desk.Works good (.removeDir task) desk)
  (executes : (Operation.removeDir task).Executes command)

include works executes

theorem send_speaks (quotes : ∀ t, good t → Transport.quote t = Quoting.quote) :
    ((task.send desk).map .removeDir).Speaks command desk := by
  have same : command = .removeDir task.request := executes
  unfold send
  simp only
  split
  · exact ⟨executes, (works.note _ _).voices_request command _⟩
  · exact ⟨executes, (works.tellCache _).voices_send quotes (same ▸ .speaks ⟨_, rfl⟩) _⟩
  · exact ⟨executes, works.voices command⟩
  · exact ⟨executes, works.voices command⟩

theorem completed_speaks : ((task.completed desk).map .removeDir).Speaks command desk := by
  unfold completed
  split <;> exact ⟨executes, works.voices command⟩

omit [Transport τ] in
theorem returned_speaks (entered : Reply) :
    ((task.returned entered desk).map .removeDir).Speaks command desk := by
  unfold returned
  split
  · exact ⟨executes, (works.quiet (.noteEntered (.refl desk) _ _)).voices command⟩
  · exact ⟨executes, works.voices command⟩
  · exact ⟨executes, works.voices command⟩
  · exact ⟨executes, works.voices command⟩

end RemoveDirTask

namespace RenameTask

variable {task : RenameTask} (works : desk.Works good (.rename task) desk)
  (executes : (Operation.rename task).Executes command)

include works executes

theorem send_speaks (quotes : ∀ t, good t → Transport.quote t = Quoting.quote) :
    ((task.send desk).map .rename).Speaks command desk := by
  have same : command = .rename task.request := executes
  unfold send
  simp only
  split
  · exact ⟨executes, (works.note _ _).voices_request command _⟩
  · exact ⟨executes, (works.tellCache _).voices_send quotes (same ▸ .speaks ⟨_, _, rfl⟩) _⟩
  · exact ⟨executes, works.voices command⟩
  · exact ⟨executes, works.voices command⟩

theorem completed_speaks : ((task.completed desk).map .rename).Speaks command desk := by
  unfold completed
  split <;> exact ⟨executes, works.voices command⟩

omit [Transport τ] in
theorem returned_speaks (entered : Reply) :
    ((task.returned entered desk).map .rename).Speaks command desk := by
  unfold returned
  split
  · exact ⟨executes, (works.quiet (.noteEntered (.refl desk) _ _)).voices command⟩
  · exact ⟨executes, works.voices command⟩
  · exact ⟨executes, works.voices command⟩
  · exact ⟨executes, works.voices command⟩

end RenameTask

namespace ChmodTask

variable {task : ChmodTask} (works : desk.Works good (.chmod task) desk)
  (executes : (Operation.chmod task).Executes command)

include works executes

theorem send_speaks (quotes : ∀ t, good t → Transport.quote t = Quoting.quote) :
    ((task.send desk).map .chmod).Speaks command desk := by
  have same : command = .chmod task.request := executes
  unfold send
  simp only
  split
  · exact ⟨executes, (works.note _ _).voices_request command _⟩
  · exact ⟨executes, (works.tellCache _).voices_send quotes (same ▸ .speaks ⟨_, rfl⟩) _⟩
  · exact ⟨executes, (works.tellCache _).voices_send quotes (same ▸ .speaks ⟨_, rfl⟩) _⟩
  · exact ⟨executes, works.voices command⟩

theorem completed_speaks : ((task.completed desk).map .chmod).Speaks command desk := by
  unfold completed
  split <;> exact ⟨executes, works.voices command⟩

omit [Transport τ] in
theorem returned_speaks (entered : Reply) :
    ((task.returned entered desk).map .chmod).Speaks command desk := by
  unfold returned
  split
  · exact ⟨executes, (works.quiet (.noteEntered (.refl desk) _ _)).voices command⟩
  · exact ⟨executes, works.voices command⟩
  · exact ⟨executes, works.voices command⟩
  · exact ⟨executes, works.voices command⟩

end ChmodTask

namespace MakeDirTask

variable {task : MakeDirTask} (works : desk.Works good (.makeDir task) desk)
  (executes : (Operation.makeDir task).Executes command)

include works executes

theorem send_speaks (quotes : ∀ t, good t → Transport.quote t = Quoting.quote) :
    ((task.send desk).map .makeDir).Speaks command desk := by
  have same : command = .makeDir task.request := executes
  unfold send
  split
  · exact ⟨executes, works.voices command⟩
  · exact ⟨executes, (mark_works works _).voices_send quotes (same ▸ .speaks rfl) _⟩
  · exact ⟨executes, works.voices command⟩

theorem completed_speaks : ((task.completed desk).map .makeDir).Speaks command desk := by
  unfold completed
  split <;> exact ⟨executes, works.voices command⟩

end MakeDirTask

namespace RawTask

variable {task : RawTask} (works : desk.Works good (.raw task) desk)
  (executes : (Operation.raw task).Executes command)

include works executes

theorem send_speaks (quotes : ∀ t, good t → Transport.quote t = Quoting.quote) :
    ((task.send desk).map .raw).Speaks command desk := by
  have same : command = .raw task.line := executes
  unfold send
  split
  · exact ⟨executes, works.voices command⟩
  · have told := ((works.note .info ("Sending raw command '" ++ task.line ++ "'")).tellCache
      .forgetServer).forgetDirectory
    exact ⟨executes, told.voices_send quotes (same ▸ .speaks rfl) _⟩

theorem completed_speaks : ((task.completed desk).map .raw).Speaks command desk := by
  unfold completed
  split <;> exact ⟨executes, works.voices command⟩

end RawTask

/-- Every step of an operation that executes the command sends lines of the command only. -/
theorem Operation.step_speaks (answers : Transport.Answers good (fun _ => True) (fun _ => True))
    (quotes : ∀ t, good t → Transport.quote t = Quoting.quote) (env : Env)
    (event : Event Operation) (transport : good desk.transport) (pending : desk.pending = none)
    (executes : operation.Executes command) :
    (operation.step env event desk).Speaks command desk := by
  have works : desk.Works good operation desk := .refl operation transport pending
  have does := step_does answers env event operation transport pending
  cases operation with
  | connect task => exact does.speaks rfl (ConnectTask.step_executes executes env event)
  | disconnect task => exact does.speaks rfl (by cases event <;> exact executes)
  | sleep task => exact does.speaks rfl (by cases event <;> trivial)
  | changeDir task =>
      cases event with
      | send => exact ChangeDirTask.send_speaks works executes quotes
      | completed => exact ChangeDirTask.completed_speaks works executes
      | returned reply finished => exact ⟨executes, works.voices command⟩
  | list task =>
      cases event with
      | send => exact ListTask.send_speaks works executes quotes env
      | completed => exact ListTask.completed_speaks works executes answers env
      | returned reply finished => exact ListTask.returned_speaks works executes reply
  | transfer task =>
      cases event with
      | send => exact TransferTask.send_speaks works executes answers quotes
      | completed => exact TransferTask.completed_speaks works executes
      | returned reply finished => exact TransferTask.returned_speaks works executes reply
  | delete task =>
      cases event with
      | send => exact DeleteTask.send_speaks works executes quotes
      | completed => exact DeleteTask.completed_speaks works executes
      | returned reply finished => exact DeleteTask.returned_speaks works executes reply
  | removeDir task =>
      cases event with
      | send => exact RemoveDirTask.send_speaks works executes quotes
      | completed => exact RemoveDirTask.completed_speaks works executes
      | returned reply finished => exact RemoveDirTask.returned_speaks works executes reply
  | makeDir task =>
      cases event with
      | send => exact MakeDirTask.send_speaks works executes quotes
      | completed => exact MakeDirTask.completed_speaks works executes
      | returned reply finished => exact ⟨executes, works.voices command⟩
  | rename task =>
      cases event with
      | send => exact RenameTask.send_speaks works executes quotes
      | completed => exact RenameTask.completed_speaks works executes
      | returned reply finished => exact RenameTask.returned_speaks works executes reply
  | chmod task =>
      cases event with
      | send => exact ChmodTask.send_speaks works executes quotes
      | completed => exact ChmodTask.completed_speaks works executes
      | returned reply finished => exact ChmodTask.returned_speaks works executes reply
  | raw task =>
      cases event with
      | send => exact RawTask.send_speaks works executes quotes
      | completed => exact RawTask.completed_speaks works executes
      | returned reply finished => exact ⟨executes, works.voices command⟩

end Operations

end Steps

/-! ## Along the turns of a call -/

/-- The operation executes the command accepted last, or enters its directory. -/
def Operation.IsOrdered (past : List Happening) (operation : Operation) : Prop :=
  ∃ command, lastCommand? past = some command ∧ command.valid = true ∧ operation.Executes command

/-- What was sent is worded, and who may send more executes the command accepted last. -/
structure Worded (good : Transport.States τ) (desk : Desk τ Operation) (stack : List Operation) :
    Prop where
  transport : good desk.transport
  ordered : ∀ operation ∈ stack, operation.IsOrdered desk.past
  lines : Throughout Happening.IsWorded desk.past

section Turns

variable {good : Transport.States τ} {desk after : Desk τ Operation} {stack : List Operation}
  {made : List Happening}

theorem Operation.IsOrdered.of_asked {operation child : Operation} {past : List Happening}
    (ordered : operation.IsOrdered past) (waits : operation.WaitsFor child) :
    child.IsOrdered past := by
  obtain ⟨command, last, valid, executes⟩ := ordered
  exact ⟨command, last, valid, executes.of_asked waits⟩

theorem Operation.IsOrdered.of_same {operation : Operation} {past later : List Happening}
    (ordered : operation.IsOrdered past) (same : lastCommand? later = lastCommand? past) :
    operation.IsOrdered later := by
  obtain ⟨command, last, valid, executes⟩ := ordered
  exact ⟨command, same.trans last, valid, executes⟩

namespace Worded

/-- It stays so while no line is sent and no command accepted. -/
theorem silent (worded : Worded good desk stack) (transport : good after.transport)
    (past : after.past = made ++ desk.past)
    (silent : ∀ happening ∈ made, happening.line? = none ∧ happening.command? = none) :
    Worded good after stack := by
  refine ⟨transport, fun operation mem => ?_, ?_⟩
  · refine (worded.ordered operation mem).of_same ?_
    rw [past]
    exact lastCommand?_append fun happening made => (silent happening made).2
  · rw [past]
    exact worded_lines (fun happening made => (silent happening made).1) worded.lines

theorem note (worded : Worded good desk stack) (level : LogLevel) (text : String) :
    Worded good (desk.note level text) stack :=
  ⟨worded.transport, worded.ordered, worded.lines⟩

theorem below {stack' : List Operation} (worded : Worded good desk stack)
    (fewer : ∀ operation ∈ stack', operation ∈ stack) : Worded good desk stack' :=
  ⟨worded.transport, fun operation mem => worded.ordered operation (fewer operation mem),
    worded.lines⟩

variable [Transport τ]

theorem abandon (worded : Worded good desk stack) (env : Env) (stack' : List Operation) :
    Worded good (Courier.abandon env stack' desk) [] := by
  obtain ⟨doubts, all, past⟩ := Engine.abandon_past env stack' desk
  refine (worded.below (List.forall_mem_nil _)).silent ?_ past fun happening mem =>
    ⟨Happening.line?_of_isDoubt (all happening mem),
      Happening.command?_of_isDoubt (all happening mem)⟩
  rw [abandon_transport]
  exact worded.transport

variable (answers : Transport.Answers good (fun _ => True) (fun _ => True))
  (quotes : ∀ t, good t → Transport.quote t = Quoting.quote)
  {turn : Turn τ Operation} {env : Env}

include answers quotes

theorem step (worded : Worded good turn.desk (turn.top :: turn.below)) (env : Env) :
    Worded good (turn.step env).desk ((turn.step env).operation :: turn.below) := by
  obtain ⟨own, others⟩ := List.forall_mem_cons.1 worded.ordered
  obtain ⟨command, last, valid, executes⟩ := own
  obtain ⟨stays, made, voices, past⟩ :=
    (show (turn.step env).Speaks command { turn.desk with pending := none } from
      Operation.step_speaks answers quotes env turn.event worded.transport rfl executes)
  have past : (turn.step env).desk.past = made ++ turn.desk.past := past
  have same : lastCommand? (turn.step env).desk.past = lastCommand? turn.desk.past := by
    rw [past]
    exact lastCommand?_voices voices
  refine ⟨(Turn.step_does answers worded.transport env).good_transport, ?_, ?_⟩
  · exact List.forall_mem_cons.2 ⟨⟨command, same.trans last, valid, stays⟩,
      fun operation mem => (others operation mem).of_same same⟩
  · rw [past]
    exact worded_voices voices last valid worded.lines

theorem next (worded : Worded good turn.desk (turn.top :: turn.below))
    {later : Turn τ Operation} (h : turn.next env = .inr later) :
    Worded good later.desk (later.top :: later.below) := by
  have stepped := worded.step answers quotes env
  rcases Step.next_eq_inr h with ⟨-, left, -, rfl⟩ | ⟨-, -, -, parent, rest, below, rfl⟩
  · cases asked : (turn.step env).desk.pending with
    | none =>
        rw [Step.onward_of_silent asked]
        exact ⟨stepped.transport, stepped.ordered, stepped.lines⟩
    | some child =>
        have waits := ((Turn.step_does answers worded.transport env).waitsFor asked).2.1
        rw [Step.onward_of_asks asked]
        exact ⟨stepped.transport, List.forall_mem_cons.2
          ⟨(stepped.ordered _ List.mem_cons_self).of_asked waits, stepped.ordered⟩, stepped.lines⟩
  · refine ⟨stepped.transport, fun operation mem => stepped.ordered operation ?_, stepped.lines⟩
    rw [below]
    exact List.mem_cons_of_mem _ mem

theorem ends (worded : Worded good turn.desk (turn.top :: turn.below))
    {outcome : Outcome τ Operation} (h : turn.next env = .inl outcome) :
    Worded good outcome.desk outcome.stack := by
  have stepped := worded.step answers quotes env
  have noted : Worded good (turn.step env).noted ((turn.step env).operation :: turn.below) :=
    stepped.note _ _
  rcases Step.next_eq_inl h with ⟨-, -, rfl⟩ | ⟨-, child, -, rfl⟩ | ⟨-, -, rfl⟩ | ⟨-, -, -, -, rfl⟩
  · exact (noted.note _ _).abandon env _
  · exact (noted.note _ _).abandon env _
  · exact noted
  · obtain ⟨text, finished⟩ := finish_eq (HasKind.kind (turn.step env).operation)
      (turn.step env).reply (turn.step env).noted
    rw [finished]
    exact ⟨noted.transport, List.forall_mem_nil _, noted.lines⟩

end Worded

end Turns

/-! ## Whole runs -/

namespace Engine

variable [Transport τ] {good : Transport.States τ} {engine : Engine τ Operation}

theorem worded_opening (worded : Worded good engine.desk engine.stack) {call : Call}
    {first : Turn τ Operation} (opened : engine.opening call = some first) :
    Worded good first.desk (first.top :: first.below) := by
  rcases opening_eq_some opened with ⟨command, operation, rfl, accepted, rfl⟩ |
    ⟨top, below, rfl, stack, rfl⟩
  · obtain ⟨-, valid, protocol, -, offered⟩ := accept_eq_ok accepted
    exact ⟨worded.transport, List.forall_mem_singleton.2
      ⟨command, rfl, valid, Operation.executes_of_ofCommand? offered⟩, trivial, worded.lines⟩
  · rw [stack] at worded
    exact ⟨worded.transport, worded.ordered, trivial, worded.lines⟩

variable (answers : Transport.Answers good (fun _ => True) (fun _ => True))
  (quotes : ∀ t, good t → Transport.quote t = Quoting.quote)

include answers

theorem worded_cancel (worded : Worded good engine.desk engine.stack) :
    Worded good engine.cancel.2.desk engine.cancel.2.stack := by
  unfold cancel
  split
  · have told : Worded good ((engine.desk.record .canceled).note .info "Command canceled")
        engine.stack := ⟨worded.transport, worded.ordered, trivial, worded.lines⟩
    have given := told.abandon engine.env engine.stack
    exact ⟨answers.abort _ given.transport, List.forall_mem_nil _, trivial, given.lines⟩
  · exact worded

omit answers in
theorem worded_connectionLost (worded : Worded good engine.desk engine.stack) :
    Worded good engine.connectionLost.2.desk engine.connectionLost.2.stack := by
  have told : Worded good (engine.desk.record .connectionLost) engine.stack :=
    ⟨worded.transport, worded.ordered, trivial, worded.lines⟩
  unfold connectionLost
  split
  · have given := (told.note .warn "connection lost while a command was in progress").abandon
      engine.env engine.stack
    exact ⟨given.transport, List.forall_mem_nil _, given.lines⟩
  · exact ⟨told.transport, told.ordered, told.lines⟩

include quotes

theorem worded_make (worded : Worded good engine.desk engine.stack) (call : Call) :
    Worded good (engine.make call).2.desk (engine.make call).2.stack := by
  refine make_rule (P := fun after => Worded good after.desk after.stack) call ?_
    (worded_cancel answers worded) (worded_connectionLost worded) worded ?_
  · intro first opened
    refine Turn.rule (P := fun turn => Worded good turn.desk (turn.top :: turn.below))
      (Q := fun outcome => Worded good (engine.take outcome).2.desk (engine.take outcome).2.stack)
      ?_ ?_ (worded_opening worded opened)
    · intro turn after worded next
      exact worded.next answers quotes next
    · intro turn outcome worded next
      exact worded.ends answers quotes next
  · intro level text
    exact worded.note level text

omit answers quotes [Transport τ] in
theorem worded_drifts {after : Engine τ Operation} (worded : Worded good engine.desk engine.stack)
    (drifts : engine.Drifts good after) : Worded good after.desk after.stack := by
  obtain ⟨waits, all, past⟩ := drifts.past
  have waited : Worded good after.desk engine.stack :=
    worded.silent drifts.transport past fun happening mem =>
      ⟨Happening.line?_of_isWait (all happening mem),
        Happening.command?_of_isWait (all happening mem)⟩
  rcases drifts.stack with same | ⟨top, below, channel, before, -, now⟩
  · rw [same]
    exact waited
  · rw [before] at waited
    obtain ⟨⟨command, last, valid, executes⟩, others⟩ := List.forall_mem_cons.1 waited.ordered
    rw [now]
    exact ⟨waited.transport, List.forall_mem_cons.2
      ⟨⟨command, last, valid, executes.withChannel channel⟩, others⟩, waited.lines⟩

theorem worded_of_reachable (reachable : engine.Reachable good) :
    Worded good engine.desk engine.stack := by
  induction reachable with
  | fresh new transport =>
      rw [new.stack]
      refine ⟨transport, List.forall_mem_nil _, ?_⟩
      rw [new.past]
      trivial
  | call _ call _ ih => exact worded_make answers quotes ih call
  | wait _ drifts ih => exact worded_drifts ih drifts

/-- In every run over a transport that quotes names in the common way, whatever it answers: a line
that is sent is one of the command accepted last or enters its directory, and its text is the line
with the names quoted. If the command is not a line of the caller, the text is read as the words it
is meant to have exactly if what stands in it without quotes is read as one word; and it has a line
break exactly if one of its words does. -/
theorem lines_read_back (reachable : engine.Reachable good) {later earlier : List Happening}
    {line : WireLine} {text : String} {answer : Reply}
    (past : engine.desk.past = later ++ .sent line text answer :: earlier) :
    ∃ command, lastCommand? earlier = some command ∧ command.valid = true ∧
      command.Utters line ∧ text = line.text Quoting.quote ∧
      ((∀ own, command ≠ .raw own) →
        (Quoting.words text = line.words ↔ line.IsPlain) ∧
          Quoting.hasBreak text = line.words.any Quoting.hasBreak) := by
  obtain ⟨command, last, valid, utters, rfl⟩ :=
    (worded_of_reachable answers quotes reachable).lines.at past
  refine ⟨command, last, valid, utters, rfl, ?_⟩
  intro other
  exact ⟨WireLine.words_text_iff (utters.isOwn other), WireLine.hasBreak_text (utters.isOwn other)⟩

end Engine

/-! ## Permissions and line breaks -/

/-- The text of a line. -/
def Happening.text? : Happening → Option String
  | .sent _ text _ => some text
  | _ => none

namespace Scripted

/-- File names are quoted in this way. -/
abbrev Quotes (style : QuoteStyle) (t : Scripted) : Prop := t.quoting = style

/-- A script says nothing of quotes. -/
theorem answers_quoting (style : QuoteStyle) :
    Transport.Answers (Quotes style : Transport.States Scripted) (fun _ => True)
      (fun _ => True) where
  send := fun _ _ same => ⟨trivial, same⟩
  connect := fun _ _ _ same => ⟨trivial, same⟩
  wakeUp := fun _ _ same => ⟨trivial, same⟩
  disconnect := fun _ same => same
  takeListing := fun t same => by
    unfold Transport.takeListing instTransport
    simp only
    split <;> exact same
  announce := fun _ _ same => same
  abort := fun _ same => same
  result := fun _ _ _ => trivial

theorem quote_of_standard (t : Scripted) (standard : t.Quotes .standard) :
    Transport.quote t = Quoting.quote := by
  show t.quoting.apply = Quoting.quote
  rw [standard]
  rfl

end Scripted

namespace Engine

/-- An engine that has entered the root to change the permissions of a file there. -/
def altering (file permission : String) : Engine Scripted Operation :=
  (rehearsed {}).after (connecting ++ [.execute (.chmod ⟨.root, file, permission⟩), .resume])

theorem altering_reachable (file permission : String) :
    (altering file permission).Reachable (Scripted.Quotes .standard) := by
  have fresh : (rehearsed {}).Reachable (Scripted.Quotes .standard) := .fresh ⟨rfl, rfl, rfl⟩ rfl
  exact fresh.after _

/-- The line that was sent last, and its text. -/
theorem exists_sent_text (past : List Happening) {line : WireLine} {text : String}
    (sent : past.head?.bind Happening.line? = some line)
    (worded : past.head?.bind Happening.text? = some text) :
    ∃ answer earlier, past = .sent line text answer :: earlier := by
  cases past with
  | nil => cases sent
  | cons happening earlier =>
      cases happening with
      | sent line text answer =>
          obtain rfl := Option.some.inj sent
          obtain rfl := Option.some.inj worded
          exact ⟨answer, earlier, rfl⟩
      | _ => cases sent

/-- The name of the file is awkward, the permission is not. -/
theorem lines_read_back_awkward :
    ∃ line text answer earlier,
      (altering "say \"hi\" " "644").desk.past = .sent line text answer :: earlier ∧
        Quoting.words text = ["chmod", "644", "say \"hi\" "] := by
  obtain ⟨answer, earlier, past⟩ : ∃ answer earlier, (altering "say \"hi\" " "644").desk.past =
      .sent (.chmod "644" ⟨.root, .bare, "say \"hi\" "⟩) "chmod 644 \"say \"\"hi\"\" \"" answer ::
        earlier := exists_sent_text _ (by decide +kernel) (by decide +kernel)
  refine ⟨_, _, answer, earlier, past, ?_⟩
  obtain ⟨command, -, -, utters, -, read⟩ := lines_read_back (Scripted.answers_quoting .standard)
    Scripted.quote_of_standard (altering_reachable _ _) (past.trans (List.nil_append _).symm)
  have other : ∀ own, command ≠ .raw own := by
    rintro own rfl
    cases utters with
    | speaks own => cases own
  exact (read other).1.2 (show Quoting.IsPlain "644".toList by decide)

/-- A permission with a blank in it becomes two words, and quotes let a line break through. -/
theorem lines_misread :
    (∃ line text answer earlier,
      (Command.chmod ⟨.root, "f", "6 44"⟩).valid = true ∧
      (altering "f" "6 44").Reachable (Scripted.Quotes .standard) ∧
      (altering "f" "6 44").desk.past = .sent line text answer :: earlier ∧
      line.words = ["chmod", "6 44", "f"] ∧ Quoting.words text = ["chmod", "6", "44", "f"]) ∧
    ∃ line text answer earlier,
      (Command.chmod ⟨.root, "a\nb", "644"⟩).valid = true ∧
      (altering "a\nb" "644").Reachable (Scripted.Quotes .standard) ∧
      (altering "a\nb" "644").desk.past = .sent line text answer :: earlier ∧
      Quoting.hasBreak text = true := by
  constructor
  · obtain ⟨answer, earlier, past⟩ : ∃ answer earlier, (altering "f" "6 44").desk.past =
        .sent (.chmod "6 44" ⟨.root, .bare, "f"⟩) "chmod 6 44 f" answer :: earlier :=
      exists_sent_text _ (by decide +kernel) (by decide +kernel)
    exact ⟨_, _, answer, earlier, by decide, altering_reachable _ _, past, rfl, by decide⟩
  · obtain ⟨answer, earlier, past⟩ : ∃ answer earlier, (altering "a\nb" "644").desk.past =
        .sent (.chmod "644" ⟨.root, .bare, "a\nb"⟩) "chmod 644 \"a\nb\"" answer :: earlier :=
      exists_sent_text _ (by decide +kernel) (by decide +kernel)
    exact ⟨_, _, answer, earlier, by decide, altering_reachable _ _, past, by decide⟩

end Engine

end Courier
