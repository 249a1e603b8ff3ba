import Courier.Proofs.DirectoryCommands
import Courier.Proofs.Runs

/-!
# Scripts

What is said to the server in the course of a command, written down straight: which line is sent
next, given how the former ones were answered. A script is played by a talk, the lines sent with
their answers and the results reported. The scripts of the five commands that work inside a
directory are the specification of their operations.
-/

namespace Courier

open RemotePath (Naming)

inductive Script where
  /-- The command ends with this reply. -/
  | done (reply : Reply)
  /-- What follows depends on the local store. -/
  | look (next : Local.Store → Script)
  /-- A line is sent; what follows depends on how that is answered at once. -/
  | send (line : WireLine) (next : Reply → Script)
  /-- What is under way is waited for; what follows depends on its result. -/
  | wait (next : Reply → Script)

namespace Script

/-- Sends a line and waits for its result, unless the line is refused at once. -/
def ask (line : WireLine) (refused finished : Reply → Script) : Script :=
  .send line fun answer => if answer = .wouldBlock then .wait finished else refused answer

/-- Changes into a directory, unless it is the current one. However that ends, the command goes on:
objects are named by their bare names exactly if nothing had to be done or the change succeeded. -/
def enter (current : Option RemotePath) (path : RemotePath) (body : Naming → Script) : Script :=
  if current = some path then body .bare
  else ask (.changeDir path) (fun reply => body (.after reply)) fun reply => body (.after reply)

/-- One line, whose reply is that of the command. -/
def line (line : WireLine) : Script := ask line .done .done

/-- Removes files one by one. A line that is refused, a critical failure and a timeout end the
command; any other failure counts at the end. -/
def remove (path : RemotePath) (naming : Naming) : List String → (failed : Nat) → Script
  | [], failed => .done (if failed = 0 then .ok else .error)
  | file :: rest, failed =>
    ask (.remove ⟨path, naming, file⟩) .done fun result =>
      if result.isError then
        if DeleteTask.isFatal result then .done result else remove path naming rest (failed + 1)
      else remove path naming rest failed

/-- Transfers a file, if its local end can be opened. -/
def transfer (request : TransferRequest) (naming : Naming) : Script :=
  .look fun store =>
    match Operation.openFailure? store request.localEnd with
    | some reply => .done reply
    | none =>
      let object : ObjectName := ⟨request.path, naming, request.file⟩
      line (if request.isDownload then .get object else .put object)

/-- The target is named by its bare name only if the source is and the directory stays the same. -/
def rename (request : RenameRequest) (naming : Naming) : Script :=
  line (.move ⟨request.fromPath, naming, request.fromFile⟩
    ⟨request.toPath, if naming = .bare ∧ request.toPath = request.fromPath then .bare else .full,
      request.toFile⟩)

/-- The script of a command that works inside a directory, given the current one. -/
def ofCommand? (current : Option RemotePath) : Command → Option Script
  | .chmod request =>
    some (enter current request.path fun naming =>
      line (.chmod request.permission ⟨request.path, naming, request.file⟩))
  | .removeDir request =>
    some (enter current request.path fun naming =>
      line (.removeDir ⟨request.path, naming, request.subDir⟩))
  | .rename request => some (enter current request.fromPath (rename request))
  | .transfer request => some (enter current request.path (transfer request))
  | .delete request =>
    some (enter current request.path fun naming => remove request.path naming request.files 0)
  | _ => none

end Script

/-! ## Talks -/

/-- What is said and heard in the course of a command. -/
inductive Talk where
  | sent (line : WireLine) (text : String) (answer : Reply)
  /-- The result was reported; the local store is now this one. -/
  | told (result : Reply) (store : Local.Store)

namespace Talk

def happening : Talk → Happening
  | sent line text answer => .sent line text answer
  | told result _ => .completed result

def line? : Talk → Option WireLine
  | sent line _ _ => some line
  | told _ _ => none

/-- What was told by a call, with the store at the time. -/
def report? : Talk → Option (Reply × Local.Store)
  | told result store => some (result, store)
  | sent _ _ _ => none

end Talk

def Happening.isTalk : Happening → Bool
  | .sent _ _ _ | .completed _ => true
  | _ => false

theorem Happening.isTalk_of_isTelling {happening : Happening} (h : happening.isTelling = true) :
    happening.isTalk = false := by
  cases happening <;> first | rfl | cases h

theorem Happening.isTalk_of_isWait {happening : Happening} (h : happening.isWait = true) :
    happening.isTalk = false := by
  cases happening <;> first | rfl | cases h

namespace Script

/-- With the talk the script is played from one place to another. -/
inductive Plays : Local.Store → Script → List Talk → Local.Store → Script → Prop
  | nothing (store : Local.Store) (script : Script) : Plays store script [] store script
  | look {store last : Local.Store} {next : Local.Store → Script} {talk : List Talk}
      {rest : Script} (plays : Plays store (next store) talk last rest) :
      Plays store (.look next) talk last rest
  | sent {store last : Local.Store} {line : WireLine} {next : Reply → Script} {talk : List Talk}
      {rest : Script} (text : String) (answer : Reply)
      (plays : Plays store (next answer) talk last rest) :
      Plays store (.send line next) (.sent line text answer :: talk) last rest
  | told {store now last : Local.Store} {next : Reply → Script} {talk : List Talk}
      {rest : Script} (result : Reply) (plays : Plays now (next result) talk last rest) :
      Plays store (.wait next) (.told result now :: talk) last rest

variable {store middle last : Local.Store} {script between rest : Script} {first second : List Talk}

theorem Plays.trans (before : Plays store script first middle between)
    (after : Plays middle between second last rest) :
    Plays store script (first ++ second) last rest := by
  induction before with
  | nothing => exact after
  | look _ ih => exact .look (ih after)
  | sent text answer _ ih => exact .sent text answer (ih after)
  | told result _ ih => exact .told result (ih after)

theorem enter_here {current : Option RemotePath} {path : RemotePath} (h : current = some path)
    (body : Naming → Script) : enter current path body = body .bare := if_pos h

theorem enter_elsewhere {current : Option RemotePath} {path : RemotePath}
    (h : current ≠ some path) (body : Naming → Script) :
    enter current path body = ask (.changeDir path) (fun reply => body (.after reply))
      fun reply => body (.after reply) := if_neg h

end Script

/-! ## Scripts of directory commands -/

namespace Operation

open Script

/-- What is left to be said by a directory command that is ready. -/
def script (naming : Naming) : Operation → Script
  | transfer task => Script.transfer task.request naming
  | delete task => remove task.path naming task.rest task.failed
  | removeDir task => line (.removeDir ⟨task.request.path, naming, task.request.subDir⟩)
  | rename task => Script.rename task.request naming
  | chmod task =>
    line (.chmod task.request.permission ⟨task.request.path, naming, task.request.file⟩)
  | _ => .done .internalError

/-- What is left to be said by a directory command once it has heard the result it waits for. -/
def scriptAfter (naming : Naming) (operation : Operation) (result : Reply) : Script :=
  match operation.after naming result with
  | .inl reply => .done reply
  | .inr next => next.script naming

variable {operation next : Operation} {naming : Naming}

/-- What a directory command does when it is ready is what its script says. -/
theorem script_plays (store : Local.Store) (naming : Naming) (operation : Operation) :
    match operation.next? naming store with
    | some (.inl reply) => Plays store (operation.script naming) [] store (.done reply)
    | some (.inr line) => Plays store (operation.script naming) [] store
        (ask line .done (operation.scriptAfter naming))
    | none => True := by
  cases operation with
  | transfer task =>
      simp only [next?, script]
      cases failure : openFailure? store task.request.localEnd with
      | some reply =>
          refine .look ?_
          rw [failure]
          exact .nothing _ _
      | none =>
          refine .look ?_
          rw [failure]
          exact .nothing _ _
  | delete task =>
      obtain ⟨path, total, rest, failed, progress⟩ := task
      cases rest with
      | nil => exact .nothing _ _
      | cons file files =>
          -- what is left after the first file is the script of those that follow
          have left : (delete ⟨path, total, file :: files, failed, progress⟩).scriptAfter naming =
              fun result =>
                if result.isError then
                  if DeleteTask.isFatal result then .done result
                  else remove path naming files (failed + 1)
                else remove path naming files failed := by
            funext result
            unfold scriptAfter Operation.after
            by_cases failure : result.isError = true
            · by_cases fatal : DeleteTask.isFatal result = true
              · simp only [failure, fatal, if_true]
              · simp only [failure, fatal, if_true]
                rfl
            · simp only [failure]
              rfl
          simp only [next?, script, remove]
          rw [left]
          exact .nothing _ _
  | removeDir task => exact .nothing _ _
  | rename task => exact .nothing _ _
  | chmod task => exact .nothing _ _
  | _ => trivial

theorem script_withProgress (progress : Progress) :
    (operation.withProgress progress).script naming = operation.script naming := by
  cases operation <;> rfl

theorem scriptAfter_withProgress (progress : Progress) :
    (operation.withProgress progress).scriptAfter naming = operation.scriptAfter naming := by
  cases operation <;> rfl

theorem IsButForChannel.scriptAfter (same : operation.IsButForChannel next) (naming : Naming) :
    next.scriptAfter naming = operation.scriptAfter naming := by
  rcases same with rfl | ⟨channel, rfl⟩
  · rfl
  · cases operation <;> rfl

/-- The script of a valid command is that of its operation. -/
theorem exists_directoryCommand {current : Option RemotePath} {command : Command} {script : Script}
    (scripted : Script.ofCommand? current command = some script) (valid : command.valid = true) :
    ∃ operation home, ofCommand? command .sftp = some operation ∧
      operation.home? = some home ∧ operation.progress? = some .start ∧
      home.isUnspecified = false ∧ script = .enter current home (operation.script ·) := by
  -- a valid command specifies the directory it works in
  cases command with
  | chmod request =>
      cases scripted
      simp only [Command.valid, ChmodRequest.valid, Bool.and_eq_true, Bool.not_eq_true'] at valid
      exact ⟨_, _, rfl, rfl, rfl, valid.1.1, rfl⟩
  | removeDir request =>
      cases scripted
      simp only [Command.valid, RemoveDirRequest.valid, Bool.and_eq_true,
        Bool.not_eq_true'] at valid
      exact ⟨_, _, rfl, rfl, rfl, valid.1, rfl⟩
  | rename request =>
      cases scripted
      simp only [Command.valid, RenameRequest.valid, Bool.and_eq_true, Bool.not_eq_true'] at valid
      exact ⟨_, _, rfl, rfl, rfl, valid.1.1.1, rfl⟩
  | transfer request =>
      cases scripted
      simp only [Command.valid, TransferRequest.valid, Bool.and_eq_true,
        Bool.not_eq_true'] at valid
      exact ⟨_, _, rfl, rfl, rfl, valid.1.1, rfl⟩
  | delete request =>
      cases scripted
      simp only [Command.valid, DeleteRequest.valid, Bool.and_eq_true, Bool.not_eq_true'] at valid
      exact ⟨_, _, rfl, rfl, rfl, valid.1, rfl⟩
  | _ => cases scripted

end Operation

end Courier
