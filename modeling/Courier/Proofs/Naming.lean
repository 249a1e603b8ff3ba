import Courier.Proofs.WorkingDirectory
import Courier.Proofs.Paths
import Courier.Proofs.Removals

/-!
# Names alone and in full

A command that works inside a directory names its objects by their names alone where the directory
has been entered, and in full where that failed. Either way the server is to take the name for the
same object. It does if the name does not begin with a slash. A name that does is read from the root
where it stands alone, but inside the directory where it is given in full, so it denotes one object
only if it leaves the directory upwards by as many levels as there are.
-/

namespace Courier

/-! ## How far up a name leads -/

namespace RemotePath

/-- By how many levels the parts lead above a directory, if they are followed from where one is so
many levels below it. -/
def climbFrom : (below : Nat) → List (List Char) → Nat
  | _, [] => 0
  | below, part :: rest =>
    if IsPlainName (String.ofList part) then climbFrom (below + 1) rest
    else if String.ofList part = ".." then
      match below with
      | 0 => climbFrom 0 rest + 1
      | below + 1 => climbFrom below rest
    else climbFrom below rest

/-- By how many levels a name leads above the directory it is seen from, at the most. -/
def climb (name : String) : Nat := climbFrom 0 (Text.pieces '/' name.toList)

/-- The number of levels below the root. -/
def depth : RemotePath → Nat
  | unspecified => 0
  | absolute segments => segments.length

section Climb

variable {part : List Char} {below : Nat} (rest : List (List Char))

theorem climbFrom_down (plain : IsPlainName (String.ofList part)) :
    climbFrom below (part :: rest) = climbFrom (below + 1) rest := by
  rw [climbFrom.eq_def]
  exact if_pos plain

theorem climbFrom_out (up : String.ofList part = "..") :
    climbFrom 0 (part :: rest) = climbFrom 0 rest + 1 := by
  rw [climbFrom.eq_def]
  simp only [up, if_true]
  exact if_neg (by decide)

theorem climbFrom_up (up : String.ofList part = "..") :
    climbFrom (below + 1) (part :: rest) = climbFrom below rest := by
  rw [climbFrom.eq_def]
  simp only [up, if_true]
  exact if_neg (by decide)

theorem climbFrom_stay (plain : ¬ IsPlainName (String.ofList part))
    (up : String.ofList part ≠ "..") : climbFrom below (part :: rest) = climbFrom below rest := by
  rw [climbFrom.eq_def]
  simp only [if_neg plain, if_neg up]

end Climb

/-- What the parts do not leave upwards stays, and below it they lead where they lead anywhere. -/
theorem foldl_follow (parts : List (List Char)) (dirs below : List Segment) :
    parts.foldl follow (dirs ++ below) =
      dirs.take (dirs.length - climbFrom below.length parts) ++ parts.foldl follow below := by
  induction parts generalizing dirs below with
  | nil => simp [climbFrom]
  | cons part rest ih =>
      rw [List.foldl_cons, List.foldl_cons]
      by_cases plain : IsPlainName (String.ofList part)
      · have down (dirs : List Segment) : follow dirs part = dirs ++ [⟨_, plain⟩] := dif_pos plain
        rw [down, down, climbFrom_down rest plain, List.append_assoc, ih, List.length_append]
        rfl
      by_cases up : String.ofList part = ".."
      · have out (dirs : List Segment) : follow dirs part = dirs.dropLast := by
          simp only [follow, dif_neg plain, if_pos up]
        rw [out, out]
        cases below using List.reverseRecOn with
        | nil =>
            have left := ih dirs.dropLast []
            rw [List.append_nil] at left
            rw [List.append_nil, List.length_nil, List.dropLast_nil, left, climbFrom_out rest up,
              List.length_dropLast, List.dropLast_eq_take, List.take_take, List.length_nil]
            congr 2
            omega
        | append_singleton below segment =>
            rw [← List.append_assoc, List.dropLast_concat, List.dropLast_concat, ih,
              List.length_append]
            exact congrArg (fun climbs => dirs.take (dirs.length - climbs) ++ _)
              (climbFrom_up rest up).symm
      · have stays (dirs : List Segment) : follow dirs part = dirs := by
          simp only [follow, dif_neg plain, if_neg up]
        rw [stays, stays, ih, climbFrom_stay rest plain up]

/-- A name is read from the root as from a directory exactly if it leaves that altogether. -/
theorem resolve_root_iff (segments : List Segment) (name : String) :
    resolve segments name.toList = resolve [] name.toList ↔ segments.length ≤ climb name := by
  have read := foldl_follow (Text.pieces '/' name.toList) segments []
  rw [List.append_nil] at read
  unfold resolve
  rw [read, List.append_left_eq_self, List.take_eq_nil_iff]
  show segments.length - climb name = 0 ∨ segments = [] ↔ segments.length ≤ climb name
  constructor
  · rintro (beyond | rfl)
    · omega
    · exact Nat.zero_le _
  · intro beyond
    left
    omega

/-- A name alone denotes the object it denotes in full if it does not begin with a slash. If it
does, it has to leave the directory altogether. -/
theorem join_eq_full_iff {path : RemotePath} (specified : path.isUnspecified = false)
    (name : String) :
    path.join name = ofString (path.nameOf .full name) ↔
      (name.toList.head? = some '/' → path.depth ≤ climb name) := by
  cases path with
  | unspecified => cases specified
  | absolute segments =>
      rw [ofString_nameOf_full]
      by_cases slash : name.toList.head? = some '/'
      · rw [join_of_absolute _ slash, ofString_of_head slash, absolute.injEq, eq_comm,
          resolve_root_iff]
        exact ⟨fun beyond _ => beyond, fun beyond => beyond slash⟩
      · rw [join_of_relative segments slash]
        exact iff_of_true rfl fun absolute => absurd absolute slash

end RemotePath

/-! ## The objects of a line -/

/-- The object that a line sent in its directory names. -/
def ObjectName.place (object : ObjectName) : RemotePath := object.directory.join object.text

theorem ObjectName.place_full {directory : RemotePath} (specified : directory.isUnspecified = false)
    (name : String) :
    place ⟨directory, .full, name⟩ = .ofString (directory.nameOf .full name) := by
  have absolute : ¬ IsRelative ⟨directory, .full, name⟩ := not_isRelative specified rfl
  exact RemotePath.join_of_absolute _ (by_contra fun relative => absolute (.inr relative))

/-! ## The objects of a command -/

namespace Command

/-- The objects a command is about, as it names them in their directories. -/
def names : Command → List (RemotePath × String)
  | transfer request => [(request.path, request.file)]
  | delete request => request.files.map fun file => (request.path, file)
  | removeDir request => [(request.path, request.subDir)]
  | rename request => [(request.fromPath, request.fromFile), (request.toPath, request.toFile)]
  | chmod request => [(request.path, request.file)]
  | connect _ | disconnect | list _ | makeDir _ | raw _ | http _ => []

variable {command : Command} {directory : RemotePath} {name : String}

theorem specified_of_names (valid : command.valid = true)
    (named : (directory, name) ∈ command.names) : directory.isUnspecified = false := by
  cases command with
  | transfer request =>
      cases List.mem_singleton.1 named
      simp only [Command.valid, TransferRequest.valid, Bool.and_eq_true, Bool.not_eq_true'] at valid
      exact valid.1.1
  | delete request =>
      obtain ⟨file, -, same⟩ := List.mem_map.1 named
      cases same
      simp only [Command.valid, DeleteRequest.valid, Bool.and_eq_true, Bool.not_eq_true'] at valid
      exact valid.1
  | removeDir request =>
      cases List.mem_singleton.1 named
      simp only [Command.valid, RemoveDirRequest.valid, Bool.and_eq_true,
        Bool.not_eq_true'] at valid
      exact valid.1
  | rename request =>
      simp only [Command.valid, RenameRequest.valid, Bool.and_eq_true, Bool.not_eq_true'] at valid
      rcases List.mem_cons.1 named with source | target
      · cases source
        exact valid.1.1.1
      · cases List.mem_singleton.1 target
        exact valid.1.2
  | chmod request =>
      cases List.mem_singleton.1 named
      simp only [Command.valid, ChmodRequest.valid, Bool.and_eq_true, Bool.not_eq_true'] at valid
      exact valid.1.1
  | _ => cases named

end Command

namespace Script

variable {allowed : WireLine → Prop} {script : Script} {command : Command}
  {current : Option RemotePath}

theorem line_sends {line : WireLine} (own : allowed line) : (Script.line line).Sends allowed :=
  ask_sends own (fun _ => trivial) fun _ => trivial

theorem enter_sends {home : RemotePath} {body : RemotePath.Naming → Script}
    (enters : allowed (.changeDir home)) (inside : ∀ naming, (body naming).Sends allowed) :
    (enter current home body).Sends allowed := by
  by_cases here : current = some home
  · rw [enter_here here]
    exact inside .bare
  · rw [enter_elsewhere here]
    exact ask_sends enters (fun _ => inside _) fun _ => inside _

/-- However its directory was entered, a command names its own objects. -/
theorem sends_names (scripted : ofCommand? current command = some script) :
    script.Sends fun line => ∀ object ∈ line.objects,
      (object.directory, object.file) ∈ command.names := by
  cases command with
  | chmod request =>
      cases scripted
      refine enter_sends (List.forall_mem_nil _) fun naming => line_sends ?_
      exact List.forall_mem_singleton.2 List.mem_cons_self
  | removeDir request =>
      cases scripted
      refine enter_sends (List.forall_mem_nil _) fun naming => line_sends ?_
      exact List.forall_mem_singleton.2 List.mem_cons_self
  | rename request =>
      cases scripted
      refine enter_sends (List.forall_mem_nil _) fun naming => line_sends ?_
      exact List.forall_mem_cons.2 ⟨List.mem_cons_self,
        List.forall_mem_singleton.2 (List.mem_cons_of_mem _ List.mem_cons_self)⟩
  | transfer request =>
      cases scripted
      refine enter_sends (List.forall_mem_nil _) fun naming store => ?_
      simp only
      split
      · trivial
      · refine line_sends ?_
        split <;> exact List.forall_mem_singleton.2 List.mem_cons_self
  | delete request =>
      cases scripted
      refine enter_sends (List.forall_mem_nil _) fun naming => remove_sends _ _ _ _ ?_
      intro file mem
      exact List.forall_mem_singleton.2 (List.mem_map_of_mem mem)
  | _ => cases scripted

end Script

/-- A command names its own objects only, whatever came of entering its directory. An object that
it names alone is the one it names in full if the name does not begin with a slash, and otherwise if
the name leads out of the directory up to the root. -/
theorem Command.acts_alike_iff {command : Command} {current : Option RemotePath} {script : Script}
    (valid : command.valid = true) (scripted : Script.ofCommand? current command = some script) :
    (script.Sends fun line => ∀ object ∈ line.objects,
      (object.directory, object.file) ∈ command.names) ∧
    ∀ directory name, (directory, name) ∈ command.names →
      (directory.join name = RemotePath.ofString (directory.nameOf .full name) ↔
        (name.toList.head? = some '/' → directory.depth ≤ RemotePath.climb name)) :=
  ⟨Script.sends_names scripted, fun _ name named =>
    RemotePath.join_eq_full_iff (specified_of_names valid named) name⟩

/-- Dots in a name do no harm. -/
theorem Command.acts_alike_dotted :
    let directory : RemotePath := .ofString "/home/user"
    directory.join "../a//./b" = .ofString (directory.nameOf .full "../a//./b") := by
  intro directory
  let request : RemoveDirRequest := { path := directory, subDir := "../a//./b" }
  have valid : (Command.removeDir request).valid = true := by decide +kernel
  have scripted : Script.ofCommand? none (.removeDir request) = some _ := rfl
  refine ((acts_alike_iff valid scripted).2 directory "../a//./b" List.mem_cons_self).2 ?_
  decide +kernel

/-- A file of another directory, if that could be entered, and of the same one if not. -/
theorem Command.acts_unlike_slash :
    let directory : RemotePath := .ofString "/data"
    let command : Command := .delete ⟨directory, ["/etc/x"]⟩
    command.valid = true ∧ (directory, "/etc/x") ∈ command.names ∧
      directory.join "/etc/x" = .ofString "/etc/x" ∧
      RemotePath.ofString (directory.nameOf .full "/etc/x") = .ofString "/data/etc/x" ∧
      directory.join "/etc/x" ≠ .ofString (directory.nameOf .full "/etc/x") := by
  decide +kernel

/-! ## What the server takes a name for -/

variable {τ : Type} [Transport τ] {good : Transport.States τ}

/-- In every run over a transport that keeps to its contract, the server takes the name of an object
for what it names in the directory of the object. -/
theorem Engine.object_read (conforms : Transport.Conforms good) {engine : Engine τ Operation}
    (reachable : engine.Reachable good) {later earlier : List Happening} {line : WireLine}
    {text : String} {answer : Reply} {object : ObjectName} {remote : Remote}
    (past : engine.desk.past = later ++ .sent line text answer :: earlier)
    (mem : object ∈ line.objects)
    (possible : Remote.Possible (.sent line text answer :: earlier) remote) :
    remote.directory.join object.text = object.place := by
  by_cases absolute : object.text.toList.head? = some '/'
  · exact (RemotePath.join_of_absolute _ absolute).trans
      (RemotePath.join_of_absolute _ absolute).symm
  · have heeds := (oriented_of_reachable conforms reachable).desk.heed.at past object mem
      (.inr absolute)
    rw [heeds.sent (line.stays_of_mem_objects mem) text answer remote possible]
    rfl

end Courier
