import Courier.Proofs.Records

/-!
# What is put in doubt

A command that is given up while a line is out leaves what the line is about in doubt, and leaves
the cache alone if no line is out or one that changes nothing. Every operation does so in the same
way: the line says what is in doubt.
-/

namespace Courier

variable {τ : Type}

namespace Desk

/-- The cache is told of all this, on behalf of the server of the session. -/
def tellAll (calls : List (Server → DirectoryCache.Call)) (desk : Desk τ Operation) :
    Desk τ Operation :=
  calls.foldl Desk.tellCache desk

/-- What the line that is out, if there is one, is about is put in doubt. -/
def doubt (line? : Option WireLine) (desk : Desk τ Operation) : Desk τ Operation :=
  desk.tellAll (line?.elim [] WireLine.doubts)

section TellAll

variable (calls : List (Server → DirectoryCache.Call)) (desk : Desk τ Operation)

/-- What was asked for makes no difference. -/
theorem tellAll_withPending (pending : Option Operation) :
    ({ desk with pending } : Desk τ Operation).tellAll calls =
      { desk.tellAll calls with pending } := by
  induction calls generalizing desk with
  | nil => rfl
  | cons call rest ih =>
      have first : ({ desk with pending } : Desk τ Operation).tellCache call =
          { desk.tellCache call with pending } := by
        unfold tellCache
        cases desk.session.server with
        | none => rfl
        | some server =>
            simp only [cacheCall]
            cases call server <;> rfl
      rw [tellAll, List.foldl_cons, first]
      exact ih _

/-- The journal has all of it. -/
theorem tellAll_replays {origin : DirectoryCache} (h : desk.cache = origin.replay desk.past) :
    (desk.tellAll calls).cache = origin.replay (desk.tellAll calls).past := by
  induction calls generalizing desk with
  | nil => exact h
  | cons call rest ih =>
      refine ih (desk.tellCache call) ?_
      cases server : desk.session.server with
      | none =>
          rw [desk.tellCache_of_none call server]
          exact h
      | some known =>
          rw [desk.tellCache_of_server call server, cacheCall_cache, cacheCall_past, h]
          rfl

variable {server : Server} (h : desk.session.server = some server)

include h

theorem tellAll_cache : (desk.tellAll calls).cache =
    calls.foldl (fun cache call => (cache.perform (call server)).2) desk.cache := by
  induction calls generalizing desk with
  | nil => rfl
  | cons call rest ih =>
      rw [tellAll, List.foldl_cons, List.foldl_cons, ← cacheCall_cache,
        ← desk.tellCache_of_server call h]
      exact ih _ ((congrArg Session.server (desk.tellCache_session call)).trans h)

theorem tellAll_past : ∃ told,
    (∀ happening ∈ told, ∃ call answer, call ∈ calls ∧ happening = .cached (call server) answer) ∧
      (desk.tellAll calls).past = told ++ desk.past := by
  induction calls generalizing desk with
  | nil => exact ⟨[], List.forall_mem_nil _, rfl⟩
  | cons call rest ih =>
      obtain ⟨told, all, past⟩ := ih (desk.tellCache call)
        ((congrArg Session.server (desk.tellCache_session call)).trans h)
      refine ⟨told ++ [.cached (call server) (desk.cache.perform (call server)).1], ?_, ?_⟩
      · intro happening mem
        rcases List.mem_append.1 mem with mem | mem
        · obtain ⟨other, answer, among, is⟩ := all happening mem
          exact ⟨other, answer, List.mem_cons_of_mem _ among, is⟩
        · exact ⟨call, _, List.mem_cons_self, List.mem_singleton.1 mem⟩
      · rw [tellAll, List.foldl_cons]
        refine past.trans ?_
        rw [desk.tellCache_of_server call h, cacheCall_past, List.append_assoc]
        rfl

end TellAll

end Desk

namespace Operation

variable {operation : Operation}

/-- An operation that is called off puts in doubt what its line is about. -/
theorem cancel_eq (operation : Operation) (desk : Desk τ Operation) :
    (operation.cancel desk).2 = desk.doubt operation.line? := by
  cases operation with
  | transfer task =>
      obtain ⟨request, progress, channel⟩ := task
      cases progress with
      | waiting naming =>
          simp only [cancel, TransferTask.cancel, TransferTask.mark, line?, progress?, lineNaming?]
          split <;> rfl
      | _ => rfl
  | delete task =>
      obtain ⟨path, total, rest, failed, progress⟩ := task
      cases progress with
      | waiting naming => cases rest <;> rfl
      | _ => cases rest <;> rfl
  | removeDir task =>
      obtain ⟨request, progress⟩ := task
      cases progress <;> rfl
  | makeDir task =>
      obtain ⟨request, stage⟩ := task
      cases stage with
      | waiting =>
          simp only [cancel, MakeDirTask.cancel, MakeDirTask.mark, line?, if_true, Desk.doubt,
            Option.elim_some, WireLine.doubts]
          cases request.path.parent? with
          | none => rfl
          | some parent => cases request.path.lastName? <;> rfl
      | _ => rfl
  | rename task =>
      obtain ⟨request, progress⟩ := task
      cases progress <;> rfl
  | chmod task =>
      obtain ⟨request, progress⟩ := task
      cases progress <;> rfl
  | connect task => rfl
  | disconnect task => rfl
  | sleep task => rfl
  | changeDir task =>
      obtain ⟨path, waiting⟩ := task
      cases waiting <;> rfl
  | list task =>
      obtain ⟨request, progress⟩ := task
      cases progress <;> rfl
  | raw task =>
      obtain ⟨line, waiting⟩ := task
      cases waiting <;> rfl

theorem WaitsFor.isListToBegin {parent child : Operation} (h : parent.WaitsFor child) :
    parent.isListToBegin = false := by
  cases parent with
  | list task =>
      obtain ⟨request, progress⟩ := task
      cases progress with
      | start => cases child <;> first | exact h.elim | cases h
      | _ => rfl
  | _ => rfl

/-- Nobody who waits for a subcommand has a line out. -/
theorem WaitsFor.line?_eq_none {parent child : Operation} (h : parent.WaitsFor child) :
    parent.line? = none := by
  cases child with
  | sleep task =>
      obtain ⟨connect, rfl, -⟩ := isRetrying_eq_true h
      rfl
  | changeDir task =>
      have enters : parent.entering? = some task.path := h
      cases place : parent.home? with
      | some home =>
          obtain ⟨at_, -⟩ := progress_of_entering place enters
          rw [line?_of_home? place, at_]
      | none =>
          -- the only one that is no directory command and enters a directory is a listing
          cases parent with
          | list task =>
              obtain ⟨request, progress⟩ := task
              cases progress <;> first | rfl | cases enters
          | _ => first | cases enters | cases place
  | _ => exact h.elim

end Operation

/-! ## Giving up the stack -/

section Abandon

variable [Transport τ]

theorem StackForm.line?_of_mem {top operation : Operation} {below : List Operation}
    (form : StackForm (top :: below)) (mem : operation ∈ below) : operation.line? = none := by
  rcases form.fitsBelow with ⟨rfl, -⟩ | ⟨parent, rfl, waits⟩
  · cases mem
  · obtain rfl := List.mem_singleton.1 mem
    exact waits.line?_eq_none

/-- Of the operations that are given up, only the topmost has a line out. -/
theorem abandon_eq (env : Env) {below : List Operation}
    (idle : ∀ operation ∈ below, operation.line? = none) (desk : Desk τ Operation)
    (top : Operation) :
    abandon env (top :: below) desk =
      let after := desk.doubt top.line?
      if (top :: below).getLast?.map HasKind.kind = some .connect then
        { after with pending := none, session := {} }
      else { after with pending := none } := by
  let callOff (desk : Desk τ Operation) (operation : Operation) : Desk τ Operation :=
    (Behaviour.cancel env operation { desk with pending := none }).2
  let forget (desk : Desk τ Operation) : Desk τ Operation :=
    if (top :: below).getLast?.map HasKind.kind = some .connect then { desk with session := {} }
    else desk
  have quiet : ∀ desk : Desk τ Operation,
      ({ below.foldl callOff desk with pending := none } : Desk τ Operation) =
        { desk with pending := none } := by
    clear forget
    induction below with
    | nil => exact fun _ => rfl
    | cons operation rest ih =>
        intro desk
        have silent : callOff desk operation = { desk with pending := none } := by
          refine (operation.cancel_eq _).trans ?_
          rw [idle operation List.mem_cons_self]
          rfl
        rw [List.foldl_cons, silent]
        exact ih (fun other mem => idle other (List.mem_cons_of_mem _ mem)) _
  have first : callOff desk top = { desk.doubt top.line? with pending := none } :=
    (top.cancel_eq _).trans (Desk.tellAll_withPending _ desk none)
  change forget { below.foldl callOff (callOff desk top) with pending := none } = _
  rw [quiet, first]

end Abandon

end Courier
