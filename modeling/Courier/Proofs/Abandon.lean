import Courier.Engine.Drive
import Courier.Operation.Dispatch
import Courier.Proofs.Desk

/-!
# Calling off and ending

An operation that is called off may put some cached entries in doubt and touches nothing else. The
session is forgotten if the command was to connect. A command that ends by itself touches nothing
but the session.
-/

namespace Courier

/-- A call by which something cached is put in doubt. -/
def DirectoryCache.Call.isDoubt : DirectoryCache.Call → Bool
  | .updateEntry _ _ _ _ freshness => freshness = .unsure
  | .forgetDir _ _ => true
  | _ => false

/-- Something cached was put in doubt. -/
def Happening.isDoubt : Happening → Bool
  | .cached call _ => call.isDoubt
  | _ => false

variable {τ : Type} [Transport τ]

/-- From `desk` to `after` things in the cache were put in doubt, and that is all. -/
structure Desk.Doubts (desk after : Desk τ Operation) : Prop where
  transport : after.transport = desk.transport
  session : after.session = desk.session
  past : ∃ doubts, (∀ happening ∈ doubts, happening.isDoubt = true) ∧
    after.past = doubts ++ desk.past

namespace Desk.Doubts

variable {desk middle after : Desk τ Operation}

omit [Transport τ]

theorem refl (desk : Desk τ Operation) : desk.Doubts desk :=
  ⟨rfl, rfl, [], List.forall_mem_nil _, rfl⟩

theorem trans (first : desk.Doubts middle) (second : middle.Doubts after) : desk.Doubts after := by
  obtain ⟨firstDoubts, firstAll, firstPast⟩ := first.past
  obtain ⟨secondDoubts, secondAll, secondPast⟩ := second.past
  refine ⟨second.transport.trans first.transport, second.session.trans first.session,
    secondDoubts ++ firstDoubts, ?_, ?_⟩
  · intro happening h
    rcases List.mem_append.1 h with h | h
    · exact secondAll happening h
    · exact firstAll happening h
  · rw [secondPast, firstPast, List.append_assoc]

theorem tellCache (desk : Desk τ Operation) {call : Server → DirectoryCache.Call}
    (h : ∀ server, (call server).isDoubt = true) : desk.Doubts (desk.tellCache call) := by
  obtain ⟨told, all, past⟩ := desk.tellCache_past call
  refine ⟨desk.tellCache_transport call, desk.tellCache_session call, told, ?_, past⟩
  intro happening mem
  obtain ⟨server, answer, rfl⟩ := all happening mem
  exact h server

theorem mark (desk : Desk τ Operation) (path : RemotePath) (name : String) (isDir : Bool) :
    desk.Doubts (desk.mark path name isDir .unsure) :=
  tellCache desk fun _ => rfl

end Desk.Doubts

namespace Operation

omit [Transport τ] in
theorem cancel_doubts (operation : Operation) (desk : Desk τ Operation) :
    desk.Doubts (operation.cancel desk).2 := by
  cases operation with
  | transfer task =>
      simp only [cancel, TransferTask.cancel]
      split
      · unfold TransferTask.mark
        split
        · exact .refl desk
        · exact .mark desk _ _ _
      · exact .refl desk
  | delete task =>
      simp only [cancel, DeleteTask.cancel]
      split
      · exact .mark desk _ _ _
      · exact .refl desk
  | removeDir task =>
      simp only [cancel, RemoveDirTask.cancel]
      split
      · exact .mark desk _ _ _
      · exact .refl desk
  | makeDir task =>
      simp only [cancel, MakeDirTask.cancel]
      split
      · unfold MakeDirTask.mark
        split
        · exact .mark desk _ _ _
        · exact .refl desk
      · exact .refl desk
  | rename task =>
      simp only [cancel, RenameTask.cancel]
      split
      · exact (Desk.Doubts.tellCache desk fun _ => rfl).trans (.tellCache _ fun _ => rfl)
      · exact .refl desk
  | chmod task =>
      simp only [cancel, ChmodTask.cancel]
      split
      · exact .mark desk _ _ _
      · exact .refl desk
  | connect task => exact .refl desk
  | disconnect task => exact .refl desk
  | sleep task => exact .refl desk
  | changeDir task => exact .refl desk
  | list task => exact .refl desk
  | raw task => exact .refl desk

end Operation

/-- Who asked for what is forgotten with the operations. -/
theorem abandon_doubts (env : Env) (stack : List Operation) (desk : Desk τ Operation) :
    ∃ after, desk.Doubts after ∧
      abandon env stack desk =
        if stack.getLast?.map HasKind.kind = some .connect then
          { after with pending := none, session := {} }
        else { after with pending := none } := by
  have doubts : desk.Doubts (stack.foldl
      (fun desk operation => (Behaviour.cancel env operation { desk with pending := none }).2)
      desk) := by
    induction stack generalizing desk with
    | nil => exact .refl desk
    | cons operation rest ih =>
        have first := operation.cancel_doubts { desk with pending := none }
        exact .trans ⟨first.transport, first.session, first.past⟩ (ih _)
  exact ⟨_, doubts, rfl⟩

theorem abandon_transport (env : Env) (stack : List Operation) (desk : Desk τ Operation) :
    (abandon env stack desk).transport = desk.transport := by
  obtain ⟨after, doubts, eq⟩ := abandon_doubts env stack desk
  rw [eq]
  split <;> exact doubts.transport

/-- The session after the end of a command of this kind. -/
def Session.afterEnd (kind : CommandKind) (reply : Reply) (session : Session) : Session :=
  if (kind = .connect ∧ reply ≠ .ok) ∨ kind = .disconnect then {} else session

omit [Transport τ] in
theorem finish_eq (kind : CommandKind) (reply : Reply) (desk : Desk τ Operation) :
    ∃ text, finish kind reply desk =
      ⟨reply, Desk.note { desk with session := desk.session.afterEnd kind reply } .debug text,
        []⟩ := by
  refine ⟨kind.text ++ (if reply.isError then " failed: " else " finished: ") ++ reply.text, ?_⟩
  unfold finish Session.afterEnd
  simp only
  split <;> rfl

end Courier
