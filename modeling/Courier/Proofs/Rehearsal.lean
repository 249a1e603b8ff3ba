import Courier.Operation.Dispatch
import Courier.Proofs.Runs
import Courier.Transport.Scripted

/-!
# Rehearsals

A scripted transport answers as its script has it, so it keeps to whatever all replies of the
script keep to. Rehearsals over it show that a run of some kind exists.
-/

namespace Courier

namespace Scripted

/-- The replies in the script and the present result are as promised. -/
structure Keeps (starts ends : Reply → Prop) (t : Scripted) : Prop where
  sends : ∀ reply ∈ t.sends, starts reply
  connects : ∀ reply ∈ t.connects, starts reply
  wakeUps : ∀ reply ∈ t.wakeUps, starts reply
  lastResult : ends t.lastResult

instance {starts ends : Reply → Prop} [DecidablePred starts] [DecidablePred ends] (t : Scripted) :
    Decidable (Keeps starts ends t) :=
  decidable_of_iff
    ((∀ reply ∈ t.sends, starts reply) ∧ (∀ reply ∈ t.connects, starts reply) ∧
      (∀ reply ∈ t.wakeUps, starts reply) ∧ ends t.lastResult)
    ⟨fun h => ⟨h.1, h.2.1, h.2.2.1, h.2.2.2⟩,
      fun keeps => ⟨keeps.sends, keeps.connects, keeps.wakeUps, keeps.lastResult⟩⟩

/-- Without a script only the present result can break a promise. -/
theorem Keeps.of_unscripted {starts ends : Reply → Prop} {t : Scripted} (sends : t.sends = [])
    (connects : t.connects = []) (wakeUps : t.wakeUps = []) (lastResult : ends t.lastResult) :
    Keeps starts ends t where
  sends := by
    rw [sends]
    exact List.forall_mem_nil _
  connects := by
    rw [connects]
    exact List.forall_mem_nil _
  wakeUps := by
    rw [wakeUps]
    exact List.forall_mem_nil _
  lastResult := lastResult

theorem next_keeps {starts : Reply → Prop} {otherwise : Reply} (h : starts otherwise)
    {script : List Reply} (all : ∀ reply ∈ script, starts reply) :
    starts (next otherwise script).1 ∧ ∀ reply ∈ (next otherwise script).2, starts reply := by
  cases script with
  | nil => exact ⟨h, all⟩
  | cons reply rest =>
      exact ⟨all reply List.mem_cons_self, fun later mem => all later (List.mem_cons_of_mem _ mem)⟩

theorem answers {starts : Reply → Prop} (h : starts .wouldBlock) (ends : Reply → Prop) :
    Transport.Answers (Keeps starts ends : Transport.States Scripted) starts ends where
  send := fun t _ keeps =>
    have sends := next_keeps h keeps.sends
    ⟨sends.1, sends.2, keeps.connects, keeps.wakeUps, keeps.lastResult⟩
  connect := fun t _ _ keeps =>
    have connects := next_keeps h keeps.connects
    ⟨connects.1, keeps.sends, connects.2, keeps.wakeUps, keeps.lastResult⟩
  wakeUp := fun t _ keeps =>
    have wakeUps := next_keeps h keeps.wakeUps
    ⟨wakeUps.1, keeps.sends, keeps.connects, wakeUps.2, keeps.lastResult⟩
  disconnect := fun t keeps => ⟨keeps.sends, keeps.connects, keeps.wakeUps, keeps.lastResult⟩
  takeListing := fun t keeps => by
    unfold Transport.takeListing instTransport
    simp only
    split
    · exact keeps
    · exact ⟨keeps.sends, keeps.connects, keeps.wakeUps, keeps.lastResult⟩
  announce := fun t _ keeps => keeps
  abort := fun t keeps => keeps
  result := fun t keeps _ => keeps.lastResult

/-- The script keeps to the contract of a transport. -/
abbrev IsConforming : Scripted → Prop :=
  Keeps (fun reply => reply = .wouldBlock ∨ reply.isError = true)
    (fun result => result ≠ .wouldBlock ∧ result ≠ .again)

theorem conforms : Transport.Conforms (IsConforming : Transport.States Scripted) :=
  answers (.inl rfl) _

end Scripted

namespace Engine

/-- An engine nobody has called, over a transport that does whatever it is asked to. -/
def rehearsed (cache : DirectoryCache) : Engine Scripted Operation :=
  { desk := { transport := {}, cache } }

/-- The engine after these calls. -/
def after (engine : Engine Scripted Operation) (calls : List Call) : Engine Scripted Operation :=
  calls.foldl (fun engine call => (engine.make call).2) engine

section After

variable {good : Scripted → Prop}
  {meanwhile : Engine Scripted Operation → Engine Scripted Operation → Prop}
  {start engine : Engine Scripted Operation}

theorem Run.after (run : Run good meanwhile engine) (calls : List Call) :
    Run good meanwhile (engine.after calls) := by
  induction calls generalizing engine with
  | nil => exact run
  | cons call rest ih => exact ih (run.call call fun _ _ => trivial)

theorem RunFrom.after (run : RunFrom good meanwhile start engine) (calls : List Call) :
    RunFrom good meanwhile start (engine.after calls) := by
  induction calls generalizing engine with
  | nil => exact run
  | cons call rest ih => exact ih (run.call call fun _ _ => trivial)

end After

theorem rehearsed_run {starts ends : Reply → Prop} (ok : ends .ok)
    (meanwhile : Engine Scripted Operation → Engine Scripted Operation → Prop)
    (cache : DirectoryCache) (calls : List Call) :
    Run (Scripted.Keeps starts ends) meanwhile ((rehearsed cache).after calls) :=
  Run.after (.fresh ⟨rfl, rfl, rfl⟩ (.of_unscripted rfl rfl rfl ok)) calls

theorem rehearsed_reachable (starts ends : Reply → Prop) (ok : ends .ok) (cache : DirectoryCache)
    (calls : List Call) : ((rehearsed cache).after calls).Reachable (Scripted.Keeps starts ends) :=
  rehearsed_run ok _ cache calls

theorem conforming_reachable (cache : DirectoryCache) (calls : List Call) :
    ((rehearsed cache).after calls).Reachable Scripted.IsConforming :=
  rehearsed_reachable _ _ ⟨by decide, by decide⟩ cache calls

theorem conforming_run (cache : DirectoryCache) (calls : List Call) :
    Run Scripted.IsConforming (DriftsAlone Scripted.IsConforming) ((rehearsed cache).after calls) :=
  rehearsed_run ⟨by decide, by decide⟩ _ cache calls

/-- A server to rehearse with. -/
def stage : Server := { protocol := .sftp, host := "h", port := 22, user := "u" }

/-- Connecting to it. -/
def connecting : List Call := [.execute (.connect (.ofServer stage {})), .resume]

end Engine

end Courier
