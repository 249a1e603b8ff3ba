import Courier.Proofs.Removals
import Mathlib.Order.Bounds.Basic

/-!
# Removing files one by one

Once a command to remove files has tried to change into their directory, it sends one line for each
file, in order, until a failure ends it: a critical one or a timeout. Any other failure counts at
the end only. Exactly the files for which a line was sent are gone from the cached listing, whatever
came of the lines.

It is relied upon that the lines are under way when they have been sent: a line that is refused at
once ends the command at once.
-/

namespace Courier

open RemotePath (Naming)
open Script (Plays)

/-- A removal that came to this ends the command. -/
def Reply.stopsRemoval (result : Reply) : Bool := result.isError && DeleteTask.isFatal result

/-- The lines by which these files are removed. -/
def removals (path : RemotePath) (naming : Naming) (files : List String) : List WireLine :=
  files.map fun file => .remove ⟨path, naming, file⟩

namespace Script

/-! ## What a script comes to -/

/-- The script waits or is done. -/
def IsAtRest : Script → Prop
  | wait _ | done _ => True
  | _ => False

/-- The reply of a script that is done. -/
def reply? : Script → Option Reply
  | done reply => some reply
  | _ => none

/-- What the removal of `files` comes to after these results: the files for which a line was sent,
and the reply, unless the last line is still under way. So many removals have failed before. -/
inductive Removes : (files : List String) → (failed : Nat) → (results : List Reply) →
    (sent : List String) → Option Reply → Prop
  | done (failed : Nat) : Removes [] failed [] [] (some (if failed = 0 then .ok else .error))
  | waits (file : String) (rest : List String) (failed : Nat) :
      Removes (file :: rest) failed [] [file] none
  | stops (file : String) (rest : List String) (failed : Nat) {result : Reply}
      (stops : result.stopsRemoval = true) :
      Removes (file :: rest) failed [result] [file] (some result)
  | goesOn (file : String) {rest : List String} {failed : Nat} {result : Reply}
      {results : List Reply} {sent : List String} {reply : Option Reply}
      (goesOn : result.stopsRemoval = false)
      (removes : Removes rest (if result.isError then failed + 1 else failed) results sent reply) :
      Removes (file :: rest) failed (result :: results) (file :: sent) reply

variable {store last : Local.Store} {line : WireLine} {refused finished : Reply → Script}
  {talk : List Talk} {due : Script} {path : RemotePath} {naming : Naming} {files : List String}
  {failed : Nat}

/-- Where a script that asks comes to rest: the line is under way, or it was answered in time or at
once. -/
theorem Plays.of_ask (plays : Plays store (ask line refused finished) talk last due)
    (rests : due.IsAtRest) :
    (∃ text, talk = [.sent line text .wouldBlock] ∧ due = .wait finished) ∨
    (∃ text result now more, talk = .sent line text .wouldBlock :: .told result now :: more ∧
      Plays now (finished result) more last due) ∨
    ∃ text answer more, answer ≠ .wouldBlock ∧ talk = .sent line text answer :: more ∧
      Plays store (refused answer) more last due := by
  cases plays with
  | nothing => exact rests.elim
  | sent text answer plays =>
      simp only at plays
      by_cases wait : answer = .wouldBlock
      · rw [if_pos wait] at plays
        subst wait
        cases plays with
        | nothing => exact .inl ⟨text, rfl, rfl⟩
        | told result plays => exact .inr (.inl ⟨text, result, _, _, rfl, plays⟩)
      · rw [if_neg wait] at plays
        exact .inr (.inr ⟨text, answer, _, wait, rfl, plays⟩)

/-- The script of a removal, played, removes the files. -/
theorem Plays.removes (plays : Plays store (remove path naming files failed) talk last due)
    (rests : due.IsAtRest)
    (waits : ∀ object text answer, .sent (.remove object) text answer ∈ talk →
      answer = .wouldBlock) :
    ∃ sent,
      Removes files failed ((talk.filterMap Talk.report?).map Prod.fst) sent due.reply? ∧
      talk.filterMap Talk.line? = removals path naming sent := by
  induction files generalizing store talk failed with
  | nil =>
      cases plays with
      | nothing => exact ⟨[], .done failed, rfl⟩
  | cons file rest ih =>
      rcases plays.of_ask rests with ⟨text, rfl, rfl⟩ | ⟨text, result, now, more, rfl, goes⟩ |
        ⟨text, answer, more, at_once, rfl, -⟩
      · exact ⟨[file], .waits file rest failed, rfl⟩
      · cases stops : result.stopsRemoval with
        | true =>
            obtain ⟨isError, fatal⟩ := Bool.and_eq_true_iff.1 stops
            rw [if_pos isError, if_pos fatal] at goes
            cases goes with
            | nothing => exact ⟨[file], .stops file rest failed stops, rfl⟩
        | false =>
            have left : Plays now
                (remove path naming rest (if result.isError then failed + 1 else failed)) more last
                due := by
              by_cases isError : result.isError = true
              · have mild : ¬ DeleteTask.isFatal result = true := by
                  simpa [Reply.stopsRemoval, isError] using stops
                rw [if_pos isError, if_neg mild] at goes
                rw [if_pos isError]
                exact goes
              · rw [if_neg isError] at goes ⊢
                exact goes
            obtain ⟨sent, removes, lines⟩ := ih left fun object text answer mem =>
              waits object text answer (List.mem_cons_of_mem _ (List.mem_cons_of_mem _ mem))
            refine ⟨file :: sent, .goesOn file stops removes, ?_⟩
            exact congrArg (List.cons _) lines
      · exact absurd (waits _ _ _ List.mem_cons_self) at_once

namespace Removes

variable {results : List Reply} {sent : List String} {reply : Reply}

/-- The lines that were sent are those of the first files. -/
theorem sent_prefix {reply : Option Reply} (removes : Removes files failed results sent reply) :
    sent <+: files := by
  induction removes with
  | done => exact List.prefix_rfl
  | waits file rest => exact ⟨rest, rfl⟩
  | stops file rest => exact ⟨rest, rfl⟩
  | goesOn file goesOn removes ih => exact (List.prefix_cons_inj file).2 ih

/-- While a line is under way nothing has ended the command. -/
theorem waiting (removes : Removes files failed results sent none) :
    sent.length = results.length + 1 ∧ ∀ result ∈ results, result.stopsRemoval = false := by
  generalize none : (none : Option Reply) = reply at removes
  induction removes with
  | done => cases none
  | waits => exact ⟨rfl, List.forall_mem_nil _⟩
  | stops => cases none
  | goesOn file goesOn removes ih =>
      obtain ⟨count, all⟩ := ih none
      exact ⟨congrArg (· + 1) count, List.forall_mem_cons.2 ⟨goesOn, all⟩⟩

/-- The command ends with the first result that stops it, or when all lines are done with. -/
theorem ended (removes : Removes files failed results sent (some reply)) :
    sent.length = results.length ∧
    ((∃ earlier, results = earlier ++ [reply] ∧ reply.stopsRemoval = true ∧
        ∀ result ∈ earlier, result.stopsRemoval = false) ∨
      (results.length = files.length ∧ (∀ result ∈ results, result.stopsRemoval = false) ∧
        reply =
          if failed = 0 ∧ ∀ result ∈ results, result.isError = false then .ok else .error)) := by
  generalize some : some reply = answer at removes
  induction removes with
  | done failed =>
      obtain rfl := Option.some.inj some
      exact ⟨rfl, .inr ⟨rfl, List.forall_mem_nil _, by simp⟩⟩
  | waits => cases some
  | stops file rest failed stops =>
      obtain rfl := Option.some.inj some
      exact ⟨rfl, .inl ⟨[], rfl, stops, List.forall_mem_nil _⟩⟩
  | @goesOn file rest failed result results sent answer goesOn removes ih =>
      obtain ⟨count, ⟨earlier, rfl, stops, all⟩ | ⟨whole, all, rfl⟩⟩ := ih some
      · refine ⟨congrArg (· + 1) count, .inl ⟨result :: earlier, rfl, stops, ?_⟩⟩
        exact List.forall_mem_cons.2 ⟨goesOn, all⟩
      · refine ⟨congrArg (· + 1) count, .inr ⟨congrArg (· + 1) whole, ?_, ?_⟩⟩
        · exact List.forall_mem_cons.2 ⟨goesOn, all⟩
        · cases isError : result.isError <;> simp [isError]

end Removes

end Script

/-- Into the directory, if it is not the current one, led these lines, which came to these results;
objects in it are then named in this way. -/
inductive RemotePath.Entered (path : RemotePath) (current : Option RemotePath) :
    List WireLine → List Reply → Naming → Prop
  | here (here : current = some path) : Entered path current [] [] .bare
  | refused (away : current ≠ some path) {answer : Reply} (atOnce : answer ≠ .wouldBlock) :
      Entered path current [.changeDir path] [] (.after answer)
  | heard (away : current ≠ some path) (result : Reply) :
      Entered path current [.changeDir path] [result] (.after result)

/-- What has come of the removal of `files`, when `count` of the results `result 0`, `result 1`, ...
have been reported: the files for which a line was sent, and the reply of the last call. -/
structure Removed (files : List String) (result : Nat → Reply) (count : Nat) (sent : List String)
    (reply : Reply) : Prop where
  waits : reply = .wouldBlock → count < files.length ∧ sent = files.take (count + 1) ∧
    ∀ index < count, (result index).stopsRemoval = false
  /-- If one of the results ends the command, the first that does is the last. -/
  stopped : reply ≠ .wouldBlock → ∀ last,
    IsLeast {index | index < files.length ∧ (result index).stopsRemoval = true} last →
      count = last + 1 ∧ sent = files.take (last + 1) ∧ reply = result last
  /-- If none does, all files are seen to. -/
  whole : reply ≠ .wouldBlock →
    (∀ index < files.length, (result index).stopsRemoval = false) →
      count = files.length ∧ sent = files ∧
        reply = if ∀ index < files.length, (result index).isError = false then .ok else .error

namespace Script.Removes

variable {files sent : List String} {result : Nat → Reply} {count : Nat} {reply : Reply}

/-- A command that has ended did so with the first result that ends it, or when all files were seen
to. -/
theorem ended_at (removes : Removes files 0 ((List.range count).map result) sent (some reply)) :
    (∃ last, count = last + 1 ∧ last < files.length ∧ reply = result last ∧
      (result last).stopsRemoval = true ∧
      ∀ index < last, (result index).stopsRemoval = false) ∨
    (count = files.length ∧ (∀ index < count, (result index).stopsRemoval = false) ∧
      reply = if ∀ index < count, (result index).isError = false then .ok else .error) := by
  have listed (P : Reply → Prop) (length : Nat) :
      (∀ r ∈ (List.range length).map result, P r) ↔ ∀ index < length, P (result index) := by
    simp
  have fits := removes.sent_prefix.length_le
  obtain ⟨many, ⟨earlier, reported, stops, all⟩ | ⟨whole, all, is⟩⟩ := removes.ended
  · left
    obtain ⟨last, rfl⟩ : ∃ last, count = last + 1 := by
      have length := congrArg List.length reported
      simp only [List.length_map, List.length_range, List.length_append] at length
      exact ⟨_, length⟩
    rw [List.range_succ, List.map_append] at reported
    obtain ⟨rfl, is⟩ := List.append_inj' reported rfl
    obtain rfl : result last = reply := List.singleton_inj.1 is
    refine ⟨last, rfl, ?_, rfl, stops, (listed _ last).1 all⟩
    simp only [List.length_map, List.length_range] at many
    omega
  · right
    simp only [List.length_map, List.length_range] at whole
    refine ⟨whole, (listed _ count).1 all, ?_⟩
    rw [is]
    simp only [true_and, listed]

/-- How a removal ends, read off the results in order. -/
theorem removed {answer : Option Reply}
    (removes : Removes files 0 ((List.range count).map result) sent answer)
    (waiting : reply = .wouldBlock → answer = none)
    (ended : reply ≠ .wouldBlock → answer = some reply) :
    Removed files result count sent reply := by
  have first := List.prefix_iff_eq_take.1 removes.sent_prefix
  have fits := removes.sent_prefix.length_le
  constructor
  · intro wait
    obtain rfl := waiting wait
    obtain ⟨many, all⟩ := removes.waiting
    simp only [List.length_map, List.length_range] at many
    refine ⟨by omega, many ▸ first, ?_⟩
    intro index early
    exact all _ (List.mem_map_of_mem (List.mem_range.2 early))
  · intro ends last least
    obtain rfl := ended ends
    have many := removes.ended.1
    simp only [List.length_map, List.length_range] at many
    rcases removes.ended_at with ⟨stop, rfl, early, rfl, stops, before⟩ | ⟨whole, all, -⟩
    · obtain rfl : last = stop := by
        refine le_antisymm (least.2 ⟨early, stops⟩) (not_lt.1 ?_)
        intro earlier
        exact absurd least.1.2 (by simp [before last earlier])
      exact ⟨rfl, many ▸ first, rfl⟩
    · exact absurd least.1.2 (by simp [all last (whole ▸ least.1.1)])
  · intro ends none
    obtain rfl := ended ends
    have many := removes.ended.1
    simp only [List.length_map, List.length_range] at many
    rcases removes.ended_at with ⟨stop, rfl, early, rfl, stops, -⟩ | ⟨whole, -, is⟩
    · exact absurd stops (by simp [none stop early])
    · refine ⟨whole, ?_, whole ▸ is⟩
      rw [first, many, whole, List.take_length]

end Script.Removes

namespace Engine

variable {τ : Type} [Transport τ] {good : Transport.States τ} {start engine : Engine τ Operation}
  {request : DeleteRequest} {reports : List (Reply × Local.Store)} {reply : Reply}

end Engine

end Courier
