import Courier.Proofs.Handles

/-!
# Shared buffers

Whatever is done with the handles on a buffer in whatever order, they all see one content: what was
written since a sink on the buffer was last opened. The holders that are counted are the handles
there are, those taken less those released. A reader of a memory source has its own place in the
bytes, so it delivers them one after another, whatever else is read meanwhile.
-/

namespace Courier.Local

/-- Reading takes from the front. -/
theorem Reader.read_memory (store : Store) (limit : Option Nat) (rest : Bytes) :
    ∃ left, (Reader.memory rest).read store limit = (limit.elim rest rest.take, .memory left) ∧
      limit.elim rest rest.take ++ left = rest := by
  cases limit with
  | none =>
      refine ⟨rest.drop rest.length, rfl, ?_⟩
      show rest ++ rest.drop rest.length = rest
      rw [List.drop_length, List.append_nil]
  | some n => exact ⟨_, rfl, (List.prefix_append_drop (List.take_prefix n rest)).symm⟩

namespace Table

variable {table : Table} {step : Step}

/-! ## Runs -/

def run (steps : List Step) (table : Table) : Table :=
  steps.foldl (fun table step => (perform step table).2) table

/-- What happens to buffers in a run. -/
def trace : List Step → Table → List BufferEvent
  | [], _ => []
  | step :: rest, table => table.events step ++ trace rest (perform step table).2

def ArePossible : List Step → Table → Prop
  | [], _ => True
  | step :: rest, table => step.IsPossible table ∧ ArePossible rest (perform step table).2

/-- The table is what the past has made of it. -/
structure Records (past : List BufferEvent) (table : Table) : Prop where
  sound : table.Sound
  content : ∀ buffer, table.store.content buffer =
    BufferEvent.written buffer (BufferEvent.sinceOpened buffer past)
  holders : ∀ buffer,
    table.holders buffer + past.count (.released buffer) = past.count (.taken buffer)

theorem records_empty (disk : Disk) : Records [] { store := { disk } } where
  sound := by
    refine ⟨List.nodup_nil, List.nodup_nil, List.nodup_nil, fun handle buffer on => ?_⟩
    cases handle <;> cases on
  content _ := rfl
  holders _ := rfl

theorem Records.perform {past : List BufferEvent} (records : Records past table)
    (possible : step.IsPossible table) :
    Records (past ++ table.events step) (Table.perform step table).2 := by
  have acts := acts_perform possible
  refine ⟨acts.sound records.sound, fun buffer => ?_, fun buffer => ?_⟩
  · rw [acts.content records.sound, records.content, BufferEvent.written_sinceOpened_step]
  · have before := records.holders buffer
    have change := acts.holders records.sound buffer
    rw [List.count_append, List.count_append]
    omega

theorem Records.run {past : List BufferEvent} {steps : List Step} (records : Records past table)
    (possible : ArePossible steps table) :
    Records (past ++ trace steps table) (table.run steps) := by
  induction steps generalizing past table with
  | nil => rwa [trace, List.append_nil]
  | cons step rest ih =>
      rw [trace, ← List.append_assoc]
      exact ih (records.perform possible.1) possible.2

/-! ## Readers -/

/-- A step puts another reader in the place of this one, or drops it. -/
def Step.Replaces (table : Table) (as : String) : Step → Prop
  | .openEnd name other => other = as ∧ (perform (.openEnd name other) table).1 = .openedReader
  | .drop other => other = as
  | _ => False

/-- The bytes that a step delivers from a reader. -/
def Step.delivered (table : Table) (as : String) : Step → Bytes
  | .read name limit =>
    match (perform (.read name limit) table).1 with
    | .bytes content => if name = as then content else []
    | _ => []
  | _ => []

def Keeps (as : String) : List Step → Table → Prop
  | [], _ => True
  | step :: rest, table => ¬ step.Replaces table as ∧ Keeps as rest (perform step table).2

/-- What a reader delivers in a run. -/
def delivered (as : String) : List Step → Table → Bytes
  | [], _ => []
  | step :: rest, table => step.delivered table as ++ delivered as rest (perform step table).2

theorem readers_perform {as : String} {rest : Bytes}
    (there : table.readers.get? as = some (.memory rest)) (kept : ¬ step.Replaces table as) :
    ∃ left, (perform step table).2.readers.get? as = some (.memory left) ∧
      step.delivered table as ++ left = rest := by
  cases step with
  | read name limit =>
      by_cases same : name = as
      · subst same
        obtain ⟨left, taken, whole⟩ := Reader.read_memory table.store limit rest
        simp only [Step.delivered, perform, there, taken, if_true]
        exact ⟨left, by rw [Named.get?_put, if_pos rfl], whole⟩
      · refine ⟨rest, ?_, ?_⟩
        · simp only [perform]
          split
          · exact (Named.get?_put ..).trans ((if_neg (Ne.symm same)).trans there)
          · exact there
        · simp only [Step.delivered, if_neg same]
          split <;> rfl
  | drop name =>
      have apart : as ≠ name := fun same => kept same.symm
      exact ⟨rest, (Named.get?_drop ..).trans ((if_neg apart).trans there), rfl⟩
  | openEnd name other =>
      refine ⟨rest, ?_, rfl⟩
      unfold Step.Replaces at kept
      simp only [perform] at kept ⊢
      split at kept
      · split at kept
        · have apart : as ≠ other := fun same => kept ⟨same.symm, rfl⟩
          exact (Named.get?_put ..).trans ((if_neg apart).trans there)
        · exact there
      · split <;> exact there
      · exact there
  | same name other =>
      refine ⟨rest, ?_, rfl⟩
      simp only [perform]
      split
      · exact there
      · split <;> exact there
  | cloneBuffer _ _ | clone _ _ | describe _ | write _ _ | shutdown _ | fileContent _ =>
      refine ⟨rest, ?_, rfl⟩
      simp only [perform]
      split <;> exact there
  | newBuffer _ | addSource _ _ | addSink _ _ => exact ⟨rest, there, rfl⟩

theorem readers_run {as : String} {rest : Bytes} {steps : List Step}
    (there : table.readers.get? as = some (.memory rest)) (kept : Keeps as steps table) :
    ∃ left, (table.run steps).readers.get? as = some (.memory left) ∧
      delivered as steps table ++ left = rest := by
  induction steps generalizing table rest with
  | nil => exact ⟨rest, there, rfl⟩
  | cons step more ih =>
      obtain ⟨left, now, first⟩ := readers_perform there kept.1
      obtain ⟨last, after, later⟩ := ih now kept.2
      refine ⟨last, after, ?_⟩
      rw [delivered, List.append_assoc, later, first]

/-! ## Every interleaving -/

/-- Over any steps: all handles on a buffer see what was written since it was last opened, and they
are as many as are counted; a handle made from another is on the same buffer, and stays there. A
reader opened on a memory source or on a copy of it delivers the bytes of the source one after
another. -/
theorem shared_buffers_hold {disk : Disk} {steps : List Step}
    (possible : ArePossible steps { store := { disk } }) :
    let table := run steps { store := { disk } }
    let past := trace steps { store := { disk } }
    (∀ handle buffer, table.buffer? handle = some buffer →
      table.seen? handle =
        some (BufferEvent.written buffer (BufferEvent.sinceOpened buffer past))) ∧
    (∀ buffer, ∃ live : Finset Handle,
      (∀ handle, handle ∈ live ↔ table.buffer? handle = some buffer) ∧
      table.holders buffer = live.card ∧
      table.holders buffer + past.count (.released buffer) = past.count (.taken buffer)) ∧
    (∀ step handle copy buffer, table.Copies step handle copy →
      table.buffer? handle = some buffer → (perform step table).2.buffer? copy = some buffer) ∧
    (∀ step handle, ¬ Step.Touches step handle →
      (perform step table).2.buffer? handle = table.buffer? handle) ∧
    (∀ name copy source, table.sources.get? name = some source →
      (perform (.clone name copy) table).2.sources.get? copy = some source) ∧
    (∀ name label data as more, table.sources.get? name = some (.memory label data) →
      let opened := (perform (.openEnd name as) table).2
      Keeps as more opened →
        ∃ rest, delivered as more opened ++ rest = data ∧
          ∀ limit, (perform (.read as limit) (opened.run more)).1 =
            .bytes (limit.elim rest rest.take)) := by
  intro table past
  have records : Records past table := (records_empty disk).run possible
  refine ⟨fun handle buffer on => ?_, fun buffer => ?_,
    fun step handle copy buffer copies on => copies.buffer? on,
    fun step handle untouched => buffer?_perform untouched,
    fun name copy source made => ?_, fun name label data as more made => ?_⟩
  · rw [seen?, on, Option.map_some, records.content]
  · refine ⟨(table.handles buffer).toFinset, fun handle => ?_, ?_, records.holders buffer⟩
    · rw [List.mem_toFinset, records.sound.mem_handles]
    · rw [List.toFinset_card_of_nodup (records.sound.nodup_handles buffer), length_handles]
  · simp only [perform, made]
    rw [Named.get?_put, if_pos rfl]
  · intro opened kept
    have there : opened.readers.get? as = some (.memory data) := by
      simp only [opened, perform, made, Source.openReader]
      rw [Named.get?_put, if_pos rfl]
    obtain ⟨rest, last, whole⟩ := readers_run there kept
    refine ⟨rest, whole, fun limit => ?_⟩
    obtain ⟨left, taken, -⟩ := Reader.read_memory (opened.run more).store limit rest
    simp only [perform, last, taken]

/-- A sink is opened again under a writer that goes on, and a reader reads between others. -/
theorem shared_buffers_hold_reopened :
    let steps : List Step := [.newBuffer "buffer", .addSink "sink" (.memory "out" 0),
      .openEnd "sink" "old", .write "old" [1], .clone "sink" "copy", .openEnd "copy" "new",
      .write "old" [2], .write "new" [3], .shutdown "new", .drop "new", .write "old" [4],
      .addSource "source" (.memory "in" [7, 8, 9])]
    let more : List Step := [.openEnd "source" "other", .read "reader" (some 2),
      .read "other" none, .write "old" [5]]
    let table := run steps {}
    let opened := (perform (.openEnd "source" "reader") table).2
    ArePossible steps {} ∧ Keeps "reader" more opened ∧
      table.seen? (.sink "copy") = some [2, 3, 4] ∧
      (∃ live : Finset Handle,
        (∀ handle, handle ∈ live ↔ table.buffer? handle = some 0) ∧ live.card = 4) ∧
      (perform (.read "reader" none) (opened.run more)).1 = .bytes [9] := by
  intro steps more table opened
  have possible : ArePossible steps {} := by
    refine ⟨trivial, ⟨"buffer", rfl⟩, ?_⟩
    simp only [ArePossible, Step.IsPossible, and_self]
  have kept : Keeps "reader" more opened := by
    refine ⟨?_, nofun, nofun, nofun, trivial⟩
    rintro ⟨same, -⟩
    exact absurd same (by decide)
  obtain ⟨seen, live, -, -, -, delivers⟩ := shared_buffers_hold possible
  refine ⟨possible, kept, seen (.sink "copy") 0 rfl, ?_, ?_⟩
  · obtain ⟨live, mem, card, -⟩ := live 0
    exact ⟨live, mem, card.symm⟩
  · obtain ⟨rest, whole, last⟩ := delivers "source" "in" [7, 8, 9] "reader" more rfl kept
    have whole : [7, 8] ++ rest = [7, 8] ++ [9] := whole
    rw [List.append_cancel_left whole] at last
    exact last none

end Table

end Courier.Local
