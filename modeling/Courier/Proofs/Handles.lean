import Courier.Local.Table
import Mathlib.Data.List.Basic
import Mathlib.Data.List.Count
import Mathlib.Data.List.Nodup
import Mathlib.Data.Finset.Card

/-!
# Handles on shared buffers

A buffer is held by its names, by the sinks made on it and by the writers opened on them. What a
step does to buffers is said in events: handles are taken and released, a buffer is opened and
written to. Content, holders and what each handle holds then follow the events of a step.
-/

namespace Courier.Local

/-! ## Values by name -/

namespace Named

variable {α : Type} {table : Named α} {name other : String} {value : α}

def IsDistinct (table : Named α) : Prop := (table.map Prod.fst).Nodup

/-- How many values hold a buffer. -/
def holding (buffer? : α → Option BufferId) (table : Named α) (buffer : BufferId) : Nat :=
  (table.filterMap fun entry => buffer? entry.2).count buffer

theorem get?_drop (table : Named α) (name other : String) :
    get? (drop table name) other = if other = name then none else get? table other := by
  unfold get? drop
  rw [List.find?_filter]
  split_ifs with same
  · subst same
    rw [Option.map_eq_none_iff, List.find?_eq_none]
    simp
  · congr 2
    funext entry
    by_cases named : entry.1 = other <;> simp [named, same]

theorem get?_put (table : Named α) (name other : String) (value : α) :
    get? (put table name value) other = if other = name then some value else get? table other := by
  have dropped := get?_drop table name other
  unfold get? at dropped ⊢
  unfold put
  rw [List.find?_append, Option.map_or, dropped]
  split_ifs with same
  · simp [same]
  · simp [Ne.symm same]

theorem isDistinct_drop (distinct : table.IsDistinct) (name : String) :
    IsDistinct (drop table name) :=
  List.Nodup.sublist (List.filter_sublist.map Prod.fst) distinct

theorem isDistinct_put (distinct : table.IsDistinct) (name : String) (value : α) :
    IsDistinct (put table name value) := by
  unfold IsDistinct put
  rw [List.map_append]
  refine List.nodup_append.2 ⟨isDistinct_drop distinct name, List.nodup_singleton _, ?_⟩
  intro a left b right same
  obtain ⟨entry, kept, rfl⟩ := List.mem_map.1 left
  obtain rfl : b = name := by simpa using right
  simp [drop, same] at kept

theorem get?_eq_some_iff (distinct : table.IsDistinct) :
    get? table name = some value ↔ (name, value) ∈ table := by
  unfold get?
  constructor
  · intro found
    obtain ⟨entry, first, rfl⟩ := Option.map_eq_some_iff.1 found
    obtain rfl : entry.1 = name := by simpa using List.find?_some first
    exact List.mem_of_find?_eq_some first
  · intro mem
    cases first : table.find? fun entry => entry.1 == name with
    | none => simpa using List.find?_eq_none.1 first _ mem
    | some entry =>
        have named : entry.1 = name := by simpa using List.find?_some first
        have same := List.inj_on_of_nodup_map distinct (List.mem_of_find?_eq_some first) mem named
        rw [same]
        rfl

/-- The names of the values that hold a buffer. -/
def namesOn (buffer? : α → Option BufferId) (table : Named α) (buffer : BufferId) : List String :=
  (table.filter fun entry => buffer? entry.2 == some buffer).map Prod.fst

theorem length_namesOn (buffer? : α → Option BufferId) (table : Named α) (buffer : BufferId) :
    (namesOn buffer? table buffer).length = holding buffer? table buffer := by
  unfold namesOn holding
  rw [List.length_map, List.count_filterMap, List.countP_eq_length_filter]

theorem nodup_namesOn (distinct : table.IsDistinct) (buffer? : α → Option BufferId)
    (buffer : BufferId) : (namesOn buffer? table buffer).Nodup :=
  List.Nodup.sublist (List.filter_sublist.map Prod.fst) distinct

theorem mem_namesOn (distinct : table.IsDistinct) (buffer? : α → Option BufferId)
    (buffer : BufferId) :
    name ∈ namesOn buffer? table buffer ↔ (get? table name).bind buffer? = some buffer := by
  simp only [namesOn, List.mem_map, List.mem_filter, beq_iff_eq, Option.bind_eq_some_iff,
    get?_eq_some_iff distinct]
  constructor
  · rintro ⟨entry, ⟨mem, on⟩, rfl⟩
    exact ⟨entry.2, mem, on⟩
  · rintro ⟨value, mem, on⟩
    exact ⟨(name, value), ⟨mem, on⟩, rfl⟩

theorem holding_cons (buffer? : α → Option BufferId) (entry : String × α) (rest : Named α)
    (buffer : BufferId) :
    holding buffer? (entry :: rest) buffer =
      (buffer? entry.2).toList.count buffer + holding buffer? rest buffer := by
  unfold holding
  cases held : buffer? entry.2 with
  | none => simp [held]
  | some other => simp [held, List.count_cons, Nat.add_comm]

/-- The value under a name is one of the holders. -/
theorem holding_drop (distinct : table.IsDistinct) (buffer? : α → Option BufferId) (name : String)
    (buffer : BufferId) :
    holding buffer? (drop table name) buffer +
        ((get? table name).bind buffer?).toList.count buffer =
      holding buffer? table buffer := by
  induction table with
  | nil => rfl
  | cons entry rest ih =>
      obtain ⟨fresh, distinctRest⟩ := List.nodup_cons.1 distinct
      rw [holding_cons]
      by_cases named : entry.1 = name
      · have whole : drop (entry :: rest) name = rest := by
          unfold drop
          rw [List.filter_cons_of_neg (by simp [named])]
          refine List.filter_eq_self.2 fun other mem => ?_
          have distinct : other.1 ≠ name := fun same =>
            fresh (named ▸ same ▸ List.mem_map_of_mem mem)
          simpa using distinct
        have found : get? (entry :: rest) name = some entry.2 := by simp [get?, named]
        rw [whole, found, Option.bind_some, Nat.add_comm]
      · have kept : drop (entry :: rest) name = entry :: drop rest name := by
          unfold drop
          rw [List.filter_cons_of_pos (by simpa using named)]
        have passed : get? (entry :: rest) name = get? rest name := by simp [get?, named]
        rw [kept, passed, holding_cons, Nat.add_assoc, ih distinctRest]

theorem holding_put (distinct : table.IsDistinct) (buffer? : α → Option BufferId) (name : String)
    (value : α) (buffer : BufferId) :
    holding buffer? (put table name value) buffer +
        ((get? table name).bind buffer?).toList.count buffer =
      holding buffer? table buffer + (buffer? value).toList.count buffer := by
  have dropped := holding_drop distinct buffer? name buffer
  have last : holding buffer? (put table name value) buffer =
      holding buffer? (drop table name) buffer + (buffer? value).toList.count buffer := by
    have single := holding_cons buffer? (name, value) [] buffer
    unfold holding put at *
    rw [List.filterMap_append, List.count_append, single]
    rfl
  omega

end Named

/-! ## Handles and what is done with them -/

/-- What holds a buffer: a name of it, a sink made on it, or a writer opened on it. -/
inductive Handle where
  | buffer (name : String)
  | sink (name : String)
  | writer (name : String)
deriving DecidableEq

/-- What happens to a buffer. -/
inductive BufferEvent where
  | taken (buffer : BufferId)
  | released (buffer : BufferId)
  | opened (buffer : BufferId)
  | wrote (buffer : BufferId) (data : Bytes)
deriving DecidableEq

namespace BufferEvent

/-- What was written to a buffer, in order. -/
def written (buffer : BufferId) (past : List BufferEvent) : Bytes :=
  past.flatMap fun
    | wrote written data => if written = buffer then data else []
    | _ => []

/-- What happened since a sink on a buffer was last opened; everything if none was. -/
def sinceOpened (buffer : BufferId) (past : List BufferEvent) : List BufferEvent :=
  (past.reverse.takeWhile fun event => event != opened buffer).reverse

/-- What an event makes of the content of a buffer. -/
def onto (buffer : BufferId) (content : Bytes) : BufferEvent → Bytes
  | opened other => if other = buffer then [] else content
  | wrote other data => if other = buffer then content ++ data else content
  | _ => content

theorem sinceOpened_append (buffer : BufferId) (past : List BufferEvent) (event : BufferEvent) :
    sinceOpened buffer (past ++ [event]) =
      if event = opened buffer then [] else sinceOpened buffer past ++ [event] := by
  unfold sinceOpened
  rw [List.reverse_append, List.reverse_singleton, List.singleton_append, List.takeWhile_cons]
  by_cases opens : event = opened buffer <;> simp [opens]

/-- One more event. -/
theorem written_sinceOpened_append (buffer : BufferId) (past : List BufferEvent)
    (event : BufferEvent) :
    written buffer (sinceOpened buffer (past ++ [event])) =
      event.onto buffer (written buffer (sinceOpened buffer past)) := by
  rw [sinceOpened_append]
  cases event with
  | opened other => by_cases same : other = buffer <;> simp [onto, same, written]
  | wrote other data => by_cases same : other = buffer <;> simp [onto, same, written]
  | _ => simp [onto, written]

/-- All events of a step. -/
theorem written_sinceOpened_step (buffer : BufferId) (past events : List BufferEvent) :
    written buffer (sinceOpened buffer (past ++ events)) =
      events.foldl (onto buffer) (written buffer (sinceOpened buffer past)) := by
  induction events generalizing past with
  | nil => rw [List.append_nil]; rfl
  | cons event rest ih =>
      rw [List.append_cons, ih, written_sinceOpened_append]
      rfl

end BufferEvent

/-! ## Opening and writing -/

theorem Store.content_setContent (store : Store) (buffer other : BufferId) (content : Bytes)
    (there : content = [] ∨ buffer < store.buffers.length) :
    (store.setContent buffer content).content other =
      if buffer = other then content else store.content other := by
  unfold Store.setContent Store.content
  by_cases same : buffer = other
  · subst same
    rcases there with rfl | there
    · by_cases there : buffer < store.buffers.length <;> simp [there]
    · simp [there]
  · simp [same]

theorem Sink.openWriter_ok {sink : Sink} {writer : Writer} {store next : Store}
    (opened : sink.openWriter store = .ok (writer, next)) :
    writer.buffer? = sink.buffer? ∧ next.buffers.length = store.buffers.length ∧
      ∀ buffer, next.content buffer =
        (sink.buffer?.toList.map .opened).foldl (BufferEvent.onto buffer)
          (store.content buffer) := by
  cases sink with
  | memory name other =>
      cases opened
      refine ⟨rfl, List.length_set, fun buffer => ?_⟩
      exact Store.content_setContent store other buffer [] (.inl rfl)
  | file path =>
      simp only [Sink.openWriter] at opened
      split at opened
      all_goals cases opened
      all_goals exact ⟨rfl, rfl, fun _ => rfl⟩

namespace Writer

variable (writer : Writer) (store : Store) (data : Bytes)

theorem buffer?_write : (writer.write store data).2.buffer? = writer.buffer? := by
  cases writer <;> rfl

theorem length_write :
    (writer.write store data).1.buffers.length = store.buffers.length := by
  cases writer with
  | memory buffer => exact List.length_set
  | file name offset => rfl

theorem content_write
    (there : ∀ buffer, writer.buffer? = some buffer → buffer < store.buffers.length)
    (buffer : BufferId) :
    (writer.write store data).1.content buffer =
      (writer.buffer?.toList.map fun other => .wrote other data).foldl (BufferEvent.onto buffer)
        (store.content buffer) := by
  cases writer with
  | memory other =>
      refine (store.content_setContent other buffer _ (.inr (there other rfl))).trans ?_
      by_cases same : other = buffer <;> simp [BufferEvent.onto, buffer?, same]
  | file name offset => rfl

end Writer

/-! ## Steps -/

namespace Table

/-- The buffer that a handle holds. -/
def buffer? (table : Table) : Handle → Option BufferId
  | .buffer name => table.buffers.get? name
  | .sink name => (table.sinks.get? name).bind Sink.buffer?
  | .writer name => (table.writers.get? name).bind Writer.buffer?

/-- What is seen through a handle. -/
def seen? (table : Table) (handle : Handle) : Option Bytes :=
  (table.buffer? handle).map table.store.content

/-- A handle that is dropped, or another put in its place. -/
def release (table : Table) (handle : Handle) : List BufferEvent :=
  (table.buffer? handle).toList.map .released

/-- A handle more. -/
def take (buffer? : Option BufferId) : List BufferEvent := buffer?.toList.map .taken

/-- What a step does to buffers. -/
def events (table : Table) : Step → List BufferEvent
  | .newBuffer name => take (some table.store.newBuffer.1) ++ table.release (.buffer name)
  | .cloneBuffer name copy =>
    match table.buffers.get? name with
    | some buffer => take (some buffer) ++ table.release (.buffer copy)
    | none => []
  | .addSink name sink => take sink.buffer? ++ table.release (.sink name)
  | .clone name copy =>
    match table.sources.get? name, table.sinks.get? name with
    | none, some sink => take sink.buffer? ++ table.release (.sink copy)
    | _, _ => []
  | .openEnd name as =>
    match table.sources.get? name, table.sinks.get? name with
    | none, some sink =>
      match sink.openWriter table.store with
      | .ok (writer, _) =>
        sink.buffer?.toList.map .opened ++ (take writer.buffer? ++ table.release (.writer as))
      | .error _ => []
    | _, _ => []
  | .write name data =>
    (table.buffer? (.writer name)).toList.map fun buffer => .wrote buffer data
  | .drop name =>
    table.release (.buffer name) ++ table.release (.sink name) ++ table.release (.writer name)
  | _ => []

end Table

/-- A sink is made on a buffer by someone who has a name of it. -/
def Table.Step.IsPossible (table : Table) : Table.Step → Prop
  | .addSink _ (.memory _ buffer) => ∃ name, table.buffers.get? name = some buffer
  | _ => True

namespace Table

/-! ## One step -/

variable {table after : Table} {step : Step} {buffer : BufferId} {events : List BufferEvent}

/-- What a step can do to the handles and the buffers, with what happens by it. -/
inductive Acts (table : Table) : List BufferEvent → Table → Prop
  | rests {after : Table} (buffers : after.buffers = table.buffers)
      (sinks : after.sinks = table.sinks) (writers : after.writers = table.writers)
      (contents : after.store.buffers = table.store.buffers) : Acts table [] after
  | begins (name : String) :
      Acts table (take (some table.store.newBuffer.1) ++ table.release (.buffer name))
        { table with
          store := table.store.newBuffer.2
          buffers := table.buffers.put name table.store.newBuffer.1 }
  | names {name : String} {buffer : BufferId} (held : table.buffer? (.buffer name) = some buffer)
      (copy : String) :
      Acts table (take (some buffer) ++ table.release (.buffer copy))
        { table with buffers := table.buffers.put copy buffer }
  | keeps {sink : Sink}
      (held : ∀ buffer, sink.buffer? = some buffer → ∃ handle, table.buffer? handle = some buffer)
      (name : String) :
      Acts table (take sink.buffer? ++ table.release (.sink name))
        { table with sinks := table.sinks.put name sink }
  | opens {name : String} {sink : Sink} {writer : Writer} {store : Store}
      (made : table.sinks.get? name = some sink)
      (opened : sink.openWriter table.store = .ok (writer, store)) (as : String) :
      Acts table
        (sink.buffer?.toList.map .opened ++ (take writer.buffer? ++ table.release (.writer as)))
        { table with store, writers := table.writers.put as writer }
  | writes {name : String} {writer : Writer} (made : table.writers.get? name = some writer)
      (data : Bytes) :
      Acts table (writer.buffer?.toList.map fun buffer => .wrote buffer data)
        { table with
          store := (writer.write table.store data).1
          writers := table.writers.put name (writer.write table.store data).2 }
  | drops (name : String) :
      Acts table
        (table.release (.buffer name) ++ table.release (.sink name) ++
          table.release (.writer name))
        (perform (.drop name) table).2

/-- Every step is one of these. -/
theorem acts_perform (possible : step.IsPossible table) :
    Acts table (table.events step) (perform step table).2 := by
  cases step with
  | newBuffer name => exact .begins name
  | cloneBuffer name copy =>
      cases held : table.buffers.get? name with
      | none =>
          simp only [perform, Table.events, held]
          exact .rests rfl rfl rfl rfl
      | some buffer =>
          simp only [perform, Table.events, held]
          exact .names held copy
  | addSink name sink =>
      refine .keeps (fun buffer on => ?_) name
      cases sink with
      | file path => cases on
      | memory label other =>
          obtain rfl : other = buffer := Option.some.inj on
          obtain ⟨holder, held⟩ := possible
          exact ⟨.buffer holder, held⟩
  | clone name copy =>
      cases source : table.sources.get? name with
      | some source' =>
          simp only [perform, Table.events, source]
          exact .rests rfl rfl rfl rfl
      | none =>
          cases made : table.sinks.get? name with
          | none =>
              simp only [perform, Table.events, source, made]
              exact .rests rfl rfl rfl rfl
          | some sink =>
              simp only [perform, Table.events, source, made]
              refine .keeps (fun buffer on => ⟨.sink name, ?_⟩) copy
              simp [buffer?, made, on]
  | openEnd name as =>
      cases source : table.sources.get? name with
      | some source' =>
          simp only [perform, Table.events, source]
          split <;> exact .rests rfl rfl rfl rfl
      | none =>
          cases made : table.sinks.get? name with
          | none =>
              simp only [perform, Table.events, source, made]
              exact .rests rfl rfl rfl rfl
          | some sink =>
              simp only [perform, Table.events, source, made]
              cases opened : sink.openWriter table.store with
              | error e => exact .rests rfl rfl rfl rfl
              | ok pair => exact .opens made opened as
  | write name data =>
      cases made : table.writers.get? name with
      | none =>
          simp only [perform, Table.events, buffer?, made]
          exact .rests rfl rfl rfl rfl
      | some writer =>
          simp only [perform, Table.events, buffer?, made]
          exact .writes made data
  | drop name => exact .drops name
  | addSource _ _ => exact .rests rfl rfl rfl rfl
  | same name other =>
      simp only [perform, Table.events]
      split
      · exact .rests rfl rfl rfl rfl
      · split <;> exact .rests rfl rfl rfl rfl
  | describe _ | read _ _ | shutdown _ | fileContent _ =>
      simp only [perform, Table.events]
      split <;> exact .rests rfl rfl rfl rfl

/-! ## What every step keeps -/

/-- Names are distinct, and what is held exists. -/
structure Sound (table : Table) : Prop where
  buffers : table.buffers.IsDistinct
  sinks : table.sinks.IsDistinct
  writers : table.writers.IsDistinct
  held : ∀ handle buffer, table.buffer? handle = some buffer → buffer < table.store.buffers.length

theorem foldl_take (held : Option BufferId) (buffer : BufferId) (content : Bytes) :
    (take held).foldl (BufferEvent.onto buffer) content = content := by
  cases held <;> rfl

theorem foldl_release (table : Table) (handle : Handle) (buffer : BufferId) (content : Bytes) :
    (table.release handle).foldl (BufferEvent.onto buffer) content = content := by
  unfold release
  cases table.buffer? handle <;> rfl

/-- The content of a buffer follows what happens to it. -/
theorem Acts.content (acts : Acts table events after) (sound : table.Sound) (buffer : BufferId) :
    after.store.content buffer =
      events.foldl (BufferEvent.onto buffer) (table.store.content buffer) := by
  cases acts with
  | rests buffers sinks writers contents =>
      unfold Store.content
      rw [contents]
      rfl
  | begins name =>
      rw [List.foldl_append, foldl_take, foldl_release]
      show ((table.store.buffers ++ [[]])[buffer]?).getD [] = _
      rw [List.getElem?_append]
      split_ifs with there
      · rfl
      · have beyond : table.store.content buffer = [] := by simp [Store.content, there]
        cases buffer - table.store.buffers.length <;> simp [beyond]
  | names held copy =>
      rw [List.foldl_append, foldl_take, foldl_release]
  | keeps held name => rw [List.foldl_append, foldl_take, foldl_release]
  | opens made opened as =>
      rw [List.foldl_append, List.foldl_append, foldl_take, foldl_release]
      exact (Sink.openWriter_ok opened).2.2 buffer
  | @writes name writer made data =>
      refine writer.content_write _ data (fun other on => ?_) buffer
      exact sound.held (.writer name) other (by simp [buffer?, made, on])
  | drops name =>
      rw [List.foldl_append, List.foldl_append, foldl_release, foldl_release, foldl_release]
      rfl

/-! ### What a handle holds afterwards -/

theorem buffer?_putBuffer (table : Table) (store : Store) (name : String) (buffer : BufferId)
    (handle : Handle) :
    ({ table with store, buffers := table.buffers.put name buffer } : Table).buffer? handle =
      if handle = .buffer name then some buffer else table.buffer? handle := by
  cases handle <;> simp [buffer?, Named.get?_put]

theorem buffer?_putSink (table : Table) (name : String) (sink : Sink) (handle : Handle) :
    ({ table with sinks := table.sinks.put name sink } : Table).buffer? handle =
      if handle = .sink name then sink.buffer? else table.buffer? handle := by
  cases handle with
  | sink other => by_cases same : other = name <;> simp [buffer?, Named.get?_put, same]
  | _ => simp [buffer?]

theorem buffer?_putWriter (table : Table) (store : Store) (name : String) (writer : Writer)
    (handle : Handle) :
    ({ table with store, writers := table.writers.put name writer } : Table).buffer? handle =
      if handle = .writer name then writer.buffer? else table.buffer? handle := by
  cases handle with
  | writer other => by_cases same : other = name <;> simp [buffer?, Named.get?_put, same]
  | _ => simp [buffer?]

theorem buffer?_drop (table : Table) (name : String) (handle : Handle) :
    (perform (.drop name) table).2.buffer? handle =
      if handle = .buffer name ∨ handle = .sink name ∨ handle = .writer name then none
      else table.buffer? handle := by
  cases handle with
  | _ other => by_cases same : other = name <;> simp [perform, buffer?, Named.get?_drop, same]

/-- When a handle comes to hold something else, it is enough that this exists. -/
theorem held_put {made : Handle} {held : Option BufferId}
    (before : ∀ handle buffer, table.buffer? handle = some buffer →
      buffer < table.store.buffers.length)
    (length : table.store.buffers.length ≤ after.store.buffers.length)
    (becomes : ∀ handle, after.buffer? handle =
      if handle = made then held else table.buffer? handle)
    (there : ∀ buffer, held = some buffer → buffer < after.store.buffers.length)
    (handle : Handle) (buffer : BufferId) (on : after.buffer? handle = some buffer) :
    buffer < after.store.buffers.length := by
  rw [becomes] at on
  split_ifs at on with same
  · exact there buffer on
  · exact Nat.lt_of_lt_of_le (before handle buffer on) length

theorem Acts.sound (acts : Acts table events after) (sound : table.Sound) : after.Sound := by
  obtain ⟨buffers, sinks, writers, held⟩ := sound
  cases acts with
  | rests same same' same'' contents =>
      refine ⟨same ▸ buffers, same' ▸ sinks, same'' ▸ writers, fun handle buffer on => ?_⟩
      rw [contents]
      refine held handle buffer ?_
      cases handle <;> simpa only [buffer?, same, same', same''] using on
  | begins name =>
      have longer : table.store.newBuffer.2.buffers.length = table.store.buffers.length + 1 :=
        List.length_append
      refine ⟨Named.isDistinct_put buffers .., sinks, writers,
        held_put held (longer ▸ Nat.le_succ _) (buffer?_putBuffer table _ name _) ?_⟩
      intro buffer new
      obtain rfl : table.store.buffers.length = buffer := Option.some.inj new
      exact longer ▸ Nat.lt_succ_self _
  | names named copy =>
      refine ⟨Named.isDistinct_put buffers .., sinks, writers,
        held_put held (Nat.le_refl _) (buffer?_putBuffer table _ copy _) ?_⟩
      intro buffer new
      obtain rfl := Option.some.inj new
      exact held _ _ named
  | keeps known name =>
      refine ⟨buffers, Named.isDistinct_put sinks .., writers,
        held_put held (Nat.le_refl _) (buffer?_putSink table name _) fun buffer on => ?_⟩
      obtain ⟨holder, on⟩ := known buffer on
      exact held holder buffer on
  | @opens name sink writer store made opened as =>
      obtain ⟨same, length, -⟩ := Sink.openWriter_ok opened
      refine ⟨buffers, sinks, Named.isDistinct_put writers ..,
        held_put held (Nat.le_of_eq length.symm) (buffer?_putWriter table _ as _)
          fun buffer on => ?_⟩
      show buffer < store.buffers.length
      rw [length]
      exact held (.sink name) buffer (by simp [buffer?, made, ← same, on])
  | @writes name writer made data =>
      have length := writer.length_write table.store data
      refine ⟨buffers, sinks, Named.isDistinct_put writers ..,
        held_put held (Nat.le_of_eq length.symm) (buffer?_putWriter table _ name _)
          fun buffer on => ?_⟩
      show buffer < (writer.write table.store data).1.buffers.length
      rw [writer.buffer?_write] at on
      rw [length]
      exact held (.writer name) buffer (by simp [buffer?, made, on])
  | drops name =>
      refine ⟨Named.isDistinct_drop buffers name, Named.isDistinct_drop sinks name,
        Named.isDistinct_drop writers name, fun handle buffer on => ?_⟩
      rw [buffer?_drop] at on
      split_ifs at on with gone
      exact held handle buffer on

/-! ### Holders -/

theorem holders_eq (table : Table) (buffer : BufferId) :
    table.holders buffer = table.buffers.holding some buffer +
      table.sinks.holding Sink.buffer? buffer + table.writers.holding Writer.buffer? buffer := by
  unfold holders Named.holding
  rw [List.filterMap_eq_map']

theorem count_released_release (table : Table) (handle : Handle) (buffer : BufferId) :
    (table.release handle).count (.released buffer) = (table.buffer? handle).toList.count buffer :=
  List.count_map_of_injective _ _ (fun _ _ => BufferEvent.released.inj) _

theorem count_taken_release (table : Table) (handle : Handle) (buffer : BufferId) :
    (table.release handle).count (.taken buffer) = 0 := by
  simp [release, List.count_eq_zero]

/-- What is taken and released where a handle is put in the place of another. -/
theorem count_exchange (table : Table) (held : Option BufferId) (handle : Handle)
    (buffer : BufferId) :
    (take held ++ table.release handle).count (.taken buffer) = held.toList.count buffer ∧
      (take held ++ table.release handle).count (.released buffer) =
        (table.buffer? handle).toList.count buffer := by
  have taken : (take held).count (.taken buffer) = held.toList.count buffer :=
    List.count_map_of_injective _ _ (fun _ _ => BufferEvent.taken.inj) _
  have unreleased : (take held).count (.released buffer) = 0 := by
    simp [take, List.count_eq_zero]
  rw [List.count_append, List.count_append, taken, unreleased, count_taken_release,
    count_released_release, Nat.add_zero, Nat.zero_add]
  exact ⟨rfl, rfl⟩

theorem count_opened (held : Option BufferId) (buffer : BufferId) :
    (held.toList.map BufferEvent.opened).count (.taken buffer) = 0 ∧
      (held.toList.map BufferEvent.opened).count (.released buffer) = 0 := by
  simp [List.count_eq_zero]

theorem count_wrote (held : Option BufferId) (data : Bytes) (buffer : BufferId) :
    (held.toList.map fun on => BufferEvent.wrote on data).count (.taken buffer) = 0 ∧
      (held.toList.map fun on => BufferEvent.wrote on data).count (.released buffer) = 0 := by
  simp [List.count_eq_zero]

/-- No handle is lost: those there are and those released are those there were and those taken.
A value that is put under a used name takes the place of a holder that is released. -/
theorem Acts.holders (acts : Acts table events after) (sound : table.Sound) (buffer : BufferId) :
    after.holders buffer + events.count (.released buffer) =
      table.holders buffer + events.count (.taken buffer) := by
  simp only [holders_eq]
  cases acts with
  | rests buffers sinks writers contents =>
      rw [buffers, sinks, writers]
      rfl
  | begins name =>
      have put := Named.holding_put sound.buffers some name table.store.newBuffer.1 buffer
      obtain ⟨taken, released⟩ :=
        count_exchange table (some table.store.newBuffer.1) (.buffer name) buffer
      rw [Option.bind_fun_some] at put
      simp only [taken, released, buffer?]
      omega
  | @names name held named copy =>
      have put := Named.holding_put sound.buffers some copy held buffer
      obtain ⟨taken, released⟩ := count_exchange table (some held) (.buffer copy) buffer
      rw [Option.bind_fun_some] at put
      simp only [taken, released, buffer?]
      omega
  | @keeps sink held name =>
      have put := Named.holding_put sound.sinks Sink.buffer? name sink buffer
      obtain ⟨taken, released⟩ := count_exchange table sink.buffer? (.sink name) buffer
      simp only [taken, released, buffer?]
      omega
  | @opens name sink writer store made opened as =>
      have put := Named.holding_put sound.writers Writer.buffer? as writer buffer
      obtain ⟨taken, released⟩ := count_exchange table writer.buffer? (.writer as) buffer
      obtain ⟨untaken, unreleased⟩ := count_opened sink.buffer? buffer
      rw [List.count_append, unreleased, released, List.count_append, untaken, taken, buffer?]
      simp only
      omega
  | @writes name writer made data =>
      have put := Named.holding_put sound.writers Writer.buffer? name
        (writer.write table.store data).2 buffer
      rw [made, Option.bind_some, writer.buffer?_write] at put
      rw [(count_wrote writer.buffer? data buffer).1, (count_wrote writer.buffer? data buffer).2]
      simp only
      omega
  | drops name =>
      have buffers := Named.holding_drop sound.buffers some name buffer
      have sinks := Named.holding_drop sound.sinks Sink.buffer? name buffer
      have writers := Named.holding_drop sound.writers Writer.buffer? name buffer
      simp only [List.count_append, count_released_release, count_taken_release, buffer?, perform]
      rw [Option.bind_fun_some] at buffers
      omega

/-- The handles on a buffer. -/
def handles (table : Table) (buffer : BufferId) : List Handle :=
  (table.buffers.namesOn some buffer).map .buffer ++
    (table.sinks.namesOn Sink.buffer? buffer).map .sink ++
    (table.writers.namesOn Writer.buffer? buffer).map .writer

theorem length_handles (table : Table) (buffer : BufferId) :
    (table.handles buffer).length = table.holders buffer := by
  simp only [handles, List.length_append, List.length_map, Named.length_namesOn, holders_eq]

theorem Sound.nodup_handles (sound : table.Sound) (buffer : BufferId) :
    (table.handles buffer).Nodup := by
  have buffers := Named.nodup_namesOn sound.buffers some buffer
  have sinks := Named.nodup_namesOn sound.sinks Sink.buffer? buffer
  have writers := Named.nodup_namesOn sound.writers Writer.buffer? buffer
  unfold handles
  refine List.nodup_append.2 ⟨List.nodup_append.2 ⟨?_, ?_, ?_⟩, ?_, ?_⟩
  · exact buffers.map fun _ _ => Handle.buffer.inj
  · exact sinks.map fun _ _ => Handle.sink.inj
  · simp
  · exact writers.map fun _ _ => Handle.writer.inj
  · simp only [List.mem_append, List.mem_map]
    rintro _ (⟨name, -, rfl⟩ | ⟨name, -, rfl⟩) _ ⟨other, -, rfl⟩ <;> exact nofun

theorem Sound.mem_handles (sound : table.Sound) (handle : Handle) (buffer : BufferId) :
    handle ∈ table.handles buffer ↔ table.buffer? handle = some buffer := by
  cases handle with
  | buffer name =>
      simp [handles, buffer?, Named.mem_namesOn sound.buffers, Option.bind_fun_some]
  | sink name => simp [handles, buffer?, Named.mem_namesOn sound.sinks]
  | writer name => simp [handles, buffer?, Named.mem_namesOn sound.writers]

/-! ### Where a handle comes from -/

/-- A step makes a handle from another. -/
inductive Copies (table : Table) : Step → Handle → Handle → Prop
  | buffer (name copy : String) :
      Copies table (.cloneBuffer name copy) (.buffer name) (.buffer copy)
  | made {name : String} {buffer : BufferId} (named : table.buffers.get? name = some buffer)
      (label copy : String) :
      Copies table (.addSink copy (.memory label buffer)) (.buffer name) (.sink copy)
  | sink {name : String} (noSource : table.sources.get? name = none) (copy : String) :
      Copies table (.clone name copy) (.sink name) (.sink copy)
  | writer {name : String} (noSource : table.sources.get? name = none) (as : String) :
      Copies table (.openEnd name as) (.sink name) (.writer as)

/-- A step puts another handle in the place of this one, or drops it. -/
def Step.Touches : Step → Handle → Prop
  | .newBuffer name, .buffer other => name = other
  | .cloneBuffer _ name, .buffer other => name = other
  | .addSink name _, .sink other => name = other
  | .clone _ name, .sink other => name = other
  | .openEnd _ name, .writer other => name = other
  | .drop name, .buffer other | .drop name, .sink other | .drop name, .writer other => name = other
  | _, _ => False

theorem Copies.buffer? {handle copy : Handle} (copies : table.Copies step handle copy)
    (on : table.buffer? handle = some buffer) :
    (perform step table).2.buffer? copy = some buffer := by
  cases copies with
  | buffer name copy =>
      have held : table.buffers.get? name = some buffer := on
      simp only [perform, held]
      rw [buffer?_putBuffer, if_pos rfl]
  | made named label copy =>
      rw [Table.buffer?, named] at on
      simp only [perform]
      rw [buffer?_putSink, if_pos rfl, Sink.buffer?, on]
  | @sink name noSource copy =>
      obtain ⟨sink, made, on⟩ := Option.bind_eq_some_iff.1 on
      simp only [perform, noSource, made]
      rw [buffer?_putSink, if_pos rfl, on]
  | @writer name noSource as =>
      obtain ⟨sink, made, on⟩ := Option.bind_eq_some_iff.1 on
      cases sink with
      | file path => cases on
      | memory label other =>
          simp only [perform, noSource, made, Sink.openWriter]
          rw [buffer?_putWriter, if_pos rfl]
          exact on

theorem buffer?_perform {handle : Handle} (untouched : ¬ step.Touches handle) :
    (perform step table).2.buffer? handle = table.buffer? handle := by
  have apart (made : Handle) (touched : step.Touches made) : handle ≠ made := fun same =>
    untouched (same ▸ touched)
  cases step with
  | newBuffer name =>
      exact (buffer?_putBuffer table _ name _ handle).trans (if_neg (apart (.buffer name) rfl))
  | cloneBuffer name copy =>
      simp only [perform]
      split
      · exact (buffer?_putBuffer table _ copy _ handle).trans (if_neg (apart (.buffer copy) rfl))
      · rfl
  | addSink name sink =>
      exact (buffer?_putSink table name sink handle).trans (if_neg (apart (.sink name) rfl))
  | clone name copy =>
      simp only [perform]
      split
      · cases handle <;> rfl
      · exact (buffer?_putSink table copy _ handle).trans (if_neg (apart (.sink copy) rfl))
      · rfl
  | openEnd name as =>
      simp only [perform]
      split
      · split <;> cases handle <;> rfl
      · split
        · exact (buffer?_putWriter table _ as _ handle).trans (if_neg (apart (.writer as) rfl))
        · rfl
      · rfl
  | write name data =>
      cases made : table.writers.get? name with
      | none => simp only [perform, made]
      | some writer =>
          simp only [perform, made]
          rw [buffer?_putWriter]
          split_ifs with same
          · rw [same, buffer?, made, Option.bind_some, writer.buffer?_write]
          · rfl
  | drop name =>
      refine (buffer?_drop table name handle).trans (if_neg ?_)
      rintro (same | same | same)
      · exact apart (.buffer name) rfl same
      · exact apart (.sink name) rfl same
      · exact apart (.writer name) rfl same
  | addSource _ _ => cases handle <;> rfl
  | same name other =>
      simp only [perform]
      split
      · rfl
      · split <;> rfl
  | describe _ | read _ _ | shutdown _ | fileContent _ =>
      simp only [perform]
      split <;> cases handle <;> rfl

end Table

end Courier.Local
