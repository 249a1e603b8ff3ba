import Courier.Local.Data

/-!
# Named local ends

A table holds sources, sinks, readers, writers and shared buffers under names, each kind with
names of its own. Putting something under a used name drops what was there. The holders of a
buffer are its own names and the sinks and writers on it.
-/

namespace Courier.Local

/-- Values by name; a name occurs once. -/
abbrev Named (α : Type) := List (String × α)

namespace Named

variable {α : Type}

def get? (table : Named α) (name : String) : Option α :=
  (table.find? fun entry => entry.1 == name).map Prod.snd

def drop (table : Named α) (name : String) : Named α := table.filter fun entry => entry.1 != name

def put (table : Named α) (name : String) (value : α) : Named α :=
  drop table name ++ [(name, value)]

def has (table : Named α) (name : String) : Bool := (get? table name).isSome

end Named

structure Table where
  store : Store := {}
  buffers : Named BufferId := []
  sources : Named Source := []
  sinks : Named Sink := []
  readers : Named Reader := []
  writers : Named Writer := []

namespace Table

/-- How many live handles there are on a buffer. -/
def holders (table : Table) (buffer : BufferId) : Nat :=
  (table.buffers.map Prod.snd).count buffer +
    (table.sinks.filterMap fun entry => entry.2.buffer?).count buffer +
    (table.writers.filterMap fun entry => entry.2.buffer?).count buffer

/-- The buffer of this name, made on first mention. -/
def mention (table : Table) (name : String) : BufferId × Table :=
  match table.buffers.get? name with
  | some buffer => (buffer, table)
  | none =>
    let (buffer, store) := table.store.newBuffer
    (buffer, { table with store, buffers := table.buffers.put name buffer })

/-- What can be done with the table. -/
inductive Step where
  | newBuffer (name : String)
  | cloneBuffer (name copy : String)
  | addSource (name : String) (source : Source)
  | addSink (name : String) (sink : Sink)
  /-- Copies the source of that name, or else the sink. -/
  | clone (name copy : String)
  /-- Compares two sources, or else two sinks. -/
  | same (name other : String)
  | describe (name : String)
  /-- Opens the source of that name, or else the sink. -/
  | openEnd (name as : String)
  | read (name : String) (limit : Option Nat)
  | write (name : String) (data : Bytes)
  | shutdown (name : String)
  | drop (name : String)
  | fileContent (path : String)

inductive Answer where
  | done
  | source (name : String) (size : Option Nat)
  | sink (name : String)
  | openedReader
  | openedWriter
  | openFailed (e : OpenError)
  | verdict (yes : Bool)
  | bytes (content : Bytes)
  | noFile
  /-- The step names something that is not there. -/
  | unknownName
deriving Inhabited

def perform (step : Step) (table : Table) : Answer × Table :=
  match step with
  | .newBuffer name =>
    let (buffer, store) := table.store.newBuffer
    (.done, { table with store, buffers := table.buffers.put name buffer })
  | .cloneBuffer name copy =>
    match table.buffers.get? name with
    | some buffer => (.done, { table with buffers := table.buffers.put copy buffer })
    | none => (.unknownName, table)
  | .addSource name source =>
    (.source source.name (source.size? table.store),
      { table with sources := table.sources.put name source })
  | .addSink name sink => (.sink sink.name, { table with sinks := table.sinks.put name sink })
  | .clone name copy =>
    match table.sources.get? name, table.sinks.get? name with
    | some source, _ => (.done, { table with sources := table.sources.put copy source })
    | none, some sink => (.done, { table with sinks := table.sinks.put copy sink })
    | none, none => (.unknownName, table)
  | .same name other =>
    match table.sources.get? name, table.sources.get? other with
    | some a, some b => (.verdict (a.same table.store b), table)
    | _, _ =>
      match table.sinks.get? name, table.sinks.get? other with
      | some a, some b => (.verdict (a.same b), table)
      | _, _ => (.unknownName, table)
  | .describe name =>
    match table.sources.get? name with
    | some source => (.source source.name (source.size? table.store), table)
    | none => (.unknownName, table)
  | .openEnd name as =>
    match table.sources.get? name, table.sinks.get? name with
    | some source, _ =>
      match source.openReader table.store with
      | .ok reader => (.openedReader, { table with readers := table.readers.put as reader })
      | .error e => (.openFailed e, table)
    | none, some sink =>
      match sink.openWriter table.store with
      | .ok (writer, store) =>
        (.openedWriter, { table with store, writers := table.writers.put as writer })
      | .error e => (.openFailed e, table)
    | none, none => (.unknownName, table)
  | .read name limit =>
    match table.readers.get? name with
    | some reader =>
      let (bytes, reader) := reader.read table.store limit
      (.bytes bytes, { table with readers := table.readers.put name reader })
    | none => (.unknownName, table)
  | .write name data =>
    match table.writers.get? name with
    | some writer =>
      let (store, writer) := writer.write table.store data
      (.verdict true, { table with store, writers := table.writers.put name writer })
    | none => (.unknownName, table)
  | .shutdown name =>
    if table.writers.has name then (.verdict true, table) else (.unknownName, table)
  | .drop name =>
    (.verdict (table.buffers.has name || table.sources.has name || table.sinks.has name ||
        table.readers.has name || table.writers.has name),
      { table with
        buffers := table.buffers.drop name
        sources := table.sources.drop name
        sinks := table.sinks.drop name
        readers := table.readers.drop name
        writers := table.writers.drop name })
  | .fileContent path =>
    match table.store.disk.read? path with
    | some content => (.bytes content, table)
    | none => (.noFile, table)

end Table

end Courier.Local
