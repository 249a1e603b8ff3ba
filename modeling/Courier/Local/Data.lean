import Courier.Local.Disk
import Courier.Text.Outline

/-!
# Local ends of a transfer

A transfer carries a source or a sink, not an open file. It is opened when the transfer starts;
what is open then is a reader or a writer. A shared buffer takes what is written through any
writer on it, and opening a sink on it clears it under all of them.
-/

namespace Courier.Local

/-- The number of a shared buffer in the store. -/
abbrev BufferId := Nat

/-- What the local ends refer to: the shared buffers, by number, and the disk. -/
structure Store where
  buffers : List Bytes := []
  disk : Disk := {}

namespace Store

/-- The content of a buffer. -/
def content (store : Store) (buffer : BufferId) : Bytes := (store.buffers[buffer]?).getD []

def setContent (store : Store) (buffer : BufferId) (content : Bytes) : Store :=
  { store with buffers := store.buffers.set buffer content }

/-- A new empty buffer and its number. -/
def newBuffer (store : Store) : BufferId × Store :=
  (store.buffers.length, { store with buffers := store.buffers ++ [[]] })

end Store

/-- A local end could not be opened: what was tried, and why it failed. -/
structure OpenError where
  path : String
  forWriting : Bool
  fault : OpenFault

def OpenError.text (e : OpenError) : String :=
  "opening " ++ e.path ++ " for " ++ (if e.forWriting then "writing" else "reading") ++ ": " ++
    e.fault.text

/-- An open source. -/
inductive Reader where
  | memory (rest : Bytes)
  | file (place : Place) (offset : Nat)
  | directory
deriving DecidableEq

/-- The next bytes, at most `limit` of them if there is a limit. -/
def Reader.read (store : Store) (limit : Option Nat) (reader : Reader) : Bytes × Reader :=
  let upTo (bytes : Bytes) : Bytes := match limit with
    | some n => bytes.take n
    | none => bytes
  match reader with
  | memory rest =>
    let taken := upTo rest
    (taken, memory (rest.drop taken.length))
  | file place offset =>
    let taken := upTo (((store.disk.content? place).getD []).drop offset)
    (taken, file place (offset + taken.length))
  | directory => ([], directory)

/-- An open sink. -/
inductive Writer where
  | memory (buffer : BufferId)
  | file (place : Place) (offset : Nat)
deriving DecidableEq

/-- Appends to the buffer, or writes on at the writer's own place in the file. -/
def Writer.write (store : Store) (data : Bytes) : Writer → Store × Writer
  | memory buffer => (store.setContent buffer (store.content buffer ++ data), memory buffer)
  | file place offset =>
    let content := overwrite ((store.disk.content? place).getD []) offset data
    ({ store with disk := store.disk.write place content }, file place (offset + data.length))

/-- The shared buffer a writer holds. -/
def Writer.buffer? : Writer → Option BufferId
  | memory buffer => some buffer
  | file _ _ => none

/-- Where upload data comes from. -/
inductive Source where
  | memory (name : String) (data : Bytes)
  | file (path : String)
deriving DecidableEq

namespace Source

/-- The name shown to the user, also part of what makes two sources the same. -/
def name : Source → String
  | memory name _ => name
  | file path => path

/-- The size, if it is known now. -/
def size? (store : Store) : Source → Option Nat
  | memory _ data => some data.length
  | file path => store.disk.size? path

/-- Sources are the same if they describe the same data: equal name and equal size. -/
def same (store : Store) (a b : Source) : Bool :=
  a.name == b.name && a.size? store == b.size? store

/-- Opening for reading leaves the store as it is. -/
def openReader (store : Store) : Source → Except OpenError Reader
  | memory _ data => .ok (.memory data)
  | file path =>
    match store.disk.readable path with
    | .ok (some place) => .ok (.file place 0)
    | .ok none => .ok .directory
    | .error fault => .error ⟨path, false, fault⟩

def outline : Source → Text.Outline
  | memory name data =>
    .record "MemorySource" [("name", .text name), ("data", .leaf (Text.quotedBytes data))] false
  | file path => .record "FileSource" [("path", .leaf (Text.quotedFileName path))] false

end Source

/-- Where download data goes. -/
inductive Sink where
  | memory (name : String) (buffer : BufferId)
  | file (path : String)
deriving DecidableEq

namespace Sink

def name : Sink → String
  | memory name _ => name
  | file path => path

/-- Sinks are the same if they have the same name. -/
def same (a b : Sink) : Bool := a.name == b.name

/-- The shared buffer a sink holds. -/
def buffer? : Sink → Option BufferId
  | memory _ buffer => some buffer
  | file _ => none

/-- Opening for writing empties what is there. -/
def openWriter (store : Store) : Sink → Except OpenError (Writer × Store)
  | memory _ buffer => .ok (.memory buffer, store.setContent buffer [])
  | file path =>
    match store.disk.writable path with
    | .ok place => .ok (.file place 0, { store with disk := store.disk.write place [] })
    | .error fault => .error ⟨path, true, fault⟩

def outline (store : Store) : Sink → Text.Outline
  | memory name buffer =>
    let bytes := .list ((store.content buffer).map fun byte => .nat byte.toNat)
    let lock := .record "Mutex" [("data", bytes), ("poisoned", .bool false)] true
    .record "MemorySink"
      [("name", .text name), ("buffer", .wrapped "SharedBuffer" [lock])] false
  | file path => .record "FileSink" [("path", .leaf (Text.quotedFileName path))] false

end Sink

/-- The open local end of a running transfer. -/
inductive Channel where
  | upload (reader : Reader)
  /-- `fsync`: the destination is to be brought to stable storage at the end. -/
  | download (writer : Writer) (fsync : Bool)
deriving DecidableEq

/-- The shared buffer a channel holds. -/
def Channel.buffer? : Channel → Option BufferId
  | upload _ => none
  | download writer _ => writer.buffer?

/-- What went through a channel. -/
inductive Moved where
  | uploaded (bytes : Bytes)
  | downloaded (length : Nat) (fsync : Bool)
deriving DecidableEq

/-- Moves all data through a channel: an upload is read to its end, a download gets `payload`. -/
def Channel.pump (store : Store) (payload : Bytes) : Channel → Moved × Channel × Store
  | upload reader =>
    let (bytes, reader) := reader.read store none
    (.uploaded bytes, upload reader, store)
  | download writer fsync =>
    let (store, writer) := writer.write store payload
    (.downloaded payload.length fsync, download writer fsync, store)

end Courier.Local
