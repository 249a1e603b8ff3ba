import Courier.Cache.DirectoryCache
import Courier.Command.Basic
import Courier.Transport.Basic
import Courier.WireLine

/-!
# The journal

What happened at the boundary of the engine: the calls of its owner, its requests to the
transport with their answers, and its calls on the directory cache. Beside it stand the notes,
which are for people. Both are kept newest first.
-/

namespace Courier

inductive LogLevel where
  | trace
  | debug
  | info
  | warn
  | error
deriving DecidableEq, Inhabited

def LogLevel.text : LogLevel → String
  | trace => "TRACE"
  | debug => "DEBUG"
  | info => "INFO"
  | warn => "WARN"
  | error => "ERROR"

inductive Note where
  | message (level : LogLevel) (text : String)
  /-- The start of the stretch of notes about one command. -/
  | span (name argument : String)
deriving DecidableEq

def Note.text : Note → String
  | message level text => level.text ++ " " ++ text
  | span name argument => "TRACE span CMD name=" ++ name ++ " arg=" ++ argument

inductive Happening where
  /-- A command was accepted. -/
  | started (command : Command)
  /-- The owner reported that the outstanding request is done. -/
  | completed (result : Reply)
  | canceled
  | connectionLost
  | sent (line : WireLine) (text : String) (answer : Reply)
  | connecting (server : Server) (credentials : Credentials) (answer : Reply)
  | disconnecting (answer : Reply)
  | wakeUp (seconds : Nat) (answer : Reply)
  | listingTaken (entries : Option (List Entry))
  | announced (announcement : Announcement)
  | aborted
  | cached (call : DirectoryCache.Call) (answer : DirectoryCache.Answer)
  /-- The transport was waited for. -/
  | awaited
  /-- Data went through the channel of a transfer. -/
  | moved (data : Local.Moved)

structure Journal where
  happenings : List Happening := []
  notes : List Note := []

namespace Journal

def record (journal : Journal) (happening : Happening) : Journal :=
  { journal with happenings := happening :: journal.happenings }

def note (journal : Journal) (note : Note) : Journal :=
  { journal with notes := note :: journal.notes }

end Journal

end Courier
