import Courier.Cache.Listing
import Courier.Credentials
import Courier.Local.Disk
import Courier.Reply
import Courier.Server

/-!
# Transports

A transport owns the connection to a server. A request that starts input or output answers
`wouldBlock` once that is under way, or at once with an outcome. When it is done the transport
holds its result, which stays readable until the next one.
-/

namespace Courier

/-- A transfer about to start, for the transport's benefit. -/
structure Announcement where
  isDownload : Bool
  /-- The remote file as the line will name it, before quoting. -/
  remote : String
  /-- The name of the local end. -/
  localName : String
  /-- The size of what is uploaded, if known. -/
  size : Option Nat
  extra : String
  resume : Local.Bytes
deriving DecidableEq

/-- The operations of a transport with state `τ`. The last three may be left out. -/
class Transport (τ : Type) where
  send : τ → String → Reply × τ
  /-- Makes a name safe to stand in a line. -/
  quote : τ → String → String
  /-- The outcome of the request that completed last. -/
  result : τ → Reply
  connect : τ → Server → Credentials → Reply × τ
  disconnect : τ → Reply × τ
  /-- Asks for a completion after so many seconds. -/
  wakeUp : τ → Nat → Reply × τ
  /-- Hands out what the last listing received, if anything. -/
  takeListing : τ → Option (List Entry) × τ := fun t => (none, t)
  announce : τ → Announcement → τ := fun t _ => t
  /-- Gives up whatever is under way. -/
  abort : τ → τ := fun t => t

end Courier
