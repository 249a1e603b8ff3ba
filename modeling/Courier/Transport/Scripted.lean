import Courier.Journal
import Courier.Quoting

/-!
# A transport that follows a script

For each kind of request the script holds the replies of the next ones; without one a request is
under way, and closing succeeds. The listing is handed out once. A plain transport lacks the
operations a transport may leave out.
-/

namespace Courier

/-- How a scripted transport quotes names. -/
inductive QuoteStyle where
  | standard
  | unchanged
  | angle
deriving DecidableEq

def QuoteStyle.apply : QuoteStyle → String → String
  | standard, name => Quoting.quote name
  | unchanged, name => name
  | angle, name => "<" ++ name ++ ">"

structure Scripted where
  isPlain : Bool := false
  sends : List Reply := []
  connects : List Reply := []
  disconnects : List Reply := []
  wakeUps : List Reply := []
  quoting : QuoteStyle := .standard
  listing : Option (List Entry) := none
  lastResult : Reply := .ok

namespace Scripted

/-- The next reply of a script and what is left of it. -/
def next (otherwise : Reply) : List Reply → Reply × List Reply
  | [] => (otherwise, [])
  | reply :: rest => (reply, rest)

instance : Transport Scripted where
  send t _ :=
    let (reply, sends) := next .wouldBlock t.sends
    (reply, { t with sends })
  quote t := t.quoting.apply
  result t := t.lastResult
  connect t _ _ :=
    let (reply, connects) := next .wouldBlock t.connects
    (reply, { t with connects })
  disconnect t :=
    let (reply, disconnects) := next .ok t.disconnects
    (reply, { t with disconnects })
  wakeUp t _ :=
    let (reply, wakeUps) := next .wouldBlock t.wakeUps
    (reply, { t with wakeUps })
  takeListing t := if t.isPlain then (none, t) else (t.listing, { t with listing := none })

/-- Whether the transport or the cache could tell of a happening: calls of the owner are none of
their business, and a plain transport knows nothing of what it leaves out. -/
def tells (t : Scripted) : Happening → Bool
  | .sent _ _ _ | .connecting _ _ _ | .disconnecting _ | .wakeUp _ _ | .cached _ _
  | .awaited | .moved _ => true
  | .listingTaken _ | .announced _ | .aborted => !t.isPlain
  | .started _ | .completed _ | .canceled | .connectionLost => false

end Scripted

end Courier
