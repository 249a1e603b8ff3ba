import Courier.Text.Outline
import Courier.Value

/-!
# Servers

A server is named by protocol, host, port and user; two descriptions denote the same server
exactly if they agree in all four.
-/

namespace Courier

inductive Protocol where
  | ftp
  | sftp
  | http
deriving DecidableEq, Inhabited

namespace Protocol

def text : Protocol → String
  | ftp => "ftp"
  | sftp => "sftp"
  | http => "http"

instance : ToString Protocol := ⟨text⟩

/-- The name used in outlines. -/
def title : Protocol → String
  | ftp => "Ftp"
  | sftp => "Sftp"
  | http => "Http"

def all : List Protocol := [ftp, sftp, http]

/-- The protocol of exactly this text. -/
def ofString? (s : String) : Option Protocol := all.find? fun p => p.text == s

def defaultPort : Protocol → UInt16
  | ftp => 21
  | sftp => 22
  | http => 443

/-- A protocol is written as its text, or as a record with that one field and nothing in it. -/
def ofValue? : Value → Option Protocol
  | .text s => ofString? s
  | .dict [(name, .null)] => ofString? name
  | _ => none

end Protocol

structure Server where
  protocol : Protocol
  host : String
  port : UInt16
  user : String
deriving DecidableEq, Inhabited

namespace Server

/-- A server at the usual port of its protocol. -/
def atDefaultPort (protocol : Protocol) (host user : String) : Server :=
  { protocol, host, port := protocol.defaultPort, user }

/-- There is something to connect to. -/
def valid (server : Server) : Bool := server.host != "" && server.port != 0

/-- The form `protocol://user@host:port`, without the user part if there is no user. -/
def text (server : Server) : String :=
  let user := if server.user = "" then "" else server.user ++ "@"
  server.protocol.text ++ "://" ++ user ++ server.host ++ ":" ++ toString server.port.toNat

instance : ToString Server := ⟨text⟩

def outline (server : Server) : Text.Outline :=
  .record "Server"
    [("protocol", .leaf server.protocol.title), ("host", .text server.host),
     ("port", .nat server.port.toNat), ("user", .text server.user)] false

/-- A server under the handle by which a session refers to it. -/
def handleOutline (server : Server) : Text.Outline := .wrapped "ServerHandle" [server.outline]

def portOfValue? : Value → Option UInt16
  | .int n => if 0 ≤ n ∧ n < 65536 then some (UInt16.ofNat n.toNat) else none
  | _ => none

def textOfValue? : Value → Option String
  | .text s => some s
  | _ => none

def ofValues? (protocol host port user : Value) : Option Server := do
  let protocol ← Protocol.ofValue? protocol
  let host ← textOfValue? host
  let port ← portOfValue? port
  let user ← textOfValue? user
  return { protocol, host, port, user }

/-- Reads a server from a record, whose other fields do not matter, or from a list of exactly the
four parts in order. -/
def ofValue? : Value → Option Server
  | .dict fields => do
    ofValues? (← Value.field? fields "protocol") (← Value.field? fields "host")
      (← Value.field? fields "port") (← Value.field? fields "user")
  | .list [protocol, host, port, user] => ofValues? protocol host port user
  | _ => none

example : text { protocol := .sftp, host := "h", port := 22, user := "u" } = "sftp://u@h:22" := by
  decide

end Server

end Courier
