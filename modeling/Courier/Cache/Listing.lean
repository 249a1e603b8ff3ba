import Courier.RemotePath.Basic

/-!
# Directory listings

What is known of one remote directory: its entries in the order of the server, and when they
were received. The clock counts nanoseconds.
-/

namespace Courier

/-- How far an entry can be trusted. -/
inductive Freshness where
  /-- As the server listed it. -/
  | known
  /-- Out of date; details must be fetched again. -/
  | unknown
  /-- A change may or may not have happened. -/
  | unsure
deriving DecidableEq, Inhabited

def Freshness.text : Freshness → String
  | known => "known"
  | unknown => "unknown"
  | unsure => "unsure"

structure Entry where
  name : String
  isDir : Bool
  /-- In bytes, if known. -/
  size : Option Nat
  freshness : Freshness
deriving DecidableEq

/-- A file as the server lists it. -/
def Entry.file (name : String) (size : Nat) : Entry :=
  { name, isDir := false, size := some size, freshness := .known }

/-- A directory as the server lists it. -/
def Entry.dir (name : String) : Entry :=
  { name, isDir := true, size := none, freshness := .known }

structure Listing where
  path : RemotePath
  entries : List Entry
  /-- The clock when the listing was received. -/
  fetched : Nat
deriving DecidableEq

namespace Listing

/-- Some entry must be fetched again. -/
def hasUnsure (listing : Listing) : Bool := listing.entries.any (·.freshness != .known)

/-- Nanoseconds since the listing was received. -/
def age (now : Nat) (listing : Listing) : Nat := now - listing.fetched

/-- The first entry of this name. -/
def find? (listing : Listing) (name : String) : Option Entry :=
  listing.entries.find? (·.name == name)

end Listing

/-- Sets kind and freshness of the first entry of this name, or appends an entry without size. -/
def Entry.update (name : String) (isDir : Bool) (freshness : Freshness) :
    List Entry → List Entry
  | [] => [{ name, isDir, size := none, freshness }]
  | entry :: rest =>
    if entry.name = name then { entry with isDir, freshness } :: rest
    else entry :: update name isDir freshness rest

/-- Leaves out every entry of this name. -/
def Entry.without (name : String) (entries : List Entry) : List Entry :=
  entries.filter (·.name != name)

/-- Leaves out the first entry of this name. -/
def Entry.withoutFirst (name : String) : List Entry → List Entry
  | [] => []
  | entry :: rest => if entry.name = name then rest else entry :: withoutFirst name rest

end Courier
