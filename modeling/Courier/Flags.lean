import Courier.Bits

/-!
# Command flags

Both flag types are divided into ranges that do not meet: bits the engine acts upon, bits owned
by the calling layer, and bits owned by a protocol.
-/

namespace Courier

structure ListFlags where
  bits : BitVec 16
deriving DecidableEq, Inhabited

namespace ListFlags

def none : ListFlags := ⟨0⟩
/-- Fetch a listing even if a cached one would do. -/
def refresh : ListFlags := ⟨0x1⟩
/-- Let a cached listing do whatever its age. -/
def avoid : ListFlags := ⟨0x2⟩
/-- If the directory cannot be entered, list the one we are in. -/
def fallbackCurrent : ListFlags := ⟨0x4⟩
/-- Find out whether a link leads to a directory. -/
def link : ListFlags := ⟨0x8⟩
/-- Discard the cached listing first. -/
def clearCache : ListFlags := ⟨0x10⟩
def interfaceReserved : ListFlags := ⟨0x0f00⟩
def protocolReserved : ListFlags := ⟨0xf000⟩

def names : Bits.Names 16 :=
  [("NONE", none.bits), ("REFRESH", refresh.bits), ("AVOID", avoid.bits),
   ("FALLBACK_CURRENT", fallbackCurrent.bits), ("LINK", link.bits),
   ("CLEARCACHE", clearCache.bits), ("INTERFACE_RESERVED_MASK", interfaceReserved.bits),
   ("PROTOCOL_RESERVED_MASK", protocolReserved.bits)]

/-- The bits the engine acts upon. -/
def engineMask : ListFlags :=
  ⟨refresh.bits ||| avoid.bits ||| fallbackCurrent.bits ||| link.bits ||| clearCache.bits⟩

def contains (a b : ListFlags) : Bool := Bits.contains a.bits b.bits

def intersects (a b : ListFlags) : Bool := Bits.intersects a.bits b.bits

instance : OrOp ListFlags := ⟨fun a b => ⟨a.bits ||| b.bits⟩⟩

def describe (flags : ListFlags) : String := Bits.describe "ListFlags" names flags.bits

example : engineMask.bits &&& interfaceReserved.bits = 0 ∧
    engineMask.bits &&& protocolReserved.bits = 0 ∧
    interfaceReserved.bits &&& protocolReserved.bits = 0 := by decide

end ListFlags

structure TransferFlags where
  bits : BitVec 16
deriving DecidableEq, Inhabited

namespace TransferFlags

/-- An upload without more ado. -/
def none : TransferFlags := ⟨0⟩
def interfaceReserved : TransferFlags := ⟨0x000f⟩
/-- From the server to here. -/
def download : TransferFlags := ⟨0x0010⟩
/-- Bring the local file to stable storage when a download completes. -/
def fsync : TransferFlags := ⟨0x0020⟩
def protocolReserved : TransferFlags := ⟨0xff00⟩
/-- The highest protocol bit. -/
def protocolReservedMax : TransferFlags := ⟨0x8000⟩

/-- Transfer with translated line ends, an affair of one protocol. -/
def ascii : TransferFlags := protocolReservedMax

def names : Bits.Names 16 :=
  [("NONE", none.bits), ("INTERFACE_RESERVED_MASK", interfaceReserved.bits),
   ("DOWNLOAD", download.bits), ("FSYNC", fsync.bits),
   ("PROTOCOL_RESERVED_MASK", protocolReserved.bits),
   ("PROTOCOL_RESERVED_MAX", protocolReservedMax.bits)]

/-- The bits the engine acts upon. -/
def engineMask : TransferFlags := ⟨download.bits ||| fsync.bits⟩

def contains (a b : TransferFlags) : Bool := Bits.contains a.bits b.bits

def isDownload (flags : TransferFlags) : Bool := flags.contains download

/-- The bits owned by the protocol. -/
def protocolBits (flags : TransferFlags) : TransferFlags :=
  ⟨flags.bits &&& protocolReserved.bits⟩

def describe (flags : TransferFlags) : String :=
  Bits.describe "TransferFlags" names flags.bits

example : engineMask.bits &&& interfaceReserved.bits = 0 ∧
    engineMask.bits &&& protocolReserved.bits = 0 ∧
    interfaceReserved.bits &&& protocolReserved.bits = 0 ∧
    protocolReserved.contains ascii := by decide

end TransferFlags

end Courier
