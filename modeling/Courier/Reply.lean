import Courier.Bits

/-!
# Replies

A reply classifies the outcome of a step. Every failure contains the error bit, so a failure is
recognised by one test and told apart by further bits of the same value. Two replies are no
outcomes but dispositions, which pass only between an operation and the engine: `again` asks for
another step at once, `wouldBlock` for a wait.
-/

namespace Courier

structure Reply where
  bits : BitVec 32
deriving DecidableEq, Inhabited

namespace Reply

def ok : Reply := ⟨0x0⟩
/-- A request is under way; the operation goes on when it completes. -/
def wouldBlock : Reply := ⟨0x1⟩
def error : Reply := ⟨0x2⟩
/-- A failure that is pointless to retry. -/
def critical : Reply := ⟨0x6⟩
def canceled : Reply := ⟨0xa⟩
def syntaxError : Reply := ⟨0x12⟩
def notConnected : Reply := ⟨0x22⟩
/-- The connection was closed; no failure by itself. -/
def disconnected : Reply := ⟨0x40⟩
def internalError : Reply := ⟨0x82⟩
def busy : Reply := ⟨0x102⟩
def alreadyConnected : Reply := ⟨0x202⟩
/-- The credentials were rejected; reported together with `critical`. -/
def passwordFailed : Reply := ⟨0x400⟩
def timeout : Reply := ⟨0x802⟩
def notSupported : Reply := ⟨0x1002⟩
/-- A local file could not be written. -/
def writeFailed : Reply := ⟨0x2002⟩
def linkNotDir : Reply := ⟨0x4002⟩
/-- Take another step without waiting. -/
def again : Reply := ⟨0x8000⟩
def notFound : Reply := ⟨0x10002⟩

/-- The named replies, in the order of their description. -/
def names : Bits.Names 32 :=
  [("OK", ok.bits), ("WOULDBLOCK", wouldBlock.bits), ("ERROR", error.bits),
   ("CRITICALERROR", critical.bits), ("CANCELED", canceled.bits),
   ("SYNTAXERROR", syntaxError.bits), ("NOTCONNECTED", notConnected.bits),
   ("DISCONNECTED", disconnected.bits), ("INTERNALERROR", internalError.bits),
   ("BUSY", busy.bits), ("ALREADYCONNECTED", alreadyConnected.bits),
   ("PASSWORDFAILED", passwordFailed.bits), ("TIMEOUT", timeout.bits),
   ("NOTSUPPORTED", notSupported.bits), ("WRITEFAILED", writeFailed.bits),
   ("LINKNOTDIR", linkNotDir.bits), ("CONTINUE", again.bits), ("NOTFOUND", notFound.bits)]

/-- The name of each single bit, lowest first. -/
def bitNames : Bits.Names 32 :=
  [("WOULDBLOCK", 0x1), ("ERROR", 0x2), ("CRITICAL", 0x4), ("CANCELED", 0x8), ("SYNTAX", 0x10),
   ("NOTCONNECTED", 0x20), ("DISCONNECTED", 0x40), ("INTERNAL", 0x80), ("BUSY", 0x100),
   ("ALREADYCONNECTED", 0x200), ("PASSWORDFAILED", 0x400), ("TIMEOUT", 0x800),
   ("NOTSUPPORTED", 0x1000), ("WRITEFAILED", 0x2000), ("LINKNOTDIR", 0x4000),
   ("CONTINUE", 0x8000), ("NOTFOUND", 0x10000)]

def contains (a b : Reply) : Bool := Bits.contains a.bits b.bits

/-- Both replies at once. -/
def union (a b : Reply) : Reply := ⟨a.bits ||| b.bits⟩

instance : OrOp Reply := ⟨union⟩

/-- The error bit is set. -/
def isError (r : Reply) : Bool := Bits.intersects r.bits error.bits

def isCritical (r : Reply) : Bool := r.contains critical

/-- A request for another step or for a wait, rather than an outcome. -/
def isDisposition (r : Reply) : Bool := r == again || r == wouldBlock

/-- Failures on the left, everything else on the right. -/
def toExcept (r : Reply) : Except Reply Reply := if r.isError then .error r else .ok r

/-- The names of the bits with bars between them; `OK` when there is none. -/
def text (r : Reply) : String :=
  if r.bits = 0 then "OK" else Text.join "|" (Bits.parts bitNames r.bits)

instance : ToString Reply := ⟨text⟩

def describe (r : Reply) : String := Bits.describe "Reply" names r.bits

example : text critical = "ERROR|CRITICAL" := by decide
example : text ⟨0x100000⟩ = "0x100000" := by decide
example : describe ⟨0x406⟩ = "Reply(ERROR | CRITICALERROR | PASSWORDFAILED)" := by decide

end Reply

end Courier
