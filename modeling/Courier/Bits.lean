import Courier.Text.Hex
import Courier.Text.Pieces

/-!
# Sets of bits with named constants

A set of a fixed width is a bit vector. Some sets have names; a set is described by the names of
the constants it contains and, for the bits no such constant covers, by one hexadecimal numeral.
-/

namespace Courier.Bits

variable {w : Nat}

/-- Every bit of `b` is in `a`. -/
def contains (a b : BitVec w) : Bool := a &&& b == b

/-- The sets share a bit. -/
def intersects (a b : BitVec w) : Bool := a &&& b != 0

def difference (a b : BitVec w) : BitVec w := a &&& ~~~b

/-- A constant and its name. -/
abbrev Names (w : Nat) := List (String × BitVec w)

/-- The constants of the table that are not empty and lie within `a`, in the order of the table. -/
def within (names : Names w) (a : BitVec w) : Names w :=
  names.filter fun (_, bits) => bits != 0 && contains a bits

/-- All bits of some constants. -/
def cover (names : Names w) : BitVec w := names.foldr (fun entry bits => entry.2 ||| bits) 0

/-- The bits of `a` outside the constants it contains. -/
def remainder (names : Names w) (a : BitVec w) : BitVec w := difference a (cover (within names a))

/-- A numeral such as `0x1f`. -/
def numeral (a : BitVec w) : String :=
  "0x" ++ String.ofList (Text.hexNumeral (w / 4) a.toNat)

/-- The names of the contained constants, then the numeral of what they leave. -/
def parts (names : Names w) (a : BitVec w) : List String :=
  (within names a).map Prod.fst ++
    (if remainder names a = 0 then [] else [numeral (remainder names a)])

/-- The name of the empty set. -/
def emptyName (names : Names w) : String :=
  match names.find? fun (_, bits) => bits == 0 with
  | some (name, _) => name
  | none => "0"

/-- The form `Type(A | B | 0x10)`. -/
def describe (type : String) (names : Names w) (a : BitVec w) : String :=
  let inner :=
    match parts names a with
    | [] => emptyName names
    | texts => Text.join " | " texts
  type ++ "(" ++ inner ++ ")"

end Courier.Bits
