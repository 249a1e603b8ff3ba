/-!
# Structured values

The common form of data that comes from outside: a file, the environment, a structured record.
Reals are kept only as such, since nothing here takes one.
-/

namespace Courier

inductive Value where
  | null
  | bool (b : Bool)
  | int (n : Int)
  | real
  | text (s : String)
  | list (items : List Value)
  | dict (fields : List (String × Value))
deriving Inhabited

namespace Value

/-- The value of a field; of two fields of one name the later counts. -/
def field? (fields : List (String × Value)) (name : String) : Option Value :=
  (fields.reverse.find? fun entry => entry.1 == name).map Prod.snd

end Value

end Courier
