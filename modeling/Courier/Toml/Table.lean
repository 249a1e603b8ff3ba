import Courier.Value

/-!
# Tables of a settings file

A table is opened by its own header, implied by a longer header, or implied by dots in a key, and
which of these it was decides what may be added to it later: nothing is defined twice, and a dotted
key never reaches into a table that has a header.
-/

namespace Courier.Toml

/-- How a table came to be. -/
inductive Origin where
  /-- By a header of its own; the file itself and the elements of a row of tables count here. -/
  | header
  /-- On the way to another header. -/
  | passed
  /-- By dots in a key. -/
  | dots
deriving DecidableEq

inductive Node where
  | leaf (value : Value)
  | table (origin : Origin) (entries : List (String × Node))
  /-- A row of tables: the last one, and those before it in reverse. -/
  | row (last : List (String × Node)) (earlier : List (List (String × Node)))

abbrev Entries := List (String × Node)

namespace Entries

def node? (entries : Entries) (key : String) : Option Node :=
  (entries.find? fun entry => entry.1 == key).map Prod.snd

/-- Puts a node in place of the one of this key. -/
def replace (entries : Entries) (key : String) (node : Node) : Entries :=
  entries.map fun entry => if entry.1 == key then (key, node) else entry

/-- Changes the table at the end of a path. Tables missing on the way are made, with origin `made`;
the way through a row of tables goes through its last one. -/
def alter (made : Origin) (change : Origin → Entries → Option Entries) :
    (path : List String) → (origin : Origin) → Entries → Option Entries
  | [], origin, entries => change origin entries
  | key :: path, _, entries =>
    match entries.node? key with
    | none => do
      let inner ← alter made change path made []
      return entries ++ [(key, .table made inner)]
    | some (.leaf _) => none
    | some (.table origin inner) =>
      if made = .dots ∧ origin = .header then none
      else do
        let inner ← alter made change path origin inner
        return entries.replace key (.table origin inner)
    | some (.row last earlier) => do
      let last ← alter made change path .header last
      return entries.replace key (.row last earlier)

/-- Opens the table of a header. -/
def openTable (key : String) (entries : Entries) : Option Entries :=
  match entries.node? key with
  | none => some (entries ++ [(key, .table .header [])])
  | some (.table .passed inner) => some (entries.replace key (.table .header inner))
  | some _ => none

/-- Opens a new table at the end of a row. -/
def openElement (key : String) (entries : Entries) : Option Entries :=
  match entries.node? key with
  | none => some (entries ++ [(key, .row [] [])])
  | some (.row last earlier) => some (entries.replace key (.row [] (last :: earlier)))
  | some _ => none

/-- Sets a key of a table, reached through the dots before the key if there are any. -/
def define (dots : List String) (key : String) (value : Value) : Entries → Option Entries :=
  alter .dots (fun origin entries =>
    if origin = .dots ↔ dots = [] then none
    else
      match entries.node? key with
      | none => some (entries ++ [(key, .leaf value)])
      | some _ => none) dots .header

end Entries

mutual

def Node.toValue : Node → Value
  | .leaf value => value
  | .table _ entries => .dict (fieldsOf entries)
  | .row last earlier => .list ((Value.dict (fieldsOf last) :: rowOf earlier).reverse)

def fieldsOf : List (String × Node) → List (String × Value)
  | [] => []
  | (key, node) :: rest => (key, node.toValue) :: fieldsOf rest

def rowOf : List (List (String × Node)) → List Value
  | [] => []
  | entries :: rest => .dict (fieldsOf entries) :: rowOf rest

end

end Courier.Toml
