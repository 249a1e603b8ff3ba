import Courier.Text.Escaped
import Courier.Text.Pieces

/-!
# Outlines of structured values

An outline shows a value by its structure: a leaf, a record with named fields, a name wrapped
around parts, or a list. A record may be left open, which says that it has more fields than are
shown.
-/

namespace Courier.Text

inductive Outline where
  | leaf (text : String)
  | record (name : String) (fields : List (String × Outline)) (isOpen : Bool)
  | wrapped (name : String) (parts : List Outline)
  | list (items : List Outline)

namespace Outline

mutual

def render : Outline → String
  | leaf text => text
  | record name fields isOpen =>
    let shown := renderFields fields ++ if isOpen then [".."] else []
    name ++ " \x7b " ++ join ", " shown ++ " \x7d"
  | wrapped name parts => name ++ "(" ++ join ", " (renderAll parts) ++ ")"
  | list items => "[" ++ join ", " (renderAll items) ++ "]"

def renderAll : List Outline → List String
  | [] => []
  | item :: rest => render item :: renderAll rest

def renderFields : List (String × Outline) → List String
  | [] => []
  | (name, value) :: rest => (name ++ ": " ++ render value) :: renderFields rest

end

def text (s : String) : Outline := leaf (quoted s)

def bool (b : Bool) : Outline := leaf (if b then "true" else "false")

def nat (n : Nat) : Outline := leaf (toString n)

/-- A value that may be missing. -/
def option {α : Type} (shown : α → Outline) : Option α → Outline
  | none => leaf "None"
  | some a => wrapped "Some" [shown a]

example : render (record "P" [("x", nat 1), ("y", option text none)] true) =
    "P \x7b x: 1, y: None, .. \x7d" := by decide

end Outline

end Courier.Text
