/-!
# Scanning a text

A scan takes a value off the front of a text or refuses it. Scans run one after another in `do`
blocks, and `a <|> b` tries `b` at the same place where `a` refuses.
-/

namespace Courier.Text

abbrev Scan (α : Type) := StateT (List Char) Option α

namespace Scan

variable {α β : Type}

/-- The next character, if it passes. -/
def one (ok : Char → Bool) : Scan Char := fun cs =>
  match cs with
  | [] => none
  | c :: rest => if ok c then some (c, rest) else none

/-- The longest stretch of characters that pass; it may be empty. -/
def span (ok : Char → Bool) : Scan (List Char) := fun cs =>
  some (cs.takeWhile ok, cs.dropWhile ok)

/-- Exactly this text. -/
def exactly (text : String) : Scan Unit := fun cs =>
  if text.toList.isPrefixOf cs then some ((), cs.drop text.toList.length) else none

/-- So many items. -/
def times : Nat → Scan α → Scan (List α)
  | 0, _ => pure []
  | count + 1, item => do
    let first ← item
    return first :: (← times count item)

/-- As many items as there are; one that takes nothing off the text ends the row. -/
def many (item : Scan α) (cs : List Char) : Option (List α × List Char) :=
  match item cs with
  | none => some ([], cs)
  | some (first, rest) =>
    if rest.length < cs.length then
      (many item rest).map fun (others, rest) => (first :: others, rest)
    else some ([first], rest)
termination_by cs.length

/-- One or more items with something between neighbours. -/
def separated (item : Scan α) (between : Scan β) : Scan (List α) := do
  let first ← item
  return first :: (← many (between *> item))

/-- A scan of a whole text: nothing may be left. -/
def whole? (scan : Scan α) (text : String) : Option α :=
  match scan text.toList with
  | some (a, []) => some a
  | _ => none

end Scan

end Courier.Text
