/-!
# Quoting of names in a command line

A name made of safe characters stands as it is; any other is put between double quotes, a double
quote inside written twice. `words` reads such a line back.
-/

namespace Courier.Quoting

/-- Characters that never need quotes. -/
def isSafe (c : Char) : Bool :=
  c.isAlphanum || "._-+~@%,:=".toList.contains c

/-- Every double quote is written twice. -/
def doubled : List Char → List Char
  | [] => []
  | c :: rest => if c = '"' then '"' :: '"' :: doubled rest else c :: doubled rest

/-- A name as it is written in a command line. -/
def quote (name : String) : String :=
  let cs := name.toList
  if !cs.isEmpty && cs.all isSafe then name
  else String.ofList ('"' :: doubled cs ++ ['"'])

/-- Where the reader of a command line is: between words, in a plain word, in a quoted word, or
right after a double quote in one. The word so far is kept in reverse. -/
inductive Place where
  | between
  | plain (word : List Char)
  | inside (word : List Char)
  | afterQuote (word : List Char)

/-- The words of a line, from a place in it. A blank ends a plain word; a quoted word ends at a
double quote that is not doubled, or with the line. -/
def wordsFrom : Place → List Char → List (List Char)
  | .between, [] => []
  | .plain word, [] => [word.reverse]
  | .inside word, [] => [word.reverse]
  | .afterQuote word, [] => [word.reverse]
  | .between, c :: rest =>
    if c = ' ' then wordsFrom .between rest
    else if c = '"' then wordsFrom (.inside []) rest
    else wordsFrom (.plain [c]) rest
  | .plain word, c :: rest =>
    if c = ' ' then word.reverse :: wordsFrom .between rest
    else wordsFrom (.plain (c :: word)) rest
  | .inside word, c :: rest =>
    if c = '"' then wordsFrom (.afterQuote word) rest
    else wordsFrom (.inside (c :: word)) rest
  | .afterQuote word, c :: rest =>
    if c = '"' then wordsFrom (.inside ('"' :: word)) rest
    else if c = ' ' then word.reverse :: wordsFrom .between rest
    else word.reverse :: wordsFrom (.plain [c]) rest

/-- The words of a command line. -/
def words (line : String) : List String :=
  (wordsFrom .between line.toList).map String.ofList

example : quote "my-file_2.tar.gz" = "my-file_2.tar.gz" := by decide
example : quote "say \"hi\"" = "\"say \"\"hi\"\"\"" := by decide
example : words "mv \"a \"\"b\"\"\" c" = ["mv", "a \"b\"", "c"] := by decide

end Courier.Quoting
