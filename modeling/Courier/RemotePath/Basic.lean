import Courier.Text.Pieces

/-!
# Remote directory paths

A path is a list of directory names below the root, or the unspecified path, which names no
directory at all. Names that a path text treats specially never occur as segments: the type of
segments leaves them out, so a path read from its own text is the same path.
-/

namespace Courier

/-- A name that stands for exactly one level: not empty, not a dot name, without a slash. -/
def IsPlainName (name : String) : Prop :=
  name ≠ "" ∧ name ≠ "." ∧ name ≠ ".." ∧ '/' ∉ name.toList

instance (name : String) : Decidable (IsPlainName name) := by
  unfold IsPlainName; infer_instance

/-- One level of a path. -/
structure Segment where
  name : String
  plain : IsPlainName name

instance : DecidableEq Segment := fun a b =>
  if h : a.name = b.name then
    .isTrue (by cases a; cases b; cases h; rfl)
  else
    .isFalse fun e => h (congrArg Segment.name e)

inductive RemotePath where
  | unspecified
  | absolute (segments : List Segment)
deriving DecidableEq

namespace RemotePath

instance : Inhabited RemotePath := ⟨unspecified⟩

def root : RemotePath := absolute []

/-- Goes from a directory where one part of a path text leads: nowhere for an empty part or a
dot, up for two dots (the root stays), down for any other name. -/
def follow (dirs : List Segment) (part : List Char) : List Segment :=
  let name := String.ofList part
  if h : IsPlainName name then dirs ++ [⟨name, h⟩]
  else if name = ".." then dirs.dropLast
  else dirs

/-- Follows the parts of a path text in order. -/
def resolve (dirs : List Segment) (text : List Char) : List Segment :=
  (Text.pieces '/' text).foldl follow dirs

/-- The directory an absolute path text names; unspecified if the text is not absolute. -/
def ofString (text : String) : RemotePath :=
  match text.toList with
  | '/' :: rest => absolute (resolve [] rest)
  | _ => unspecified

/-- The text of the directories below the root, each after a slash. -/
def segmentsText (segments : List Segment) : String :=
  segments.foldr (fun segment rest => "/" ++ segment.name ++ rest) ""

/-- The text of a path: empty for the unspecified path. -/
def text : RemotePath → String
  | unspecified => ""
  | absolute [] => "/"
  | absolute segments => segmentsText segments

instance : ToString RemotePath := ⟨text⟩

def isUnspecified : RemotePath → Bool
  | unspecified => true
  | absolute _ => false

/-- There is a directory above. -/
def hasParent : RemotePath → Bool
  | absolute (_ :: _) => true
  | _ => false

def parent? : RemotePath → Option RemotePath
  | absolute (segment :: rest) => some (absolute (segment :: rest).dropLast)
  | _ => none

/-- The name of the directory in the one above it. -/
def lastName? : RemotePath → Option String
  | unspecified => none
  | absolute segments => segments.getLast?.map Segment.name

/-- The directory that `sub` names as seen from `path`. An absolute `sub` stands for itself;
from the unspecified path a relative one leads nowhere. -/
def join (path : RemotePath) (sub : String) : RemotePath :=
  if sub.toList.head? = some '/' then ofString sub
  else if path.isUnspecified then unspecified
  else ofString (path.text ++ "/" ++ sub)

/-- `other` is this directory or lies below it. -/
def isAtOrAbove : RemotePath → RemotePath → Bool
  | absolute mine, absolute others => mine.isPrefixOf others
  | _, _ => false

/-- How an object in a directory is named: by its name alone, which is right where the directory
is the current one, or in full. -/
inductive Naming where
  | bare
  | full
deriving DecidableEq

/-- The name of `file` in this directory. The unspecified path adds nothing to it. -/
def nameOf (path : RemotePath) (naming : Naming) (file : String) : String :=
  if naming = .bare ∨ path.isUnspecified then file
  else if path.hasParent then path.text ++ "/" ++ file
  else "/" ++ file

example : text (ofString "/home/./user//../other/") = "/home/other" := by decide
example : text (ofString "relative/path") = "" := by decide
example : nameOf (ofString "/home") .full "a.txt" = "/home/a.txt" := by decide
example : join (ofString "/home") "user/../docs" = ofString "/home/docs" := by decide

end RemotePath

end Courier
