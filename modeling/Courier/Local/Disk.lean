import Courier.Text.Pieces

/-!
# The local file system

Local files live in a tree of directories. A file name is followed part by part, from the root if
it starts with a slash and from the working directory otherwise: an empty part or a dot stays
where it is, two dots go up, and nothing lies below a file. A link counts as what it leads to.
-/

namespace Courier.Local

abbrev Bytes := List UInt8

/-- Why a file cannot be opened. -/
inductive OpenFault where
  | notFound
  | notDirectory
  | isDirectory
  | nameTooLong
  | nullInName
  /-- Whatever else the operating system has against it, in its own words. -/
  | refused (text : String)
deriving DecidableEq

/-- The wording of the operating system. -/
def OpenFault.text : OpenFault → String
  | notFound => "No such file or directory (os error 2)"
  | notDirectory => "Not a directory (os error 20)"
  | isDirectory => "Is a directory (os error 21)"
  | nameTooLong => "File name too long (os error 36)"
  | nullInName => "file name contained an unexpected NUL byte"
  | refused text => text

/-- The names on the way from the root. -/
abbrev Place := List String

/-- What a directory holds under a name. -/
inductive Node where
  | file (content : Bytes)
  | directory (entries : List (String × Node))

namespace Node

def entry? : Node → String → Option Node
  | file _, _ => none
  | directory entries, name => (entries.find? fun entry => entry.1 == name).map Prod.snd

def find? (node : Node) (place : Place) : Option Node := place.foldlM entry? node

/-- Puts a file at a place below `node`, with the directories on the way. -/
def put (content : Bytes) : Place → Node → Node
  | [], _ => .file content
  | _ :: _, .file held => .file held
  | name :: place, .directory entries =>
    if entries.any fun entry => entry.1 == name then
      .directory <| entries.map fun entry =>
        if entry.1 == name then (name, put content place entry.2) else entry
    else .directory (entries ++ [(name, put content place (.directory []))])

end Node

inductive Access where
  /-- Asking for the size. -/
  | look
  | read
  | write
deriving DecidableEq

/-- An access the operating system refuses although the way leads there, such as one without
permission. -/
structure Ban where
  place : Place
  access : Access
  text : String

structure Disk where
  root : Node := .directory [("tmp", .directory [("work", .directory [])])]
  /-- The working directory. -/
  home : Place := ["tmp", "work"]
  bans : List Ban := []

/-- What a file name leads to. -/
inductive Target where
  | file (place : Place)
  /-- No file yet, but one can be made here. -/
  | vacant (place : Place)
  | directory (place : Place)
  /-- The name asks for a directory where there is none. -/
  | noDirectory (fault : OpenFault)
  | nowhere (fault : OpenFault)

/-- The way ends before `rest`, the parts of the name that are left. -/
def Target.before (rest : List String) (fault : OpenFault) : Target :=
  if rest ≠ [] ∧ rest.all fun part => part = "" then .noDirectory fault else .nowhere fault

namespace Disk

def content? (disk : Disk) (place : Place) : Option Bytes :=
  match disk.root.find? place with
  | some (.file content) => some content
  | _ => none

def write (disk : Disk) (place : Place) (content : Bytes) : Disk :=
  { disk with root := disk.root.put content place }

/-- Puts a file into the working directory. -/
def put (disk : Disk) (name : String) (content : Bytes) : Disk :=
  disk.write (disk.home ++ [name]) content

/-- Follows the parts of a file name from a directory. -/
def follow (disk : Disk) (place : Place) : List String → Target
  | [] => .directory place
  | part :: rest =>
    let next := place ++ [part]
    if part = "" ∨ part = "." then disk.follow place rest
    else if part = ".." then disk.follow place.dropLast rest
    else if 255 < part.utf8ByteSize then .before rest .nameTooLong
    else
      match disk.root.find? next with
      | some (.directory _) => disk.follow next rest
      | some (.file _) => if rest = [] then .file next else .before rest .notDirectory
      | none => if rest = [] then .vacant next else .before rest .notFound

/-- Follows a file name. -/
def locate (disk : Disk) (name : String) : Target :=
  if '\x00' ∈ name.toList then .nowhere .nullInName
  else if name = "" then .nowhere .notFound
  else if 4095 < name.utf8ByteSize then .nowhere .nameTooLong
  else
    disk.follow (if name.toList.head? = some '/' then [] else disk.home)
      ((Text.pieces '/' name.toList).map String.ofList)

/-- What the operating system says to an access it refuses. -/
def ban? (disk : Disk) (place : Place) (access : Access) : Option OpenFault :=
  (disk.bans.find? fun ban => ban.place == place && ban.access == access).map fun ban =>
    .refused ban.text

/-- What is opened for reading under a name: a file, or a directory (`none`), in which there is
nothing to read. -/
def readable (disk : Disk) (name : String) : Except OpenFault (Option Place) :=
  let unlessBanned (place : Place) (found : Option Place) : Except OpenFault (Option Place) :=
    match disk.ban? place .read with
    | some fault => .error fault
    | none => .ok found
  match disk.locate name with
  | .file place => unlessBanned place (some place)
  | .directory place => unlessBanned place none
  | .vacant _ => .error .notFound
  | .noDirectory fault | .nowhere fault => .error fault

/-- The file that is opened for writing under a name, made if there is none. -/
def writable (disk : Disk) (name : String) : Except OpenFault Place :=
  match disk.locate name with
  | .file place | .vacant place =>
    match disk.ban? place .write with
    | some fault => .error fault
    | none => .ok place
  | .directory _ | .noDirectory _ => .error .isDirectory
  | .nowhere fault => .error fault

/-- The size the file system reports, if the name leads to anything. -/
def size? (disk : Disk) (name : String) : Option Nat :=
  let unlessBanned (place : Place) (size : Option Nat) : Option Nat :=
    if (disk.ban? place .look).isSome then none else size
  match disk.locate name with
  | .file place => unlessBanned place ((disk.content? place).map List.length)
  | .directory place => unlessBanned place (some 4096)
  | _ => none

/-- The whole content of a file, if it can be read. -/
def read? (disk : Disk) (name : String) : Option Bytes :=
  match disk.readable name with
  | .ok (some place) => disk.content? place
  | _ => none

end Disk

/-- Writes over and beyond the end of a content; a gap before `offset` is filled with zeros. -/
def overwrite (content : Bytes) (offset : Nat) (data : Bytes) : Bytes :=
  if data = [] then content
  else
    content.take offset ++ List.replicate (offset - content.length) 0 ++ data ++
      content.drop (offset + data.length)

end Courier.Local
