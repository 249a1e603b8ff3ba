import Courier.RemotePath.Basic
import Courier.Text.Pieces

/-!
# Command lines

The lines sent to the server are those of an interactive file client. A line is kept by what it
means; its text quotes the names of objects. `words` are the words the line is meant to consist of.
-/

namespace Courier

/-- An object in a directory, and how a line names it. -/
structure ObjectName where
  directory : RemotePath
  naming : RemotePath.Naming
  file : String
deriving DecidableEq

def ObjectName.text (object : ObjectName) : String :=
  object.directory.nameOf object.naming object.file

inductive WireLine where
  | changeDir (path : RemotePath)
  | list
  | get (object : ObjectName)
  | put (object : ObjectName)
  | remove (object : ObjectName)
  | removeDir (object : ObjectName)
  | makeDir (path : RemotePath)
  | move (source target : ObjectName)
  | chmod (permission : String) (object : ObjectName)
  /-- A line the caller wrote. -/
  | raw (line : String)
deriving DecidableEq

namespace WireLine

/-- The text of a line, with `quote` applied to names. A permission and a line of the caller are
sent as they are. -/
def text (quote : String → String) : WireLine → String
  | changeDir path => "cd " ++ quote path.text
  | list => "ls"
  | get object => "get " ++ quote object.text
  | put object => "put " ++ quote object.text
  | remove object => "rm " ++ quote object.text
  | removeDir object => "rmdir " ++ quote object.text
  | makeDir path => "mkdir " ++ quote path.text
  | move source target => "mv " ++ quote source.text ++ " " ++ quote target.text
  | chmod permission object => "chmod " ++ permission ++ " " ++ quote object.text
  | raw line => line

/-- The verb and the arguments a line is meant to have; a line of the caller has no known ones. -/
def words : WireLine → List String
  | changeDir path => ["cd", path.text]
  | list => ["ls"]
  | get object => ["get", object.text]
  | put object => ["put", object.text]
  | remove object => ["rm", object.text]
  | removeDir object => ["rmdir", object.text]
  | makeDir path => ["mkdir", path.text]
  | move source target => ["mv", source.text, target.text]
  | chmod permission object => ["chmod", permission, object.text]
  | raw _ => []

/-- The line may change what is on the server. -/
def isMutating : WireLine → Bool
  | changeDir _ | list | get _ => false
  | _ => true

end WireLine

end Courier
