import Courier.Command.Basic

/-!
# Equal commands

Commands are equal if they have the same kind and equal parameters, where sources and sinks are
compared by what they describe. The size of a file is asked of the store at that moment.
-/

namespace Courier

def TransferEnd.same (store : Local.Store) : TransferEnd → TransferEnd → Bool
  | upload a, upload b => a.same store b
  | download a, download b => a.same b
  | _, _ => false

/-- Both missing, or both there and the same. -/
def sameOption {α : Type} (same : α → α → Bool) : Option α → Option α → Bool
  | none, none => true
  | some a, some b => same a b
  | _, _ => false

def Command.same (store : Local.Store) : Command → Command → Bool
  | connect a, connect b =>
    a.server == b.server && a.handle == b.handle && a.credentials.same b.credentials &&
      a.retry == b.retry
  | disconnect, disconnect => true
  | list a, list b => a.path == b.path && a.subDir == b.subDir && a.flags == b.flags
  | transfer a, transfer b =>
    a.localEnd.same store b.localEnd && a.path == b.path && a.file == b.file &&
      a.flags == b.flags && a.extra == b.extra && a.resume == b.resume
  | delete a, delete b => a.path == b.path && a.files == b.files
  | removeDir a, removeDir b => a.path == b.path && a.subDir == b.subDir
  | makeDir a, makeDir b => a.path == b.path
  | rename a, rename b =>
    a.fromPath == b.fromPath && a.fromFile == b.fromFile && a.toPath == b.toPath &&
      a.toFile == b.toFile
  | chmod a, chmod b => a.path == b.path && a.file == b.file && a.permission == b.permission
  | raw a, raw b => a == b
  | http a, http b =>
    a.uri == b.uri && a.verb == b.verb && sameOption (·.same store ·) a.body b.body &&
      sameOption (·.same ·) a.response b.response && a.confidential == b.confidential
  | _, _ => false

end Courier
