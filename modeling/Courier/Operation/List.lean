import Courier.Operation.Basic

/-!
# Listing a directory

A cached listing is taken if it is good enough: every entry as the server listed it, and young
enough, unless the command waives that. Otherwise the directory is entered and listed. A request
about a link takes a failure to enter as the answer that the link leads to no directory.
-/

namespace Courier.ListTask

variable {τ : Type} [Transport τ]

/-- Nanoseconds in a second. -/
def nanos : Nat := 1000000000

/-- The listing may stand in for a fresh one. -/
def isGoodEnough (env : Env) (flags : ListFlags) (listing : Listing) : Bool :=
  !listing.hasUnsure &&
    (flags.contains .avoid ||
      decide (listing.age env.now < env.settings.cacheTtl.toNat * nanos))

/-- Looks whether a cached listing of `target` will do. -/
def consultCache (env : Env) (flags : ListFlags) (target : Option RemotePath)
    (desk : Desk τ Operation) : Bool × Desk τ Operation :=
  if flags.intersects (.refresh ||| .link) then (false, desk)
  else
    match target with
    | none => (false, desk)
    | some path =>
      let (listing, desk) := desk.lookup path
      (listing.any (isGoodEnough env flags), desk)

/-- Discards the cached listing if the command asks for it. -/
def discard (flags : ListFlags) (target : Option RemotePath) (desk : Desk τ Operation) :
    Desk τ Operation :=
  match target with
  | some path =>
    if flags.contains .clearCache then desk.tellCache (.forgetDir · path) else desk
  | none => desk

def send (env : Env) (task : ListTask) (desk : Desk τ Operation) : Step τ Operation ListTask :=
  match task.progress with
  | .start =>
    let current := desk.session.directory
    let target := task.request.target? current
    let desk := discard task.request.flags target desk
    let (good, desk) := consultCache env task.request.flags target desk
    if good then (desk.note .debug "cached listing is sufficient").answer .ok task
    else
      match target with
      | some path =>
        if task.request.path.isUnspecified ∨ current = some path then
          desk.answer .again { task with progress := .ready target }
        else (desk.enter path).answer .again { task with progress := .entering path }
      | none => desk.answer .again { task with progress := .ready none }
  | .ready target =>
    let text := match target with
      | some path => "Retrieving directory listing of '" ++ path.text ++ "'"
      | none => "Retrieving directory listing"
    (desk.note .info text).send .list { task with progress := .waiting target }
  | .entering _ | .waiting _ => desk.unexpected .list task.stage "send" task

/-- Every entry as the server listed it. -/
def fresh (entries : List Entry) : List Entry :=
  entries.map fun entry => { entry with freshness := .known }

def completed (env : Env) (task : ListTask) (desk : Desk τ Operation) :
    Step τ Operation ListTask :=
  match task.progress with
  | .waiting target =>
    let result := desk.result
    if result.isError then desk.answer result task
    else
      let (entries, desk) := desk.takeListing
      let desk := match target, entries with
        | some path, some entries =>
          desk.tellCache (.store · { path, entries := fresh entries, fetched := env.now })
        | _, _ => desk
      desk.answer result task
  | .start | .entering _ | .ready _ => desk.unexpected .list task.stage "response" task

/-- The directory has been entered, or could not be. -/
def returned (entered : Reply) (task : ListTask) (desk : Desk τ Operation) :
    Step τ Operation ListTask :=
  match task.progress with
  | .entering target =>
    let flags := task.request.flags
    if entered = .ok then desk.answer .again { task with progress := .ready (some target) }
    else if flags.contains .link && !entered.isCritical then
      (desk.note .debug "link is not a directory").answer .linkNotDir task
    else if !flags.contains .fallbackCurrent then desk.answer entered task
    else
      (desk.noteEntered entered "listing the current one").answer .again
        { task with progress := .ready desk.session.directory }
  | .start | .ready _ | .waiting _ =>
    desk.unexpected .list task.stage "subcommand result" task

end Courier.ListTask
