import Courier.Cache.Listing
import Courier.Server

/-!
# The directory cache

Listings by server and directory. Every change is made of two moves: one listing is modified, or
all listings that fit a test are forgotten; storing forgets the former listing and adds the new
one. `lookup` is the view through which the cache is seen.
-/

namespace Courier

/-- A listing and what it is cached under. -/
structure CacheSlot where
  server : Server
  path : RemotePath
  listing : Listing
deriving DecidableEq

structure DirectoryCache where
  slots : List CacheSlot := []

namespace DirectoryCache

/-- The number of cached directories. -/
def size (cache : DirectoryCache) : Nat := cache.slots.length

def isEmpty (cache : DirectoryCache) : Bool := cache.slots.isEmpty

def lookup (cache : DirectoryCache) (server : Server) (path : RemotePath) : Option Listing :=
  (cache.slots.find? fun slot => slot.server = server ∧ slot.path = path).map CacheSlot.listing

/-- Changes the listing of one directory, if it is cached. -/
def modify (cache : DirectoryCache) (server : Server) (path : RemotePath)
    (change : Listing → Listing) : DirectoryCache :=
  ⟨cache.slots.map fun slot =>
    if slot.server = server ∧ slot.path = path then { slot with listing := change slot.listing }
    else slot⟩

/-- Drops the listings of a server whose path fits the test. -/
def forget (cache : DirectoryCache) (server : Server) (fits : RemotePath → Bool) :
    DirectoryCache :=
  ⟨cache.slots.filter fun slot => !(slot.server = server && fits slot.path)⟩

/-- Caches a listing under its own path, in place of a former one. -/
def store (cache : DirectoryCache) (server : Server) (listing : Listing) : DirectoryCache :=
  ⟨⟨server, listing.path, listing⟩ :: (cache.forget server (· == listing.path)).slots⟩

/-- Records a change to one entry of a directory; nothing happens if it is not cached. -/
def updateEntry (cache : DirectoryCache) (server : Server) (path : RemotePath) (name : String)
    (isDir : Bool) (freshness : Freshness) : DirectoryCache :=
  cache.modify server path fun listing =>
    { listing with entries := Entry.update name isDir freshness listing.entries }

def removeEntry (cache : DirectoryCache) (server : Server) (path : RemotePath) (name : String) :
    DirectoryCache :=
  cache.modify server path fun listing =>
    { listing with entries := Entry.without name listing.entries }

def forgetDir (cache : DirectoryCache) (server : Server) (path : RemotePath) : DirectoryCache :=
  cache.forget server (· == path)

/-- Forgets a directory: its entry in `path` and every listing at or below it. -/
def removeDir (cache : DirectoryCache) (server : Server) (path : RemotePath) (subDir : String) :
    DirectoryCache :=
  (cache.removeEntry server path subDir).forget server (path.join subDir).isAtOrAbove

/-- The entry that stands for a moved object under its new name. -/
def movedEntry (former : Option Entry) (name : String) : Entry :=
  { name
    isDir := former.any (·.isDir)
    size := former.bind (·.size)
    freshness := .unknown }

/-- Moves an entry within or between directories, as far as they are cached. Listings at or below
the former place describe nothing any more. -/
def rename (cache : DirectoryCache) (server : Server) (fromPath : RemotePath)
    (fromFile : String) (toPath : RemotePath) (toFile : String) : DirectoryCache :=
  let former := (cache.lookup server fromPath).bind (·.find? fromFile)
  let left := cache.modify server fromPath fun listing =>
    { listing with entries := Entry.withoutFirst fromFile listing.entries }
  let arrived := left.modify server toPath fun listing =>
    { listing with
      entries := Entry.without toFile listing.entries ++ [movedEntry former toFile] }
  arrived.forget server (fromPath.join fromFile).isAtOrAbove

/-- Forgets everything about a server. -/
def forgetServer (cache : DirectoryCache) (server : Server) : DirectoryCache :=
  cache.forget server fun _ => true

/-! ## Calls as data -/

/-- A call on the cache. -/
inductive Call where
  | store (server : Server) (listing : Listing)
  | lookup (server : Server) (path : RemotePath)
  | updateEntry (server : Server) (path : RemotePath) (name : String) (isDir : Bool)
      (freshness : Freshness)
  | removeEntry (server : Server) (path : RemotePath) (name : String)
  | forgetDir (server : Server) (path : RemotePath)
  | removeDir (server : Server) (path : RemotePath) (subDir : String)
  | rename (server : Server) (fromPath : RemotePath) (fromFile : String) (toPath : RemotePath)
      (toFile : String)
  | forgetServer (server : Server)

/-- What a call answers. -/
inductive Answer where
  | done
  | found (listing : Option Listing)
  /-- Whether there was a listing to update. -/
  | updated (cached : Bool)

/-- The server a call names. -/
def Call.server : Call → Server
  | .store server _ | .lookup server _ | .updateEntry server _ _ _ _ | .removeEntry server _ _
  | .forgetDir server _ | .removeDir server _ _ | .rename server _ _ _ _
  | .forgetServer server => server

/-- The call may change the cache. -/
def Call.isMutating : Call → Bool
  | .lookup _ _ => false
  | _ => true

def perform (call : Call) (cache : DirectoryCache) : Answer × DirectoryCache :=
  match call with
  | .store server listing => (.done, cache.store server listing)
  | .lookup server path => (.found (cache.lookup server path), cache)
  | .updateEntry server path name isDir freshness =>
    (.updated (cache.lookup server path).isSome,
      cache.updateEntry server path name isDir freshness)
  | .removeEntry server path name => (.done, cache.removeEntry server path name)
  | .forgetDir server path => (.done, cache.forgetDir server path)
  | .removeDir server path subDir => (.done, cache.removeDir server path subDir)
  | .rename server fromPath fromFile toPath toFile =>
    (.done, cache.rename server fromPath fromFile toPath toFile)
  | .forgetServer server => (.done, cache.forgetServer server)

/-! ## The view -/

@[simp]
theorem lookup_empty (server : Server) (path : RemotePath) :
    lookup {} server path = none := rfl

theorem lookup_cons (slot : CacheSlot) (rest : List CacheSlot) (t : Server) (q : RemotePath) :
    lookup ⟨slot :: rest⟩ t q =
      if slot.server = t ∧ slot.path = q then some slot.listing else lookup ⟨rest⟩ t q := by
  by_cases h : slot.server = t ∧ slot.path = q <;> simp [lookup, h]

theorem modify_cons (slot : CacheSlot) (rest : List CacheSlot) (s : Server) (p : RemotePath)
    (change : Listing → Listing) :
    modify ⟨slot :: rest⟩ s p change =
      ⟨(if slot.server = s ∧ slot.path = p then { slot with listing := change slot.listing }
        else slot) :: (modify ⟨rest⟩ s p change).slots⟩ := rfl

/-- A modification is seen at its own place only. -/
theorem lookup_modify (cache : DirectoryCache) (s t : Server) (p q : RemotePath)
    (change : Listing → Listing) :
    (cache.modify s p change).lookup t q =
      if s = t ∧ p = q then (cache.lookup t q).map change else cache.lookup t q := by
  obtain ⟨slots⟩ := cache
  induction slots with
  | nil => simp [modify, lookup]
  | cons slot rest ih =>
    rw [modify_cons, lookup_cons, lookup_cons, show (⟨(modify ⟨rest⟩ s p change).slots⟩ :
      DirectoryCache) = modify ⟨rest⟩ s p change from rfl, ih]
    by_cases here : slot.server = s ∧ slot.path = p
    · by_cases same : s = t ∧ p = q
      · simp [here, same]
      · simp [here, same]
    · by_cases same : s = t ∧ p = q
      · obtain ⟨rfl, rfl⟩ := same
        simp [here]
      · simp [here, same]

theorem forget_cons (slot : CacheSlot) (rest : List CacheSlot) (s : Server)
    (fits : RemotePath → Bool) :
    forget ⟨slot :: rest⟩ s fits =
      if slot.server = s ∧ fits slot.path = true then forget ⟨rest⟩ s fits
      else ⟨slot :: (forget ⟨rest⟩ s fits).slots⟩ := by
  by_cases hs : slot.server = s <;> cases hf : fits slot.path <;> simp [forget, hs, hf]

/-- Forgetting is seen where the test fits and nowhere else. -/
theorem lookup_forget (cache : DirectoryCache) (s t : Server) (fits : RemotePath → Bool)
    (q : RemotePath) :
    (cache.forget s fits).lookup t q =
      if s = t ∧ fits q = true then none else cache.lookup t q := by
  obtain ⟨slots⟩ := cache
  induction slots with
  | nil => simp [forget, lookup]
  | cons slot rest ih =>
    rw [forget_cons, lookup_cons]
    by_cases gone : slot.server = s ∧ fits slot.path = true
    · rw [if_pos gone, ih]
      by_cases asked : slot.server = t ∧ slot.path = q
      · obtain ⟨rfl, rfl⟩ := asked
        simp [gone]
      · simp [asked]
    · rw [if_neg gone, lookup_cons, show (⟨(forget ⟨rest⟩ s fits).slots⟩ : DirectoryCache) =
        forget ⟨rest⟩ s fits from rfl, ih]
      by_cases asked : slot.server = t ∧ slot.path = q
      · obtain ⟨rfl, rfl⟩ := asked
        have kept : ¬(s = slot.server ∧ fits slot.path = true) := fun h => gone ⟨h.1.symm, h.2⟩
        simp [kept]
      · simp [asked]

/-- After storing, the listing stands under its path and the rest is as before. -/
theorem lookup_store (cache : DirectoryCache) (s t : Server) (listing : Listing)
    (q : RemotePath) :
    (cache.store s listing).lookup t q =
      if s = t ∧ listing.path = q then some listing else cache.lookup t q := by
  rw [store, lookup_cons, show (⟨(cache.forget s (· == listing.path)).slots⟩ :
    DirectoryCache) = cache.forget s (· == listing.path) from rfl, lookup_forget]
  by_cases here : s = t ∧ listing.path = q
  · simp [here]
  · have : ¬(s = t ∧ (q == listing.path) = true) := fun ⟨h, k⟩ =>
      here ⟨h, (beq_iff_eq.1 k).symm⟩
    simp only [here, this, if_false]

end DirectoryCache

end Courier
